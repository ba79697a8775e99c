import TreeSchema.Proofs.Passing

/-!
Coercion of data that conforms. Beside each stage of a checking run stands the
same stage of a coercing run, on one and the same node: where the first passes,
the second is to pass, too, and to leave the node as it is (`Spares`). Checking
never writes to the node, so the relation is respected by putting stages
together, and every place where a coercing run would write is one where a
checking run reports a finding. The exceptions are `anyOf` and `oneOf`: a branch
that checking rejects may pass when it is coerced, and then it counts.
-/

namespace TreeSchema

/-- A run that passes without coercion passes with it, too, and leaves the node. -/
def Spared (v : Visit) (options : Options) (node schema : Tree) : Prop :=
  (v (.collecting options false) node schema).passes = true →
    (v (.collecting options true) node schema).passes = true ∧
      (v (.collecting options true) node schema).node = node

namespace Stage

/-- The branches that are tried and pass; with `first`, only the first that does. -/
def hit (run : Tree → Run) (first : Bool) (schemas : List Tree) : List Tree :=
  let hits t := (run t).passes
  if first then (schemas.find? hits).toList else schemas.filter hits

theorem mem_of_mem_hit {run : Tree → Run} {first : Bool} {schemas : List Tree} {t : Tree}
    (mem : t ∈ hit run first schemas) : t ∈ schemas ∧ (run t).passes = true := by
  cases first with
  | true =>
    have found := Option.mem_toList.1 mem
    have hits := List.find?_some found
    exact ⟨List.mem_of_find?_eq_some found, hits⟩
  | false => exact List.mem_filter.1 mem

/-- The branches that are tried and do not pass; with `first`, those before the first that does. -/
def missed (run : Tree → Run) (first : Bool) (schemas : List Tree) : List Tree :=
  let misses t := !(run t).passes
  if first then schemas.takeWhile misses else schemas.filter misses

/-- On the node, the first stage writes nothing, and where it passes, the second one passes and
leaves the node. -/
structure Spares (node : Tree) (s t : Stage) : Prop where
  stays : ∀ held, (s ⟨node, held⟩).node = node
  spares : ∀ held, (s ⟨node, held⟩).passes = true →
    held = [] ∧ (s ⟨node, held⟩).stop = none ∧ Passes t node node

namespace Spares

variable {node : Tree} {s t : Stage}

theorem of_not_passes (stays : ∀ held, (s ⟨node, held⟩).node = node)
    (rejects : ∀ held, (s ⟨node, held⟩).passes ≠ true) (t : Stage) : Spares node s t :=
  ⟨stays, fun held passes => absurd passes (rejects held)⟩

theorem of_skip (passes : Passes t node node) : Spares node skip t where
  stays _ := rfl
  spares _ skips := ⟨((Run.passes_iff _).1 skips).2, rfl, passes⟩

theorem skip (node : Tree) : Spares node skip Stage.skip :=
  of_skip (passes_skip.2 rfl)

theorem interrupt (node : Tree) (i : Interruption) (t : Stage) : Spares node (interrupt i) t := by
  refine of_not_passes (fun _ => rfl) (fun held passes => ?_) t
  cases ((Run.passes_iff _).1 passes).1

theorem reject (node : Tree) (options : Options) (coercing : Bool) (v : Violation) (t : Stage) :
    Spares node (reject (.collecting options coercing) v) t := by
  unfold Stage.reject
  cases v.finding with
  | error cause => exact interrupt node _ t
  | ok f =>
    refine of_not_passes (fun _ => rfl) (fun held passes => ?_) t
    exact Config.collecting_remembers options coercing held f ((Run.passes_iff _).1 passes).2

theorem progress_eq (h : Spares node s t) (held : List Finding) :
    (s ⟨node, held⟩).toProgress = ⟨node, (s ⟨node, held⟩).findings⟩ :=
  congrArg (Progress.mk · _) (h.stays held)

theorem cons {xs ys : List Stage} (first : Spares node s t)
    (rest : Spares node (sequence xs) (sequence ys)) :
    Spares node (sequence (s :: xs)) (sequence (t :: ys)) where
  stays held := by
    cases stopped : (s ⟨node, held⟩).stop with
    | none =>
      rw [sequence_cons_of_none stopped, first.progress_eq held]
      exact rest.stays _
    | some stop => rw [sequence_cons_of_some stopped, first.stays]
  spares held passes := by
    cases stopped : (s ⟨node, held⟩).stop with
    | some stop =>
      rw [sequence_cons_of_some stopped] at passes
      exact nomatch stopped.symm.trans (first.spares held passes).2.1
    | none =>
      rw [sequence_cons_of_none stopped, first.progress_eq held] at passes ⊢
      obtain ⟨clean, goesOn, others⟩ := rest.spares _ passes
      -- The rest was handed no findings, so the first stage has passed.
      obtain ⟨nothing, -, passed⟩ := first.spares held
        ((Run.passes_iff _).2 ⟨by rw [Run.interruption?, stopped], clean⟩)
      refine ⟨nothing, goesOn, ?_⟩
      rw [Passes, sequence_cons_of_none (by rw [passed]), passed]
      exact others

theorem byNode (h : ∀ n, n = node → ∃ s' t', Spares node s' t' ∧
    (∀ held, s ⟨n, held⟩ = s' ⟨n, held⟩) ∧ ∀ held, t ⟨n, held⟩ = t' ⟨n, held⟩) :
    Spares node s t := by
  obtain ⟨s', t', related, left, right⟩ := h node rfl
  refine ⟨fun held => left held ▸ related.stays held, fun held passes => ?_⟩
  rw [left] at passes ⊢
  obtain ⟨nothing, goesOn, passed⟩ := related.spares held passes
  exact ⟨nothing, goesOn, (passes_congr (right [])).2 passed⟩

theorem sequential (node : Tree) : Sequential (· = node) (Spares node) :=
  ⟨skip node, cons, byNode⟩

variable {options : Options}

theorem join {part other : Run} {place : Tree → Tree} {data path : Pointer}
    (spared : part.passes = true → other.passes = true ∧ place other.node = node) :
    Spares node (join (.collecting options false) part place data path)
      (Stage.join (.collecting options true) other place data path) := by
  cases stopped : part.interruption? with
  | some i =>
    have related := interrupt node (i.under path)
      (Stage.join (.collecting options true) other place data path)
    exact byNode fun _ _ => ⟨_, _, related, fun _ => join_of_some stopped .., fun _ => rfl⟩
  | none =>
    have reports (held : List Finding) :
        Stage.join (.collecting options false) part place data path ⟨node, held⟩ =
          ⟨⟨node, held ++ part.findings.map (·.under data path)⟩, none⟩ := by
      rw [join_of_none stopped, ← reports_collecting options false, List.map_map]
      rfl
    refine ⟨fun held => by rw [reports], fun held passes => ?_⟩
    rw [reports] at passes ⊢
    obtain ⟨nothing, clean⟩ := List.append_eq_nil_iff.1 ((Run.passes_iff _).1 passes).2
    have passed := (Run.passes_iff _).2 ⟨stopped, List.map_eq_nil_iff.1 clean⟩
    obtain ⟨passed, same⟩ := spared passed
    exact ⟨nothing, rfl, (passes_join (Config.collecting_remembers options true)).2
      ⟨passed, same.symm⟩⟩

/-! ### What a schema does by itself -/

theorem checkTypes (node : Tree) (options : Options) (types : List TypeName) :
    Spares node (checkTypes (.collecting options false) types)
      (Stage.checkTypes (.collecting options true) types) :=
  byNode fun n _ => by
    by_cases typed : types.any n.hasType = true
    · exact ⟨_, _, skip node, fun _ => checkTypes_of_typed typed,
        fun _ => checkTypes_of_typed typed⟩
    · exact ⟨_, _, reject node options false (.invalidType n.kindText) _,
        fun _ => checkTypes_of_plain typed Bool.false_ne_true, fun _ => rfl⟩

theorem checkConstraint (node : Tree) (options : Options) (c : Constraint) :
    Spares node (checkConstraint (.collecting options false) c)
      (Stage.checkConstraint (.collecting options true) c) :=
  byNode fun n _ => by
    match judged : c.judge n with
    | .error cause =>
      exact ⟨_, _, interrupt node (.failure cause) _, fun _ => checkConstraint_of_failure judged,
        fun _ => rfl⟩
    | .ok none =>
      exact ⟨_, _, skip node, fun _ => checkConstraint_of_none judged,
        fun _ => checkConstraint_of_none judged⟩
    | .ok (some v) =>
      exact ⟨_, _, reject node options false v _, fun _ => checkConstraint_of_some judged,
        fun _ => rfl⟩

theorem checkConstraints (node : Tree) (options : Options) (constraints : Constraint.Reading) :
    Spares node (checkConstraints (.collecting options false) constraints)
      (Stage.checkConstraints (.collecting options true) constraints) := by
  cases constraints with
  | ok cs => exact (sequential node).map fun c _ => checkConstraint node options c
  | error i => exact interrupt node i _

theorem requireKey (node : Tree) (options : Options) (schema : Members) (index : Nat)
    (key : String) :
    Spares node (requireKey (.collecting options false) schema index key)
      (Stage.requireKey (.collecting options true) schema index key) :=
  byNode fun n _ => by
    by_cases present : n.members.has key = true
    · exact ⟨_, _, skip node, fun _ => requireKey_of_has present ..,
        fun _ => requireKey_of_has present ..⟩
    · exact ⟨_, _, reject node options false _ _,
        fun _ => requireKey_of_plain present Bool.false_ne_true .., fun _ => rfl⟩

theorem requireOther (node : Tree) (options : Options) (key other : String) (index : Option Nat) :
    Spares node (requireOther (.collecting options false) key other index)
      (Stage.requireOther (.collecting options true) key other index) :=
  byNode fun n _ => by
    by_cases present : n.members.has other = true
    · exact ⟨_, _, skip node, fun _ => requireOther_of_has present ..,
        fun _ => requireOther_of_has present ..⟩
    · exact ⟨_, _, reject node options false _ _, fun _ => requireOther_of_not_has present ..,
        fun _ => rfl⟩

theorem fillDeclared (node : Tree) (fillsNone : options.setMissingToDefault = false)
    (schema : Members) (key : String) (s : Tree) :
    Spares node (fillDeclared (.collecting options false) schema key s)
      (Stage.fillDeclared (.collecting options true) schema key s) :=
  byNode fun n _ =>
    ⟨_, _, skip node, fun _ => fillDeclared_of_not_missing (by simp) _,
      fun _ => fillDeclared_of_not_missing (by simp [fillsNone]) _⟩

/-! ### Combinations -/

section

variable {f g : Tree → Run} {keyword : String} {first : Bool} {index : Nat} {schemas : List Tree}
  {verdicts : Verdicts}

theorem mem_hit_cons {u : Tree} {rest : List Tree} (mem : u ∈ hit f first rest) (t : Tree)
    (goesOn : ((f t).passes && first) = false) : u ∈ hit f first (t :: rest) := by
  cases first with
  | true =>
    rw [Bool.and_true] at goesOn
    simpa [hit, goesOn] using mem
  | false => exact List.mem_filter.2 ((List.mem_filter.1 mem).imp_left (List.mem_cons_of_mem _))

theorem mem_hit_self {t : Tree} (hits : (f t).passes = true) (rest : List Tree) :
    t ∈ hit f first (t :: rest) := by
  cases first <;> simp [hit, hits]

theorem mem_missed_cons {u : Tree} {rest : List Tree} (mem : u ∈ missed f first rest) (t : Tree)
    (goesOn : ((f t).passes && first) = false) : u ∈ missed f first (t :: rest) := by
  cases first with
  | true =>
    rw [Bool.and_true] at goesOn
    simpa [missed, goesOn] using .inr mem
  | false => exact List.mem_filter.2 ((List.mem_filter.1 mem).imp_left (List.mem_cons_of_mem _))

theorem mem_missed_self {t : Tree} (misses : (f t).passes = false) (rest : List Tree) :
    t ∈ missed f first (t :: rest) := by
  cases first <;> simp [missed, misses]

/-- Branches that are spared or rejected alike, as far as they are tried, come to the same verdicts,
and leave the node. -/
theorem judgeBranches_spared (judged : judgeBranches f keyword first index schemas = .ok verdicts)
    (spared : ∀ t ∈ hit f first schemas, (g t).passes = true ∧ (g t).node = node)
    (rejects : ∀ t ∈ missed f first schemas, (g t).Rejects) :
    ∃ groups, judgeBranches g keyword first index schemas =
      .ok ⟨verdicts.passing.map fun branch => (branch.1, node), groups⟩ := by
  refine judgeBranches_induction (motive := fun index schemas verdicts =>
    (∀ t ∈ hit f first schemas, (g t).passes = true ∧ (g t).node = node) →
    (∀ t ∈ missed f first schemas, (g t).Rejects) →
    ∃ groups, judgeBranches g keyword first index schemas =
      .ok ⟨verdicts.passing.map fun branch => (branch.1, node), groups⟩)
    (fun index _ _ => ⟨[], rfl⟩) (fun index t rest eager passed spared _ => ?_)
    (fun index t rest verdicts ends goesOn ih spared rejects => ?_) judged spared rejects
  · obtain ⟨passes, leaves⟩ := spared t (mem_hit_self passed rest)
    subst eager leaves
    exact ⟨[], judgeBranches_of_passes passes⟩
  · obtain ⟨groups, others⟩ := ih (fun u mem => spared u (mem_hit_cons mem t goesOn))
      fun u mem => rejects u (mem_missed_cons mem t goesOn)
    cases passed : (f t).passes with
    | true =>
      obtain ⟨passes, leaves⟩ := spared t (mem_hit_self passed rest)
      have ends := ((Run.passes_iff _).1 passes).1
      rw [passed] at goesOn
      rw [judgeBranches_of_none ends (by rw [passes, goesOn]), others,
        Verdicts.cons_of_passes passed]
      refine ⟨groups, ?_⟩
      rw [Except.map, Verdicts.cons_of_passes passes, leaves]
      rfl
    | false =>
      obtain ⟨ends, misses⟩ := rejects t (mem_missed_self passed rest)
      rw [judgeBranches_of_none ends (by rw [misses, Bool.false_and]), others,
        Verdicts.cons_of_not_passes (by simp [passed])]
      refine ⟨groupOf (branchPath keyword index) (g t) :: groups, ?_⟩
      rw [Except.map, Verdicts.cons_of_not_passes (by simp [misses])]

end

theorem adopt (node other : Tree) (options : Options) :
    Spares node (adopt (.collecting options false) other)
      (Stage.adopt (.collecting options true) node) :=
  of_skip (passes_replace.2 rfl)

section

variable {v : Visit} {schemas : List Tree}

theorem anyOf
    (spared : ∀ t ∈ hit (v (.collecting options false) node) true schemas, Spared v options node t)
    (rejects : ∀ t ∈ missed (v (.collecting options false) node) true schemas,
      (v (.collecting options true) node t).Rejects) :
    Spares node (anyOf v (.collecting options false) (.array schemas))
      (Stage.anyOf v (.collecting options true) (.array schemas)) := by
  refine byNode fun n same => ?_
  subst same
  match judged : judgeBranches (v (.collecting options false) n) "anyOf" true 0 schemas with
  | .error i => exact ⟨_, _, interrupt n i _, fun _ => anyOf_of_error judged, fun _ => rfl⟩
  | .ok ⟨[], groups⟩ =>
    exact ⟨_, _, reject n options false _ _, fun _ => anyOf_of_nil judged, fun _ => rfl⟩
  | .ok ⟨branch :: more, groups⟩ =>
    obtain ⟨groups', judged'⟩ := judgeBranches_spared judged
      (fun t mem => spared t mem (mem_of_mem_hit mem).2) rejects
    -- The coercing run adopts what the spared branch leaves, which is the node.
    have adopts (held : List Finding) :
        Stage.anyOf v (.collecting options true) (.array schemas) ⟨n, held⟩ =
          Stage.adopt (.collecting options true) (branch.1, n).2 ⟨n, held⟩ :=
      anyOf_of_cons judged'
    exact ⟨_, _, adopt n branch.2 options, fun _ => anyOf_of_cons judged, adopts⟩

theorem neighbours_map (node : Tree) (passing : List (Nat × Tree)) :
    neighbours (passing.map fun branch => (branch.1, node)) = neighbours passing := by
  simp [neighbours, Function.comp_def]

theorem oneOf
    (spared : ∀ t ∈ hit (v (.collecting options false) node) false schemas, Spared v options node t)
    (rejects : ∀ t ∈ missed (v (.collecting options false) node) false schemas,
      (v (.collecting options true) node t).Rejects) :
    Spares node (oneOf v (.collecting options false) (.array schemas))
      (Stage.oneOf v (.collecting options true) (.array schemas)) := by
  refine byNode fun n same => ?_
  subst same
  match judged : judgeBranches (v (.collecting options false) n) "oneOf" false 0 schemas with
  | .error i => exact ⟨_, _, interrupt n i _, fun _ => oneOf_of_error judged, fun _ => rfl⟩
  | .ok ⟨[], groups⟩ =>
    exact ⟨_, _, reject n options false _ _, fun _ => oneOf_of_nil judged, fun _ => rfl⟩
  | .ok ⟨branch :: more, groups⟩ =>
    obtain ⟨groups', judged'⟩ := judgeBranches_spared judged
      (fun t mem => spared t mem (mem_of_mem_hit mem).2) rejects
    have multiple : Spares n
        (sequence ((neighbours (branch :: more)).map fun pair =>
          Stage.reject (.collecting options false) (.oneOfMultiple pair.1 pair.2)))
        (sequence ((neighbours (branch :: more)).map fun pair =>
          Stage.reject (.collecting options true) (.oneOfMultiple pair.1 pair.2))) :=
      (sequential n).map fun _ _ => reject n options false ..
    refine ⟨_, _, cons (adopt n branch.2 options) multiple, fun _ => oneOf_of_cons judged,
      fun _ => ?_⟩
    rw [← neighbours_map n (branch :: more)]
    exact oneOf_of_cons judged'

theorem notAny (node : Tree) (options : Options) (t : Tree) :
    Spares node (notAny v (.collecting options false) t)
      (Stage.notAny v (.collecting options true) t) :=
  byNode fun n _ => by
    match stopped : (v (.collecting options false) n t).interruption? with
    | some i =>
      exact ⟨_, _, interrupt node (i.under (.key "not")) _, fun _ => notAny_of_some stopped,
        fun _ => rfl⟩
    | none =>
      by_cases passes : (v (.collecting options false) n t).passes = true
      · exact ⟨_, _, reject node options false .notPassed _,
          fun _ => (notAny_of_none stopped).trans (if_pos passes), fun _ => rfl⟩
      · exact ⟨_, _, skip node, fun _ => (notAny_of_none stopped).trans (if_neg passes),
          fun _ => (notAny_of_none stopped).trans (if_neg passes)⟩

end

/-! ### All of it -/

theorem walk {s : Members} {v : Visit} (fillsNone : options.setMissingToDefault = false)
    (countsAll : options.ignoreNullProperties = false)
    (parts : ∀ {u t : Tree} {place : Tree → Tree} {data path : Pointer},
      AppliesBy ["allOf", "oneOf"] s node u t place data path → Spared v options u t)
    (chosen : ∀ schemas, s.get? "anyOf" = some (.array schemas) →
      ∀ t ∈ hit (v (.collecting options false) node) true schemas, Spared v options node t)
    (any : ∀ schemas, s.get? "anyOf" = some (.array schemas) →
      ∀ t ∈ missed (v (.collecting options false) node) true schemas,
        (v (.collecting options true) node t).Rejects)
    (one : ∀ schemas, s.get? "oneOf" = some (.array schemas) →
      ∀ t ∈ missed (v (.collecting options false) node) false schemas,
        (v (.collecting options true) node t).Rejects) :
    Walk (.collecting options false) (.collecting options true) v v (· = node) (Spares node) s where
  toSequential := sequential node
  misread _ := interrupt node _ _
  types _ _ := checkTypes ..
  constraints _ := checkConstraints ..
  counted {members} met := by
    have all : countedMembers options s members = members := by
      unfold countedMembers
      rw [countsAll]
    subst met
    rw [Config.collecting_options, Config.collecting_options, all]
    exact byNode fun n same => ⟨_, _, skip _, fun held => same ▸ rfl, fun held => same ▸ rfl⟩
  require _ _ _ _ := requireKey ..
  fill _ _ _ := fillDeclared node fillsNone ..
  forbid _ _ _ := byNode fun n _ =>
    ⟨_, _, reject node options false _ _, fun _ => checkExtra_of_plain Bool.false_ne_true,
      fun _ => rfl⟩
  requireAll _ _ _ _ := requireOther ..
  requireOne _ _ := requireOther ..
  excess _ _ _ _ _ := reject ..
  part := by
    rintro n u t place data path rfl applies
    refine join fun passes => ?_
    obtain ⟨passes, same⟩ := parts (applies.mono (by decide)) passes
    exact ⟨passes, by rw [same, (applies.applies (by decide)).place_eq]⟩
  anyOf {schemas} found := anyOf (chosen schemas found) (any schemas found)
  oneOf {schemas} found := by
    refine oneOf (fun t mem => ?_) (one schemas found)
    obtain ⟨index, place⟩ := List.mem_iff_getElem?.1 (mem_of_mem_hit mem).1
    exact parts (.branch (by decide) found place)
  notAny _ := notAny ..

end Spares

end Stage

end TreeSchema
