import TreeSchema.Proofs.Collecting
import TreeSchema.Validator

/-!
Runs with a cap on the number of findings. Every run within a run has the same
cap and halts on its own, so it has to be said what is left of the run that has
no cap: its first findings, with every group of alternatives cut in the same way
(`Finding.truncate`). A capped stage does what the stage without a cap does for
as long as there are fewer findings than the cap, and halts as soon as there are
enough. A halted part never goes unnoticed, because its findings alone fill the
run around it.
-/

namespace TreeSchema

/-! ### Cutting findings -/

namespace Finding

mutual

/-- The finding with the first `k` findings of each of its groups, these cut in the same way. -/
def truncate (k : Nat) : Finding → Finding
  | ⟨code, dataPath, schemaPath, message, groups⟩ =>
    ⟨code, dataPath, schemaPath, message, truncateGroups k groups⟩

def truncateGroups (k : Nat) : List (List Finding) → List (List Finding)
  | [] => []
  | group :: rest => (truncateGroup k group).take k :: truncateGroups k rest

def truncateGroup (k : Nat) : List Finding → List Finding
  | [] => []
  | f :: rest => f.truncate k :: truncateGroup k rest

end

theorem truncateGroup_eq_map (k : Nat) (group : List Finding) :
    truncateGroup k group = group.map (truncate k) := by
  induction group with
  | nil => rfl
  | cons f rest ih => rw [truncateGroup, ih, List.map_cons]

theorem truncate_of_groups_nil {f : Finding} (h : f.groups = []) (k : Nat) : f.truncate k = f := by
  obtain ⟨code, dataPath, schemaPath, message, groups⟩ := f
  cases h
  rfl

mutual

theorem truncate_under (k : Nat) (data path : Pointer) (f : Finding) :
    (f.under data path).truncate k = (f.truncate k).under data path := by
  obtain ⟨code, dataPath, schemaPath, message, groups⟩ := f
  simp only [under, truncate, truncateGroups_under k data path groups]

theorem truncateGroups_under (k : Nat) (data path : Pointer) (groups : List (List Finding)) :
    truncateGroups k (underGroups data path groups) =
      underGroups data path (truncateGroups k groups) := by
  match groups with
  | [] => rfl
  | group :: rest =>
    simp only [underGroups, truncateGroups]
    rw [truncateGroup_under k data path group, truncateGroups_under k data path rest]
    simp only [underGroup_eq_map, List.map_take]

theorem truncateGroup_under (k : Nat) (data path : Pointer) (group : List Finding) :
    truncateGroup k (underGroup data path group) =
      underGroup data path (truncateGroup k group) := by
  match group with
  | [] => rfl
  | f :: rest =>
    simp only [underGroup, truncateGroup, truncate_under k data path f,
      truncateGroup_under k data path rest]

end

end Finding

open Finding (truncate)

/-! ### Capped stages -/

def Config.capped (k : Nat) (options : Options) (coercing : Bool) : Config :=
  { mode := .collectAll, cap := some k, coercing, options }

/-- What a capped run comes to, beside the same run without the cap. -/
structure Run.Truncates (k : Nat) (capped full : Run) : Prop where
  findings : capped.findings = (full.findings.map (truncate k)).take k
  goesOn : full.findings.length < k → capped.stop = none ∧ capped.node = full.node
  halts : k ≤ full.findings.length → capped.stop = some .halted

namespace Run.Truncates

variable {k : Nat} {capped full : Run}

theorem interruption?_eq_none (h : Truncates k capped full) : capped.interruption? = none := by
  rcases Nat.lt_or_ge full.findings.length k with fewer | enough
  · simp [interruption?, (h.goesOn fewer).1]
  · simp [interruption?, h.halts enough]

theorem findings_eq_nil_iff (h : Truncates k capped full) (pos : 0 < k) :
    capped.findings = [] ↔ full.findings = [] := by
  rw [h.findings, List.take_eq_nil_iff, List.map_eq_nil_iff]
  exact or_iff_right (Nat.ne_of_gt pos)

theorem passes_eq (h : Truncates k capped full) (pos : 0 < k) (ends : full.interruption? = none) :
    capped.passes = full.passes := by
  rw [Bool.eq_iff_iff, passes_iff, passes_iff, h.findings_eq_nil_iff pos,
    h.interruption?_eq_none, ends]

theorem node_eq (h : Truncates k capped full) (pos : 0 < k) (passes : full.passes = true) :
    capped.node = full.node := by
  have none := (full.passes_iff.1 passes).2
  exact (h.goesOn (by simpa [none] using pos)).2

end Run.Truncates

namespace Stage

/-- From fewer findings than the cap, the capped stage comes to what the full one comes to. -/
structure Truncates (k : Nat) (capped full : Stage) : Prop where
  collects : Collects full
  from_held : ∀ node held, held.length < k → (full ⟨node, held⟩).interruption? = none →
    Run.Truncates k (capped ⟨node, held.map (truncate k)⟩) (full ⟨node, held⟩)

/-! ### Reports -/

theorem reports_capped {k : Nat} (options : Options) (coercing : Bool) (node : Tree)
    {held : List Finding} (fs : List Finding) (room : held.length < k) :
    sequence (fs.map (report (.capped k options coercing))) ⟨node, held⟩ =
      ⟨⟨node, (held ++ fs).take k⟩,
        if (held ++ fs).length < k then none else some .halted⟩ := by
  induction fs generalizing held with
  | nil => simp [skip, room, List.take_of_length_le (Nat.le_of_lt room)]
  | cons f rest ih =>
    have reported : report (.capped k options coercing) f ⟨node, held⟩ =
        ⟨⟨node, held ++ [f]⟩, if held.length + 1 < k then none else some .halted⟩ := by
      simp [report, Config.capped, Mode.add, room]
    rw [List.map_cons]
    by_cases more : held.length + 1 < k
    · rw [if_pos more] at reported
      rw [sequence_cons_of_none (by rw [reported]), reported, ih (by simpa using more)]
      simp
    · -- The cap is reached by `f`, and `rest` is never looked at.
      rw [if_neg more] at reported
      have full : (held ++ [f]).length = k := by
        simp only [List.length_append, List.length_singleton]
        omega
      rw [sequence_cons_of_some (by rw [reported]), reported]
      have cut : (held ++ f :: rest).take k = held ++ [f] := by
        rw [List.append_cons, List.take_append_of_le_length (Nat.le_of_eq full.symm), ← full,
          List.take_length]
      have enough : ¬ (held ++ f :: rest).length < k := by
        simp only [List.length_append, List.length_cons] at full ⊢
        omega
      rw [cut, if_neg enough]

namespace Truncates

variable {k : Nat} {options : Options} {coercing : Bool}

theorem of_interrupt (s : Stage) (i : Interruption) : Truncates k s (interrupt i) where
  collects := .interrupt i
  from_held _ _ _ ends := nomatch ends

theorem replace (node : Tree) : Truncates k (replace node) (Stage.replace node) where
  collects := .replace node
  from_held _ held room _ :=
    { findings := by
        rw [List.take_of_length_le (by simpa [Stage.replace] using Nat.le_of_lt room)]
        rfl
      goesOn := fun _ => ⟨rfl, rfl⟩
      halts := fun enough => absurd room (Nat.not_lt.2 enough) }

theorem skip : Truncates k skip Stage.skip where
  collects := .skip
  from_held _ held room _ :=
    { findings := by
        rw [List.take_of_length_le (by simpa [Stage.skip] using Nat.le_of_lt room)]
        rfl
      goesOn := fun _ => ⟨rfl, rfl⟩
      halts := fun enough => absurd room (Nat.not_lt.2 enough) }

/-- Reporting the cut findings of a part is what is left of reporting all of them. The nodes need
not be the same when there are enough findings. -/
theorem reports (options : Options) (coercing : Bool) {fs gs : List Finding} {node other : Tree}
    {held : List Finding} (room : held.length < k) (cut : gs = (fs.map (truncate k)).take k)
    (same : fs.length < k → node = other) :
    Run.Truncates k
      (sequence (gs.map (report (.capped k options coercing))) ⟨node, held.map (truncate k)⟩)
      (sequence (fs.map (report (.collecting options coercing))) ⟨other, held⟩) := by
  rw [reports_collecting, reports_capped options coercing node gs (by simpa using room)]
  subst cut
  refine ⟨?_, fun fewer => ⟨if_pos ?_, same ?_⟩, fun enough => if_neg ?_⟩
  · simp [List.take_append, List.take_take]
  · simp only [List.length_append, List.length_map, List.length_take] at fewer ⊢
    omega
  · simp only [List.length_append] at fewer
    omega
  · simp only [List.length_append, List.length_map, List.length_take] at enough ⊢
    omega

theorem report (f : Finding) :
    Truncates k (report (.capped k options coercing) (f.truncate k))
      (Stage.report (.collecting options coercing) f) where
  collects := .report options coercing f
  from_held node held room _ := by
    have cut : [f.truncate k] = ([f].map (truncate k)).take k := by
      rw [List.take_of_length_le (by simp only [List.length_map, List.length_singleton]; omega)]
      rfl
    simpa only [List.map_cons, List.map_nil, sequence_singleton] using
      reports options coercing room cut fun _ => rfl

theorem reject {v w : Violation} (h : v.finding = w.finding.map (truncate k)) :
    Truncates k (reject (.capped k options coercing) v)
      (Stage.reject (.collecting options coercing) w) := by
  unfold Stage.reject
  rw [h]
  cases w.finding with
  | ok f =>
    show Truncates k (Stage.report (.capped k options coercing) (f.truncate k))
      (Stage.report (.collecting options coercing) f)
    exact report f
  | error cause => exact of_interrupt _ _

theorem cons {s t : Stage} {xs ys : List Stage} (first : Truncates k s t)
    (rest : Truncates k (sequence xs) (sequence ys)) :
    Truncates k (sequence (s :: xs)) (sequence (t :: ys)) where
  collects := .cons first.collects rest.collects
  from_held node held room ends := by
    have goes := first.collects.first_goes_on ends
    rw [sequence_cons_of_none goes] at ends ⊢
    have cut := first.from_held node held room (by simp [Run.interruption?, goes])
    by_cases fewer : (t ⟨node, held⟩).findings.length < k
    · obtain ⟨on, same⟩ := cut.goesOn fewer
      have told : (s ⟨node, held.map (truncate k)⟩).findings =
          (t ⟨node, held⟩).findings.map (truncate k) := by
        rw [cut.findings, List.take_of_length_le (by simpa using Nat.le_of_lt fewer)]
      have progress : (s ⟨node, held.map (truncate k)⟩).toProgress =
          ⟨(t ⟨node, held⟩).node, (t ⟨node, held⟩).findings.map (truncate k)⟩ := by
        rw [← same, ← told]
      rw [sequence_cons_of_none on, progress]
      exact rest.from_held _ _ fewer ends
    · -- The cap is reached: the capped run is over, and the full one only adds findings.
      have enough := Nat.le_of_not_lt fewer
      have halted := cut.halts enough
      rw [sequence_cons_of_some halted, rest.collects.frame]
      refine ⟨?_, fun less => absurd less ?_, fun _ => halted⟩
      · rw [cut.findings, Run.behind_findings, List.map_append,
          List.take_append_of_le_length (by simpa using enough)]
      · rw [Run.behind_findings, List.length_append, Nat.not_lt]
        exact Nat.le_add_right_of_le enough

theorem byNode {s t : Stage} (h : ∀ node, ∃ s' t', Truncates k s' t' ∧
    (∀ held, s ⟨node, held⟩ = s' ⟨node, held⟩) ∧ ∀ held, t ⟨node, held⟩ = t' ⟨node, held⟩) :
    Truncates k s t where
  collects := .byNode fun node => by
    obtain ⟨_, t', related, _, same⟩ := h node
    exact ⟨t', related.collects, same⟩
  from_held node held := by
    obtain ⟨s', t', related, left, right⟩ := h node
    rw [left, right]
    exact related.from_held node held

theorem congruence (k : Nat) (options : Options) (coercing : Bool) :
    Congruence (.capped k options coercing) (.collecting options coercing) (Truncates k) where
  coercing := rfl
  options := rfl
  skip := skip
  interrupt i := of_interrupt _ i
  replace := replace
  reject v leaf := reject (by
    cases found : v.finding with
    | error cause => rfl
    | ok f =>
      have groups : f.groups = [] := (Violation.groups_of_finding found).trans leaf
      rw [Except.map, Finding.truncate_of_groups_nil groups])
  cons := cons
  byNode := byNode

theorem join {part full : Run} (h : full.interruption? = none → Run.Truncates k part full)
    (place : Tree → Tree) (data path : Pointer) :
    Truncates k (join (.capped k options coercing) part place data path)
      (Stage.join (.collecting options coercing) full place data path) where
  collects := (Collects.closed options coercing).join full place data path
  from_held node held room ends := by
    cases stopped : full.interruption? with
    | some i => rw [join_of_some stopped] at ends; cases ends
    | none =>
      have h := h stopped
      rw [join_of_none stopped, join_of_none h.interruption?_eq_none]
      have cut : part.findings.map (·.under data path) =
          ((full.findings.map (·.under data path)).map (truncate k)).take k := by
        rw [h.findings, List.map_take, List.map_map, List.map_map]
        simp only [Function.comp_def, Finding.truncate_under]
      have same (fewer : (full.findings.map (·.under data path)).length < k) :
          (if coercing then place part.node else node) =
            if coercing then place full.node else node := by
        rw [(h.goesOn (by simpa using fewer)).2]
      have told := reports options coercing room cut same
      rwa [List.map_map, List.map_map] at told

end Truncates

/-! ### Combinations -/

/-- The verdicts with their groups cut. -/
def Verdicts.truncate (k : Nat) (verdicts : Verdicts) : Verdicts :=
  { verdicts with groups := Finding.truncateGroups k verdicts.groups }

theorem truncate_cons {k : Nat} {part full : Run} (cut : Run.Truncates k part full) (pos : 0 < k)
    (ends : full.interruption? = none) (index : Nat) (path : Pointer) (verdicts : Verdicts) :
    Verdicts.cons index path part (verdicts.truncate k) =
      (Verdicts.cons index path full verdicts).truncate k := by
  unfold Verdicts.cons
  rw [cut.passes_eq pos ends]
  split
  · next passes =>
    rw [cut.node_eq pos passes]
    rfl
  · have told : groupOf path part = ((groupOf path full).map (Finding.truncate k)).take k := by
      simp only [groupOf, cut.findings, List.map_take, List.map_map, Function.comp_def,
        Finding.truncate_under]
    simp only [Verdicts.truncate, Finding.truncateGroups, Finding.truncateGroup_eq_map, told]

/-- The cap keeps which branches pass, what they leave, and which groups there are. -/
theorem judgeBranches_truncate {k : Nat} (pos : 0 < k) {f g : Tree → Run} {name : String}
    {first : Bool} {schemas : List Tree} {index : Nat} {verdicts : Verdicts}
    (cut : ∀ s ∈ schemas, (g s).interruption? = none → Run.Truncates k (f s) (g s))
    (judged : judgeBranches g name first index schemas = .ok verdicts) :
    judgeBranches f name first index schemas = .ok (verdicts.truncate k) := by
  revert cut
  refine judgeBranches_induction
    (motive := fun index schemas verdicts =>
      (∀ s ∈ schemas, (g s).interruption? = none → Run.Truncates k (f s) (g s)) →
        judgeBranches f name first index schemas = .ok (verdicts.truncate k))
    (fun index _ => rfl) (fun index s rest eager passed cut => ?_)
    (fun index s rest verdicts ends searched ih cut => ?_) judged
  · -- The search ends at the same branch, as a run passes under a cap when it does without.
    subst eager
    have ends := ((g s).passes_iff.1 passed).1
    have here := cut s List.mem_cons_self ends
    rw [judgeBranches_of_passes ((here.passes_eq pos ends).trans passed), here.node_eq pos passed]
    rfl
  · have here := cut s List.mem_cons_self ends
    rw [judgeBranches_of_none here.interruption?_eq_none (here.passes_eq pos ends ▸ searched),
      ih fun u mem => cut u (List.mem_cons_of_mem _ mem)]
    exact congrArg Except.ok (truncate_cons here pos ends ..)

namespace Truncates

variable {k : Nat} {options : Options} {coercing : Bool}

theorem adopt (node : Tree) :
    Truncates k (adopt (.capped k options coercing) node)
      (Stage.adopt (.collecting options coercing) node) :=
  byNode fun _ => ⟨_, _, replace _, fun _ => adopt_eq .., fun _ => adopt_eq ..⟩

theorem rejectAlternatives (make : List (List Finding) → Violation) {text : String}
    (told : ∀ groups, (make groups).finding = .ok ⟨(make []).code, (make []).dataPath,
      (make []).schemaPath, text, groups⟩) (groups : List (List Finding)) :
    Truncates k (Stage.reject (.capped k options coercing) (make (Finding.truncateGroups k groups)))
      (Stage.reject (.collecting options coercing) (make groups)) :=
  reject (by rw [told, told]; rfl)

theorem branching {schema : Members} {v : Visit} (pos : 0 < k)
    (parts : ∀ coercing node t, SubSchema schema t →
      (v (.collecting options coercing) node t).interruption? = none →
      Run.Truncates k (v (.capped k options coercing) node t)
        (v (.collecting options coercing) node t)) :
    Congruence.Branching schema (.capped k options coercing) (.collecting options coercing)
      (Truncates k) v v where
  anyOf schemas found := byNode fun node => by
    have parts (t : Tree) (mem : t ∈ schemas) :=
      parts coercing node t (.branch (by decide) found mem)
    match judged : judgeBranches (v (.collecting options coercing) node) "anyOf" true 0 schemas with
    | .error i =>
      exact ⟨_, _, of_interrupt _ i, fun _ => rfl, fun _ => anyOf_of_error judged⟩
    | .ok ⟨[], groups⟩ =>
      have cut := judgeBranches_truncate pos parts judged
      exact ⟨_, _, rejectAlternatives .anyOfMissing (fun _ => rfl) groups,
        fun _ => anyOf_of_nil cut, fun _ => anyOf_of_nil judged⟩
    | .ok ⟨branch :: more, groups⟩ =>
      have cut := judgeBranches_truncate pos parts judged
      exact ⟨_, _, adopt branch.2, fun _ => anyOf_of_cons cut, fun _ => anyOf_of_cons judged⟩
  oneOf schemas found := byNode fun node => by
    have parts (t : Tree) (mem : t ∈ schemas) :=
      parts coercing node t (.branch (by decide) found mem)
    match judged :
        judgeBranches (v (.collecting options coercing) node) "oneOf" false 0 schemas with
    | .error i =>
      exact ⟨_, _, of_interrupt _ i, fun _ => rfl, fun _ => oneOf_of_error judged⟩
    | .ok ⟨[], groups⟩ =>
      have cut := judgeBranches_truncate pos parts judged
      exact ⟨_, _, rejectAlternatives .oneOfMissing (fun _ => rfl) groups,
        fun _ => oneOf_of_nil cut, fun _ => oneOf_of_nil judged⟩
    | .ok ⟨branch :: more, groups⟩ =>
      have cut := judgeBranches_truncate pos parts judged
      have walk := congruence k options coercing
      have multiple : ∀ pair ∈ neighbours (branch :: more),
          Truncates k (Stage.reject (.capped k options coercing) (.oneOfMultiple pair.1 pair.2))
            (Stage.reject (.collecting options coercing) (.oneOfMultiple pair.1 pair.2)) :=
        fun pair _ => walk.reject _ rfl
      exact ⟨_, _, cons (adopt branch.2) (walk.map multiple), fun _ => oneOf_of_cons cut,
        fun _ => oneOf_of_cons judged⟩
  notAny t found := byNode fun node => by
    match stopped : (v (.collecting options false) node t).interruption? with
    | some i =>
      exact ⟨_, _, of_interrupt _ _, fun _ => rfl, fun _ => notAny_of_some stopped⟩
    | none =>
      have cut := parts false node t (.negated found) stopped
      have same := cut.passes_eq pos stopped
      by_cases passes : (v (.collecting options false) node t).passes = true
      · exact ⟨_, _, (congruence k options coercing).reject .notPassed rfl,
          fun _ => (notAny_of_none cut.interruption?_eq_none).trans (if_pos (same.trans passes)),
          fun _ => (notAny_of_none stopped).trans (if_pos passes)⟩
      · exact ⟨_, _, skip,
          fun _ => (notAny_of_none cut.interruption?_eq_none).trans (if_neg (same ▸ passes)),
          fun _ => (notAny_of_none stopped).trans (if_neg passes)⟩

end Truncates

end Stage

/-- Every run with a cap comes to the truncation of the same run without it. -/
theorem run_truncates {k : Nat} (pos : 0 < k) (options : Options) (schema : Tree) :
    ∀ (coercing : Bool) (node : Tree),
      (run (.collecting options coercing) node schema).interruption? = none →
      Run.Truncates k (run (.capped k options coercing) node schema)
        (run (.collecting options coercing) node schema) := by
  induction schema using schema_induction with
  | object s parts =>
    intro coercing node ends
    -- Runs of the parts are truncated by the induction, whatever the stages make of them.
    have walk := (Stage.Truncates.congruence k options coercing).stages
      (fun t sub node place data path =>
        Stage.Truncates.join (parts t sub coercing node) place data path)
      (Stage.Truncates.branching pos fun coercing node t sub => parts t sub coercing node)
    rw [run_object] at ends ⊢
    rw [run_object]
    exact walk.from_held node [] pos ends
  | other t other =>
    intro coercing node ends
    rw [run_of_not_object other] at ends
    cases ends

/-- A cap on the findings truncates the outcome: the findings are the first `k` of those found
without the cap, their groups cut in the same way, the verdict is the same, and so is the working
tree as long as the cap is not reached. A cap neither brings about nor hides an interruption. -/
theorem outcome_capped (schema : Tree) (options : Options) (coercing : Bool) (data : Tree) {k : Nat}
    (pos : 0 < k) :
    (∀ full, Validator.outcome ⟨schema, options, none⟩ coercing data .collectAll = .ok full →
      ∃ capped, Validator.outcome ⟨schema, options, some k⟩ coercing data .collectAll = .ok capped ∧
        capped.findings = (full.findings.map (truncate k)).take k ∧
        capped.isValid = full.isValid ∧
        (full.findings.length < k →
          (run (.capped k options coercing) data schema).node =
            (run (.collecting options coercing) data schema).node)) ∧
    ∀ i, Validator.outcome ⟨schema, options, some k⟩ coercing data .collectAll = .error i →
      ∃ j, Validator.outcome ⟨schema, options, none⟩ coercing data .collectAll = .error j := by
  refine ⟨fun full ended => ?_, fun i stopped => ?_⟩
  · obtain ⟨ends, rfl⟩ := Validator.outcome_eq_ok_iff.1 ended
    have cut := run_truncates pos options schema coercing data ends
    refine ⟨_, Validator.outcome_eq_ok_iff.2 ⟨cut.interruption?_eq_none, rfl⟩, cut.findings, ?_,
      fun fewer => (cut.goesOn fewer).2⟩
    rw [Bool.eq_iff_iff, Outcome.isValid_iff, Outcome.isValid_iff]
    exact cut.findings_eq_nil_iff pos
  · -- Without the cap there is an outcome or an interruption, and an outcome rules `i` out.
    cases ended : Validator.outcome ⟨schema, options, none⟩ coercing data .collectAll with
    | error j => exact ⟨j, rfl⟩
    | ok full =>
      have cut := run_truncates pos options schema coercing data
        (Validator.outcome_eq_ok_iff.1 ended).1
      have faults := Validator.outcome_eq_error_iff.1 stopped
      exact nomatch faults.symm.trans cut.interruption?_eq_none

/-- Alternatives of which each asks for two members, and a schema that prohibits everything. -/
def pairSchema : Tree :=
  let pair (a b : String) : Tree := .object [("required", .array [.string a, .string b])]
  .object [("anyOf", .array [pair "a" "b", pair "c" "d"]), ("not", .object [])]

theorem outcome_capped_pairs :
    (∃ full capped,
      Validator.outcome ⟨pairSchema, .default, none⟩ true (.object []) .collectAll = .ok full ∧
      Validator.outcome ⟨pairSchema, .default, some 1⟩ true (.object []) .collectAll = .ok capped ∧
      full.findings.map (·.groups.map List.length) = [[2, 2], []] ∧
      capped.findings.map (·.groups.map List.length) = [[1, 1]]) ∧
    ∃ j, Validator.outcome ⟨.null, .default, none⟩ true (.object []) .collectAll = .error j := by
  obtain ⟨capped, ended, cut, -⟩ :=
    (outcome_capped pairSchema .default true (.object []) Nat.one_pos).1 _ rfl
  refine ⟨⟨_, capped, rfl, ended, rfl, ?_⟩, ?_⟩
  · rw [cut]
    rfl
  · exact (outcome_capped .null .default true (.object []) Nat.one_pos).2 _ rfl

end TreeSchema
