import TreeSchema.Proofs.Leading
import TreeSchema.Proofs.Presence

/-!
The default of a missing key is checked by the schema it is the default of. The
lookup that finds a default and the stages for members are written apart: the lookup
stops at the first schema and passes over what it cannot read, and the stages go
through all keywords and stop at what they cannot read. So where the stages go on,
everything that the lookup passed over is of no concern to the key, and the schema
that governs the key is the first that is applied to it.

To tell which schemas are applied to a member, parts are run by an engine that leaves
a marker for each visit in place of what is found there (`marking`). It makes the same
of every node and stops where runs stop, so its markers tell of the visits of a run. A
stage is then said to lead from what is seen of a key to what is seen of it after the
stage (`Leads`), with a rule for each way of putting stages together.
-/

namespace TreeSchema

/-! ### Markers -/

/-- Tells of a visit, and of nothing that is wrong. -/
def marker (text : String) : Finding :=
  ⟨.invalidType, .here, .here, text, []⟩

/-- Runs a part, and tells in place of what is found that it was visited by the schema. -/
def marking (text : Tree → Tree → String) : Visit := fun config t schema =>
  { run config t schema with findings := [marker (text t schema)] }

/-- What is told of the member under the key itself, in order. -/
def visitsOf (key : String) (found : List Finding) : List String :=
  (found.filter fun f => f.dataPath = .key key).map Finding.message

section

variable {key : String} {found : List Finding}

theorem visitsOf_append_of_ne {f : Finding} (elsewhere : f.dataPath ≠ .key key) :
    visitsOf key (found ++ [f]) = visitsOf key found := by
  simp [visitsOf, elsewhere]

theorem visitsOf_append_marker (other text : String) (path : Pointer) :
    visitsOf key (found ++ [(marker text).under (.key other) path]) =
      visitsOf key found ++ if other = key then [text] else [] := by
  have place : ((marker text).under (.key other) path).dataPath = .key other := by
    rw [Finding.dataPath_under, marker, Pointer.append_here]
  split
  · next same =>
    subst same
    simp [visitsOf, marker]
  · next differs =>
    rw [List.append_nil]
    exact visitsOf_append_of_ne fun same =>
      differs (Pointer.key_injective (place.symm.trans same))

end

theorem Members.exists_of_get? {ms : Members} {key : String} {t : Tree}
    (value : ms.get? key = some t) :
    ∃ before after, ms = before ++ (key, t) :: after ∧ ∀ m ∈ before, m.1 ≠ key := by
  induction ms with
  | nil => cases value
  | cons m rest ih =>
    obtain ⟨k, u⟩ := m
    rw [get?] at value
    split at value
    · next same =>
      cases same
      cases value
      exact ⟨[], rest, rfl, List.forall_mem_nil _⟩
    · next differs =>
      obtain ⟨before, after, rfl, others⟩ := ih value
      exact ⟨(k, u) :: before, after, rfl, List.forall_mem_cons.2 ⟨differs, others⟩⟩

namespace Stage

/-! ### Stages that do the same to nodes -/

/-- The stages make the same of every node and stop alike, whatever findings they are handed. -/
def Follows (x y : Stage) : Prop :=
  ∀ p q : Progress, p.node = q.node → (x p).node = (y q).node ∧ (x p).stop = (y q).stop

namespace Follows

variable {x y : Stage} {xs ys : List Stage}

theorem cons (first : Follows x y) (rest : Follows (sequence xs) (sequence ys)) :
    Follows (sequence (x :: xs)) (sequence (y :: ys)) := by
  intro p q same
  obtain ⟨nodes, stops⟩ := first p q same
  cases stopped : (x p).stop with
  | none =>
    rw [sequence_cons_of_none stopped, sequence_cons_of_none (stops.symm.trans stopped)]
    exact rest _ _ nodes
  | some stop =>
    rw [sequence_cons_of_some stopped, sequence_cons_of_some (stops.symm.trans stopped)]
    exact ⟨nodes, stops⟩

theorem congruence (options : Options) (coercing : Bool) :
    Congruence (.collecting options coercing) (.collecting options coercing) Follows where
  coercing := rfl
  options := rfl
  skip _ _ same := ⟨same, rfl⟩
  interrupt _ _ _ same := ⟨same, rfl⟩
  replace _ _ _ _ := ⟨rfl, rfl⟩
  reject v _ := by
    unfold Stage.reject
    cases v.finding with
    | ok f => exact fun _ _ same => ⟨same, rfl⟩
    | error cause => exact fun _ _ same => ⟨same, rfl⟩
  cons := cons
  byNode related := by
    rintro ⟨node, held⟩ ⟨_, held'⟩ rfl
    obtain ⟨x', y', follows, left, right⟩ := related node
    rw [left, right]
    exact follows _ _ rfl

end Follows

namespace Congruence

variable {c d : Config} {R : Stage → Stage → Prop} {v w : Visit} {s : Members}

theorem checkProperties (h : Congruence c d R) (parts : ∀ t, SubSchema s t → Visits c d R v w t) :
    R (checkProperties v c s) (Stage.checkProperties w d s) := by
  unfold Stage.checkProperties
  split
  · exact h.skip
  · next entries found =>
    exact h.map fun entry mem => h.checkProperty s (parts _ (.property found mem))
  · exact h.interrupt _

theorem checkPatterns (h : Congruence c d R) (parts : ∀ t, SubSchema s t → Visits c d R v w t) :
    R (checkPatterns v c s) (Stage.checkPatterns w d s) := by
  unfold Stage.checkPatterns
  split
  · exact h.skip
  · next entries found =>
    refine h.map fun entry mem => ?_
    have visit := h.visitMember (parts _ (.pattern found mem))
      (.entry "patternProperties" (.key entry.1))
    unfold checkPattern
    dsimp only
    cases readPattern (.entry "patternProperties" (.key entry.1)) entry.1 with
    | error i => exact h.interrupt i
    | ok regex =>
      refine h.byNode fun node => ?_
      have visits := h.map fun key (_ : key ∈ node.members.keys.filter regex.finds) => visit key
      exact ⟨_, _, visits, fun _ => rfl, fun _ => rfl⟩
  · exact h.interrupt _

theorem checkAdditional (h : Congruence c d R)
    (parts : ∀ t, SubSchema s t → Visits c d R v w t) :
    R (checkAdditional v c s) (Stage.checkAdditional w d s) := by
  unfold Stage.checkAdditional
  split
  · exact h.skip
  · next t found =>
    split
    · exact h.interrupt _
    · next policy read =>
      have part (g : Members) (eq : policy = .schema g) : Visits c d R v w (.object g) := by
        subst eq
        rw [Additional.eq_object read] at found
        exact parts _ (.additional found)
      refine h.byNode fun node => ?_
      have extras := h.map fun key (_ : key ∈ extraKeys s node.members) => h.checkExtra part key
      exact ⟨_, _, extras, fun _ => rfl, fun _ => rfl⟩

theorem memberStages (h : Congruence c d R) (parts : ∀ t, SubSchema s t → Visits c d R v w t) :
    R (sequence (memberStages v c s)) (sequence (Stage.memberStages w d s)) :=
  h.cons (h.checkProperties parts) (h.cons (h.checkPatterns parts)
    (h.cons (h.checkAdditional parts) h.skip))

end Congruence

theorem Follows.join {options : Options} {coercing : Bool} {part part' : Run}
    (nodes : part.node = part'.node) (stops : part.interruption? = part'.interruption?)
    (place : Tree → Tree) (data path : Pointer) :
    Follows (join (.collecting options coercing) part place data path)
      (Stage.join (.collecting options coercing) part' place data path) := by
  rintro ⟨n, held⟩ ⟨_, held'⟩ rfl
  cases stopped : part.interruption? with
  | some i =>
    rw [join_of_some stopped, join_of_some (stops.symm.trans stopped)]
    exact ⟨rfl, rfl⟩
  | none =>
    rw [join_collecting stopped, join_collecting (stops.symm.trans stopped), nodes]
    exact ⟨rfl, rfl⟩

/-- Markers in place of what runs find do not change what the stages for members do. -/
theorem marking_follows (text : Tree → Tree → String) (options : Options) (coercing : Bool)
    (s : Members) :
    Follows (sequence (memberStages (marking text) (.collecting options coercing) s))
      (sequence (memberStages run (.collecting options coercing) s)) := by
  refine (Follows.congruence options coercing).memberStages fun t _ node place data path => ?_
  have nodes : (marking text (.collecting options coercing) node t).node =
      (run (.collecting options coercing) node t).node := rfl
  exact .join nodes rfl place data path

/-! ### What is seen of a key -/

/-- What is seen of a key: its value, and what has been told of the visits to it. -/
structure Shows (key : String) (t : Tree) (visits : List String) (p : Progress) : Prop where
  value : p.node.members.get? key = some t
  told : visitsOf key p.findings = visits

/-- The key is there, and the visits to it that have been told of start with the given one. -/
def Visited (key first : String) (p : Progress) : Prop :=
  ∃ t more, Shows key t (first :: more) p

/-- The stage has nothing to do with the key. -/
def Bypasses (key : String) (stage : Stage) : Prop :=
  ∀ t visits, Leads (Shows key t visits) (Shows key t visits) stage

section

variable {options : Options} {s : Members} {key other first : String} {text : Tree → Tree → String}
  {stage : Stage} {u schema : Tree} {p : Progress}

theorem Bypasses.visited (bypasses : Bypasses key stage) :
    Leads (Visited key first) (Visited key first) stage := by
  rintro p ⟨t, more, shows⟩ goes
  exact ⟨t, more, bypasses _ _ p shows goes⟩

theorem bypasses_reject {v : Violation} (elsewhere : v.dataPath ≠ .key key) :
    Bypasses key (reject (.collecting options true) v) := by
  unfold Stage.reject
  cases told : v.finding with
  | error cause => exact fun _ _ => .interrupt _
  | ok f =>
    obtain ⟨message, -, rfl⟩ := Violation.exists_of_finding told
    exact fun _ _ p shows _ => ⟨shows.value, (visitsOf_append_of_ne elsewhere).trans shows.told⟩

theorem bypasses_fillDeclared :
    Bypasses key (fillDeclared (.collecting options true) s other schema) := by
  intro t visits p shows goes
  by_cases missing : (!p.node.members.has other && (Config.collecting options true).coercing &&
      (Config.collecting options true).options.setMissingToDefault && hasDefault schema) = true
  · have differs : other ≠ key := by
      rintro rfl
      simp [Members.has_of_get? shows.value] at missing
    rw [fillDeclared_of_missing missing] at goes ⊢
    match filled : withDefault? p.node.members s other options with
    | .error cause =>
      rw [fillIn_of_failure filled] at goes
      cases goes
    | .ok none =>
      rw [fillIn_of_none filled] at goes ⊢
      have elsewhere : (Violation.noDefault other).dataPath ≠ .key key := Pointer.here_ne_key key
      exact bypasses_reject elsewhere t visits p shows goes
    | .ok (some members) =>
      obtain ⟨d, rfl⟩ := eq_put_of_withDefault? filled
      rw [fillIn_of_some filled]
      refine ⟨?_, shows.told⟩
      exact (Members.get?_put ..).trans ((if_neg differs).trans shows.value)
  · rw [fillDeclared_of_not_missing missing]
    exact shows

/-! Visits -/

theorem visitMember_of_goes {path : Pointer} (value : p.node.members.get? other = some u)
    (goes : (visitMember (marking text) (.collecting options true) schema path other p).stop =
      none) :
    (∃ g, schema = .object g) ∧
      visitMember (marking text) (.collecting options true) schema path other p =
        ⟨⟨p.node.putMember other (run (.collecting options true) u schema).node,
          p.findings ++ [(marker (text u schema)).under (.key other) path]⟩, none⟩ := by
  rw [visitMember_of_some value] at goes ⊢
  have ends := ends_of_join goes
  refine ⟨?_, join_collecting ends ..⟩
  by_cases object : ∃ g, schema = .object g
  · exact object
  · have stops := run_of_not_object (fun g eq => object ⟨g, eq⟩) (.collecting options true) u
    rw [marking, stops] at ends
    cases ends

theorem get?_putMember {node w : Tree} (value : node.members.get? other = some u) :
    (node.putMember other w).members.get? key =
      if other = key then some w else node.members.get? key := by
  rw [Tree.eq_object_of_get? value]
  exact Members.get?_put ..

theorem bypasses_visitMember {path : Pointer} (differs : other ≠ key) :
    Bypasses key (visitMember (marking text) (.collecting options true) schema path other) := by
  intro t visits p shows goes
  cases value : p.node.members.get? other with
  | none =>
    rw [visitMember_of_none value]
    exact shows
  | some u =>
    obtain ⟨-, eq⟩ := visitMember_of_goes value goes
    rw [eq]
    refine ⟨?_, ?_⟩
    · rw [get?_putMember value, if_neg differs, shows.value]
    · rw [visitsOf_append_marker, if_neg differs, List.append_nil, shows.told]

theorem leads_visitMember {path : Pointer} {t : Tree} {visits : List String} :
    Leads (Shows key t visits)
      (fun p => (∃ g, schema = .object g) ∧ ∃ t', Shows key t' (visits ++ [text t schema]) p)
      (visitMember (marking text) (.collecting options true) schema path key) := by
  intro p shows goes
  obtain ⟨object, eq⟩ := visitMember_of_goes shows.value goes
  rw [eq]
  refine ⟨object, (run (.collecting options true) t schema).node, ?_, ?_⟩
  · rw [get?_putMember shows.value, if_pos rfl]
  · rw [visitsOf_append_marker, if_pos rfl, shows.told]

theorem visited_of_shows {path : Pointer} {t : Tree} :
    Leads (Shows key t []) (Visited key (text t schema))
      (visitMember (marking text) (.collecting options true) schema path key) := by
  intro p shows goes
  obtain ⟨-, t', shows'⟩ := leads_visitMember p shows goes
  exact ⟨t', [], shows'⟩

theorem visited_visitMember {path : Pointer} :
    Leads (Visited key first) (Visited key first)
      (visitMember (marking text) (.collecting options true) schema path other) := by
  by_cases same : other = key
  · subst same
    rintro p ⟨t, more, shows⟩ goes
    obtain ⟨-, t', shows'⟩ := leads_visitMember p shows goes
    exact ⟨t', _, shows'⟩
  · exact (bypasses_visitMember same).visited

theorem stops_visitMember {path : Pointer} {t : Tree} {visits : List String}
    {Q : Progress → Prop} (invalid : ∀ g, schema ≠ .object g) :
    Leads (Shows key t visits) Q
      (visitMember (marking text) (.collecting options true) schema path key) := by
  intro p shows goes
  obtain ⟨⟨g, eq⟩, -⟩ := leads_visitMember p shows goes
  exact absurd eq (invalid g)

end

/-! ### The stages for members -/

section

variable {options : Options} {s g : Members} {key first : String} {text : Tree → Tree → String}
  {t : Tree}

/-! Declared members -/

theorem visited_checkProperty {entry : String × Tree} :
    Leads (Visited key first) (Visited key first)
      (checkProperty (marking text) (.collecting options true) s entry) :=
  bypasses_fillDeclared.visited.cons (visited_visitMember.cons .skip)

theorem bypasses_checkProperty {entry : String × Tree} (differs : entry.1 ≠ key) :
    Bypasses key (checkProperty (marking text) (.collecting options true) s entry) :=
  fun t visits => (bypasses_fillDeclared t visits).cons
    ((bypasses_visitMember differs t visits).cons .skip)

theorem visited_checkProperties_of_declared (declares : s.DeclaresAs key g) :
    Leads (Shows key t []) (Visited key (text t (.object g)))
      (checkProperties (marking text) (.collecting options true) s) := by
  obtain ⟨entries, found, value⟩ := declares
  obtain ⟨before, after, rfl, others⟩ := Members.exists_of_get? value
  have here : Leads (Shows key t []) (Visited key (text t (.object g)))
      (checkProperty (marking text) (.collecting options true) s (key, .object g)) :=
    (bypasses_fillDeclared t []).cons (visited_of_shows.cons .skip)
  rw [checkProperties, found]
  exact .turn (fun entry mem => bypasses_checkProperty (others entry mem) t []) here
    fun _ _ => visited_checkProperty

/-- Unless the key is declared with a schema, it is not declared at all where the stage goes on. -/
theorem shows_checkProperties (undeclared : ∀ g, ¬ s.DeclaresAs key g) :
    Leads (Shows key t []) (fun p => Shows key t [] p ∧ ¬ s.Declares key)
      (checkProperties (marking text) (.collecting options true) s) := by
  unfold checkProperties
  split
  · next absent =>
    refine Leads.skip.mono fun p shows => ⟨shows, ?_⟩
    rintro ⟨entries, found, -⟩
    cases absent.symm.trans found
  · next entries found =>
    cases value : Members.get? entries key with
    | none =>
      have absent : Members.has entries key ≠ true := by
        rw [← Members.isSome_get?, value]
        exact Bool.false_ne_true
      have others (entry : String × Tree) (mem : entry ∈ entries) : entry.1 ≠ key := by
        rintro rfl
        exact absent ((Members.has_iff_mem_keys ..).2 (List.mem_map_of_mem mem))
      refine Leads.mono (.map fun entry mem => bypasses_checkProperty (others entry mem) t [])
        fun p shows => ⟨shows, ?_⟩
      rintro ⟨entries', found', has⟩
      cases found.symm.trans found'
      exact absent has
    | some schema =>
      -- An entry that is no schema stops the loop at the key.
      obtain ⟨before, after, rfl, others⟩ := Members.exists_of_get? value
      have invalid (g : Members) : schema ≠ .object g := by
        rintro rfl
        exact undeclared g ⟨_, found, value⟩
      have here : Leads (Shows key t []) (fun _ => False)
          (checkProperty (marking text) (.collecting options true) s (key, schema)) :=
        (bypasses_fillDeclared t []).cons ((stops_visitMember invalid).cons .skip)
      exact .never (.turn (fun entry mem => bypasses_checkProperty (others entry mem) t []) here
        fun _ _ => .of_false)
  · exact .interrupt _

/-! Members found by patterns -/

theorem leads_checkPattern {P Q : Progress → Prop} {v : Visit} {config : Config}
    {entry : String × Tree}
    (read : ∀ regex, Pattern.compile entry.1 "" = .ok (.ok regex) → Leads P Q
      (checkFound v config entry.2 (.entry "patternProperties" (.key entry.1)) regex)) :
    Leads P Q (checkPattern v config entry) := by
  unfold checkPattern
  dsimp only
  cases reads : readPattern (.entry "patternProperties" (.key entry.1)) entry.1 with
  | error i => exact .interrupt i
  | ok regex => exact read regex (readPattern_eq_ok_iff.1 reads)

theorem mem_keys_of_shows {visits : List String} {p : Progress} (shows : Shows key t visits p) :
    key ∈ p.node.members.keys :=
  (Members.has_iff_mem_keys ..).1 (Members.has_of_get? shows.value)

theorem visited_checkPattern {entry : String × Tree} :
    Leads (Visited key first) (Visited key first)
      (checkPattern (marking text) (.collecting options true) entry) :=
  leads_checkPattern fun _ _ p visited goes =>
    Leads.map (fun _ _ => visited_visitMember) p visited goes

theorem visited_of_checkPattern {pattern : String} {regex : Pattern.Regex}
    (compiles : Pattern.compile pattern "" = .ok (.ok regex)) (finds : regex.finds key = true) :
    Leads (Shows key t []) (Visited key (text t (.object g)))
      (checkPattern (marking text) (.collecting options true) (pattern, .object g)) := by
  refine leads_checkPattern fun regex' compiles' p shows goes => ?_
  cases compiles.symm.trans compiles'
  have among : key ∈ p.node.members.keys.filter regex.finds :=
    List.mem_filter.2 ⟨mem_keys_of_shows shows, finds⟩
  exact Leads.turn_of_mem among (fun _ _ differs => bypasses_visitMember differs t [])
    visited_of_shows (fun _ _ => visited_visitMember) p shows goes

theorem shows_checkPattern {entry : String × Tree} (misses : Members.Misses [entry] key) :
    Leads (Shows key t [])
      (fun p => Shows key t [] p ∧ ∀ regex, Pattern.compile entry.1 "" = .ok (.ok regex) →
        regex.finds key = false)
      (checkPattern (marking text) (.collecting options true) entry) := by
  refine leads_checkPattern fun regex compiles p shows goes => ?_
  cases finds : regex.finds key with
  | false =>
    have differs (k : String) (mem : k ∈ p.node.members.keys.filter regex.finds) : k ≠ key := by
      rintro rfl
      exact nomatch finds.symm.trans (List.mem_filter.1 mem).2
    refine ⟨Leads.map (fun k mem => bypasses_visitMember (differs k mem) t []) p shows goes,
      fun regex' compiles' => ?_⟩
    cases compiles.symm.trans compiles'
    exact finds
  | true =>
    have invalid (g : Members) : entry.2 ≠ .object g := fun eq =>
      nomatch finds.symm.trans (misses entry.1 g regex (by simp [← eq]) compiles)
    have among : key ∈ p.node.members.keys.filter regex.finds :=
      List.mem_filter.2 ⟨mem_keys_of_shows shows, finds⟩
    have never : Leads (Shows key t []) (fun _ => False)
        (sequence ((p.node.members.keys.filter regex.finds).map
          (visitMember (marking text) (.collecting options true) entry.2
            (.entry "patternProperties" (.key entry.1))))) :=
      .turn_of_mem among (fun _ _ differs => bypasses_visitMember differs t [])
        (stops_visitMember invalid) fun _ _ => .of_false
    exact (never p shows goes).elim

theorem visited_checkPatterns :
    Leads (Visited key first) (Visited key first)
      (checkPatterns (marking text) (.collecting options true) s) := by
  unfold checkPatterns
  split
  · exact .skip
  · exact .map fun _ _ => visited_checkPattern
  · exact .interrupt _

theorem visited_checkPatterns_of_matched {before after : Members} {pattern : String}
    {regex : Pattern.Regex}
    (found : s.get? "patternProperties" =
      some (.object (before ++ (pattern, .object g) :: after)))
    (misses : before.Misses key) (compiles : Pattern.compile pattern "" = .ok (.ok regex))
    (finds : regex.finds key = true) :
    Leads (Shows key t []) (Visited key (text t (.object g)))
      (checkPatterns (marking text) (.collecting options true) s) := by
  rw [checkPatterns, found]
  refine .turn (fun entry mem => ?_) (visited_of_checkPattern compiles finds)
    fun _ _ => visited_checkPattern
  exact (shows_checkPattern (misses.of_mem mem)).mono fun _ => And.left

theorem shows_checkPatterns
    (misses : ∀ patterns, s.get? "patternProperties" = some (.object patterns) →
      Members.Misses patterns key) :
    Leads (Shows key t []) (fun p => Shows key t [] p ∧ ∀ u, ¬ s.Finds u key)
      (checkPatterns (marking text) (.collecting options true) s) := by
  unfold checkPatterns
  split
  · next absent =>
    refine Leads.skip.mono fun p shows => ⟨shows, ?_⟩
    rintro u ⟨patterns, pattern, regex, found, -⟩
    cases absent.symm.trans found
  · next patterns found =>
    refine Leads.mono (.map_and fun entry mem =>
      shows_checkPattern ((misses patterns found).of_mem mem)) fun p shows => ⟨shows.1, ?_⟩
    rintro u ⟨patterns', pattern, regex, found', mem, compiles, finds⟩
    cases found.symm.trans found'
    exact nomatch finds.symm.trans (shows.2 _ mem regex compiles)
  · exact .interrupt _

/-! Members beyond those -/

theorem bypasses_removal {v : Visit} {other : String} (differs : other ≠ key) :
    Bypasses key (checkExtra v (.collecting options true) .forbidden other) := by
  intro t visits p shows _
  rw [checkExtra_of_coercing rfl]
  refine ⟨?_, shows.told⟩
  exact (Members.get?_erase ..).trans ((if_neg differs).trans shows.value)

theorem visited_checkAdditional (allowed : ¬ s.Prohibits key) :
    Leads (Visited key first) (Visited key first)
      (checkAdditional (marking text) (.collecting options true) s) := by
  unfold checkAdditional
  split
  · exact .skip
  · next value found =>
    split
    · exact .interrupt _
    · next policy read =>
      intro p visited goes
      refine Leads.map (fun other extra => ?_) p visited goes
      cases policy with
      | any => exact .skip
      | schema m => exact visited_visitMember
      | forbidden =>
        have differs : other ≠ key := by
          rintro rfl
          exact allowed ⟨found.trans (congrArg some (Additional.eq_false read)),
            (mem_extraKeys_iff.1 extra).2⟩
        exact (bypasses_removal differs).visited

theorem visited_checkAdditional_of_extra (undeclared : ¬ s.Declares key)
    (unfound : ∀ u, ¬ s.Finds u key) (found : s.get? "additionalProperties" = some (.object g)) :
    Leads (Shows key t []) (Visited key (text t (.object g)))
      (checkAdditional (marking text) (.collecting options true) s) := by
  intro p shows goes
  rw [checkAdditional, found] at goes ⊢
  have extra : key ∈ extraKeys s p.node.members :=
    mem_extraKeys_iff.2 ⟨Members.has_of_get? shows.value, undeclared, unfound⟩
  have loop : Leads (Shows key t []) (Visited key (text t (.object g)))
      (sequence ((extraKeys s p.node.members).map
        (checkExtra (marking text) (.collecting options true) (.schema g)))) :=
    .turn_of_mem extra (fun _ _ differs => bypasses_visitMember differs t []) visited_of_shows
      fun _ _ => visited_visitMember
  exact loop p shows goes

/-- Where the stages for members go on, the first schema that is applied to a key is the one that
governs it. -/
theorem visited_memberStages (governs : s.Governs key g) :
    Leads (Shows key t []) (Visited key (text t (.object g)))
      (sequence (memberStages (marking text) (.collecting options true) s)) := by
  have beyond : Leads (Visited key (text t (.object g))) (Visited key (text t (.object g)))
      (sequence [checkAdditional (marking text) (.collecting options true) s]) :=
    (visited_checkAdditional governs.not_prohibits).cons .skip
  cases governs with
  | declared declares =>
    exact (visited_checkProperties_of_declared declares).cons (visited_checkPatterns.cons beyond)
  | matched undeclared found misses compiles finds =>
    refine (shows_checkProperties undeclared).cons (.assuming fun _ => ?_)
    exact (visited_checkPatterns_of_matched found misses compiles finds).cons beyond
  | additional undeclared misses found =>
    refine (shows_checkProperties undeclared).cons (.assuming fun undeclared => ?_)
    refine (shows_checkPatterns misses).cons (.assuming fun unfound => ?_)
    exact (visited_checkAdditional_of_extra undeclared unfound found).cons .skip

/-! ### Required keys -/

/-- If the key is there, its value is the default of the schema that governs it. -/
def Supplied (options : Options) (s : Members) (key : String) (p : Progress) : Prop :=
  ∀ t, p.node.members.get? key = some t →
    ∃ g, propertySchema s key = .ok (some g) ∧ defaultFor g options = some t

theorem supplied_requireKey {index : Nat} {other : String} :
    Leads (Supplied options s key) (Supplied options s key)
      (requireKey (.collecting options true) s index other) := by
  intro p supplied goes
  by_cases present : p.node.members.has other = true
  · rw [requireKey_of_has present]
    exact supplied
  rw [requireKey_of_coercing present rfl] at goes ⊢
  match filled : withDefault? p.node.members s other options with
  | .error cause =>
    rw [fillIn_of_failure filled] at goes
    cases goes
  | .ok none =>
    rw [fillIn_of_none filled] at goes ⊢
    unfold Stage.reject at goes ⊢
    cases told : (Violation.requiredMissing index other).finding with
    | ok f => exact supplied
    | error cause => exact supplied
  | .ok (some members) =>
    obtain ⟨g, d, governs, default, rfl⟩ := exists_of_withDefault? filled
    rw [fillIn_of_some filled]
    intro t value
    have written : (p.node.members.put other d).get? key = some t := value
    rw [Members.get?_put] at written
    split at written
    · next same =>
      subst same
      cases written
      exact ⟨g, governs, default⟩
    · exact supplied t written

theorem supplied_checkRequired :
    Leads (Supplied options s key) (Supplied options s key)
      (checkRequired (.collecting options true) s) := by
  unfold checkRequired
  split
  · exact .skip
  · split
    · rw [List.mapIdx_eq_zipIdx_map]
      exact .map fun _ _ => supplied_requireKey
    · exact .interrupt _
  · exact .interrupt _

end

/-- A required key that is missing, and that a coercing run has filled in, has the default of the
schema that governs it. If the stages for members go on, that schema is the first that they apply to
the key, on this default, and they do not remove the key. -/
theorem default_visited_by_governing {options : Options} {s members filled : Members}
    {key : String} {before held : List Finding}
    (absent : (countedMembers options s members).has key = false)
    (required : checkRequired (.collecting options true) s
      ⟨.object (countedMembers options s members), before⟩ = ⟨⟨.object filled, held⟩, none⟩)
    (present : filled.has key = true)
    (ends : (sequence (memberStages run (.collecting options true) s)
      ⟨.object filled, held⟩).interruption? = none) :
    ∃ g t, propertySchema s key = .ok (some g) ∧ defaultFor g options = some t ∧
      filled.get? key = some t ∧
      (sequence (memberStages run (.collecting options true) s)
        ⟨.object filled, held⟩).node.members.has key = true ∧
      ∀ text : Tree → Tree → String, ∃ more,
        visitsOf key (sequence (memberStages (marking text) (.collecting options true) s)
          ⟨.object filled, []⟩).findings = text t (.object g) :: more := by
  obtain ⟨t, value⟩ := Option.isSome_iff_exists.1 ((filled.isSome_get? key).trans present)
  have supplied : Supplied options s key ⟨.object filled, held⟩ := by
    have start : Supplied options s key ⟨.object (countedMembers options s members), before⟩ :=
      fun u there => nomatch absent.symm.trans (Members.has_of_get? there)
    have left := supplied_checkRequired _ start (by rw [required])
    rwa [required] at left
  obtain ⟨g, governs, default⟩ := supplied t value
  have walk := (Collects.closed options true).walk run s
  have collects : Collects (sequence (memberStages run (.collecting options true) s)) :=
    .cons (walk.checkProperties members trivial)
      (.cons walk.checkPatterns (.cons walk.checkAdditional .skip))
  have goes := collects.stop_eq_none ends
  have follows (text : Tree → Tree → String) :=
    marking_follows text options true s ⟨.object filled, []⟩ ⟨.object filled, held⟩ rfl
  have visited (text : Tree → Tree → String) : Visited key (text t (.object g))
      (sequence (memberStages (marking text) (.collecting options true) s)
        ⟨.object filled, []⟩).toProgress :=
    visited_memberStages (governs_of_propertySchema governs) _ ⟨value, rfl⟩
      ((follows text).2.trans goes)
  refine ⟨g, t, governs, default, value, ?_, fun text => ?_⟩
  · obtain ⟨u, _, shows⟩ := visited fun _ _ => ""
    rw [← (follows fun _ _ => "").1]
    exact Members.has_of_get? shows.value
  · obtain ⟨_, more, shows⟩ := visited text
    exact ⟨more, shows.told⟩

end Stage

/-- Two patterns find "xa", and what stands under a third that does not is no schema. -/
def patternedSchema : Members :=
  [("required", .array [.string "xa", .string "b"]),
    ("patternProperties", .object [("z", .null), ("x", .object [("type", .string "boolean")]),
      ("a", .object [])]),
    ("additionalProperties", .object [("type", .string "string"), ("default", .string "?")])]

def visitText (t schema : Tree) : String :=
  t.kind.name ++ " by " ++ ", ".intercalate schema.members.keys

theorem default_visited_by_governing_patternedSchema :
    Stage.checkRequired (.collecting .default true) patternedSchema ⟨.object [], []⟩ =
        ⟨⟨.object [("xa", .bool true), ("b", .string "?")], []⟩, none⟩ ∧
      ∃ more, visitsOf "xa" (Stage.sequence (Stage.memberStages (marking visitText)
        (.collecting .default true) patternedSchema)
        ⟨.object [("xa", .bool true), ("b", .string "?")], []⟩).findings =
          "boolean by type" :: more := by
  obtain ⟨g, t, governs, -, value, -, visits⟩ :=
    @Stage.default_visited_by_governing .default patternedSchema []
      [("xa", .bool true), ("b", .string "?")] "xa" [] [] rfl rfl rfl rfl
  cases value
  cases governs
  exact ⟨rfl, visits visitText⟩

end TreeSchema
