import TreeSchema.Proofs.Judging.Basic

/-!
What combinations judge. The branches that pass are those that the data
satisfies, as far as they are run: the search for one that passes ends at the
first, which is enough to know that there is one.
-/

namespace TreeSchema.Stage

/-! ### Verdicts -/

section

variable {f : Tree → Run} {P : Tree → Prop} {name : String} {schemas : List Tree} {index : Nat}
  {verdicts : Verdicts}

theorem passes_iff_of_part {t : Tree}
    (part : (f t).interruption? = none → ((f t).findings = [] ↔ P t))
    (ends : (f t).interruption? = none) : (f t).passes = true ↔ P t := by
  rw [Run.passes_iff, part ends]
  exact and_iff_right ends

/-- No branch passes exactly when the data satisfies none, wherever the search ends. -/
theorem passing_eq_nil_iff {first : Bool}
    (parts : ∀ t ∈ schemas, (f t).interruption? = none → ((f t).findings = [] ↔ P t))
    (judged : judgeBranches f name first index schemas = .ok verdicts) :
    verdicts.passing = [] ↔ ∀ t ∈ schemas, ¬ P t := by
  revert parts
  refine judgeBranches_induction
    (motive := fun _ schemas verdicts =>
      (∀ t ∈ schemas, (f t).interruption? = none → ((f t).findings = [] ↔ P t)) →
        (verdicts.passing = [] ↔ ∀ t ∈ schemas, ¬ P t))
    (fun _ _ => by simp [Verdicts.none])
    (fun index t rest _ passes parts => ?_) (fun index t rest verdicts ends _ ih parts => ?_) judged
  · have holds := (passes_iff_of_part (parts t List.mem_cons_self)
      ((f t).passes_iff.1 passes).1).1 passes
    exact iff_of_false (by simp) fun none => none t List.mem_cons_self holds
  · have here := passes_iff_of_part (parts t List.mem_cons_self) ends
    rw [List.forall_mem_cons, ← here, ← ih fun u mem => parts u (List.mem_cons_of_mem _ mem)]
    by_cases passes : (f t).passes = true
    · simp [Verdicts.cons_of_passes passes, passes]
    · simp [Verdicts.cons_of_not_passes passes, passes]

theorem length_passing_eq_one_iff
    (parts : ∀ t ∈ schemas, (f t).interruption? = none → ((f t).findings = [] ↔ P t))
    (judged : judgeBranches f name false index schemas = .ok verdicts) :
    verdicts.passing.length = 1 ↔ ExactlyOne P schemas := by
  refine (judgeBranches_induction
    (motive := fun _ schemas verdicts =>
      (∀ t ∈ schemas, (f t).interruption? = none → ((f t).findings = [] ↔ P t)) →
        (verdicts.passing = [] ↔ ∀ t ∈ schemas, ¬ P t) ∧
          (verdicts.passing.length = 1 ↔ ExactlyOne P schemas))
    (fun _ _ => ?_) (fun _ _ _ eager => ?_)
    (fun index t rest verdicts ends _ ih parts => ?_) judged parts).2
  · simp [Verdicts.none, not_exactlyOne_nil]
  · cases eager
  · have here := passes_iff_of_part (parts t List.mem_cons_self) ends
    obtain ⟨none, one⟩ := ih fun u mem => parts u (List.mem_cons_of_mem _ mem)
    rw [List.forall_mem_cons, exactlyOne_cons, ← here, ← none, ← one]
    by_cases passes : (f t).passes = true
    · simp [Verdicts.cons_of_passes passes, passes]
    · simp [Verdicts.cons_of_not_passes passes, passes]

end

/-! ### Keywords -/

variable {options : Options} {v : Visit} {sat : Tree → Tree → Prop} {node : Tree} {s : Members}

theorem judges_keyword {name : String} {f : Tree → Stage} {P : Tree → Prop}
    (each : ∀ t, s.get? name = some t → Judges (f t) node node (P t)) :
    Judges (keyword s name f) node node (∀ t, s.get? name = some t → P t) := by
  unfold keyword
  split
  · next t found => exact (each t found).iff (by simp [found])
  · next absent => exact Judges.skip.iff (by simp [absent])

theorem judges_branches {name : String} {f : Tree → Stage} {P : List Tree → Prop}
    (reads : ∀ t, ∃ g, f t = reading (branchesOf name t) g)
    (each : ∀ schemas, s.get? name = some (.array schemas) →
      Judges (f (.array schemas)) node node (P schemas)) :
    Judges (keyword s name f) node node
      (∀ schemas, s.get? name = some (.array schemas) → P schemas) := by
  have lists (t : Tree) (found : s.get? name = some t) :
      Judges (f t) node node (∀ schemas, t = .array schemas → P schemas) := by
    cases t with
    | array schemas => exact (each schemas found).iff (by simp)
    | _ =>
      obtain ⟨g, reads⟩ := reads _
      rw [reads]
      exact .interrupt _
  exact (judges_keyword lists).iff
    ⟨fun h schemas found => h _ found schemas rfl,
      fun h t found schemas eq => h schemas (eq ▸ found)⟩

theorem judges_adopt (t : Tree) : Judges (adopt (.collecting options false) t) node node True :=
  Judges.skip.at_node fun _ => rfl

theorem judges_anyOf {schemas : List Tree} (parts : ∀ t ∈ schemas, Decides options v sat t) :
    Judges (anyOf v (.collecting options false) (.array schemas)) node node
      (∃ t ∈ schemas, sat t node) := by
  match judged : judgeBranches (v (.collecting options false) node) "anyOf" true 0 schemas with
  | .error i => exact (Judges.interrupt i).at_node fun _ => anyOf_of_error judged
  | .ok ⟨[], groups⟩ =>
    have none := (passing_eq_nil_iff (fun t mem => parts t mem node) judged).1 rfl
    have rejects := Judges.reject options node (.anyOfMissing groups)
    exact (rejects.iff (iff_of_false id fun ⟨t, mem, holds⟩ => none t mem holds)).at_node
      fun _ => anyOf_of_nil judged
  | .ok ⟨branch :: more, groups⟩ =>
    have some := passing_eq_nil_iff (fun t mem => parts t mem node) judged
    have exist : ∃ t ∈ schemas, sat t node := Classical.byContradiction fun none =>
      nomatch some.2 fun t mem holds => none ⟨t, mem, holds⟩
    exact ((judges_adopt branch.2).iff (iff_of_true trivial exist)).at_node
      fun _ => anyOf_of_cons judged

theorem judges_oneOf {schemas : List Tree} (parts : ∀ t ∈ schemas, Decides options v sat t) :
    Judges (oneOf v (.collecting options false) (.array schemas)) node node
      (ExactlyOne (sat · node) schemas) := by
  match judged : judgeBranches (v (.collecting options false) node) "oneOf" false 0 schemas with
  | .error i => exact (Judges.interrupt i).at_node fun _ => oneOf_of_error judged
  | .ok ⟨[], groups⟩ =>
    have one := length_passing_eq_one_iff (fun t mem => parts t mem node) judged
    have rejects := Judges.reject options node (.oneOfMissing groups)
    exact (rejects.iff (by simp [← one])).at_node fun _ => oneOf_of_nil judged
  | .ok ⟨branch :: more, groups⟩ =>
    have one := length_passing_eq_one_iff (fun t mem => parts t mem node) judged
    have each : ∀ pair ∈ neighbours (branch :: more),
        Judges (reject (.collecting options false) (.oneOfMultiple pair.1 pair.2)) node node
          False :=
      fun pair _ => .reject options node _
    have alone : (True ∧ ∀ pair ∈ neighbours (branch :: more), False) ↔
        ExactlyOne (sat · node) schemas := by
      rw [← one]
      cases more with
      | nil => simp [neighbours]
      | cons second rest =>
        have pair : (branch.1, second.1) ∈ neighbours (branch :: second :: rest) := by
          simp [neighbours]
        exact iff_of_false (fun both => both.2 _ pair) (by simp)
    exact (((judges_adopt branch.2).cons (.map each)).iff alone).at_node
      fun _ => oneOf_of_cons judged

theorem judges_notAny {t : Tree} (part : Decides options v sat t) :
    Judges (notAny v (.collecting options false) t) node node (¬ sat t node) := by
  match stopped : (v (.collecting options false) node t).interruption? with
  | some i =>
    exact (Judges.interrupt (i.under (.key "not"))).at_node fun _ => notAny_of_some stopped
  | none =>
    have holds : (v (.collecting options false) node t).passes = true ↔ sat t node :=
      passes_iff_of_part (P := (sat · node)) (part node) stopped
    by_cases passes : (v (.collecting options false) node t).passes = true
    · exact ((Judges.reject options node .notPassed).iff (by simp [← holds, passes])).at_node
        fun _ => (notAny_of_none stopped).trans (if_pos passes)
    · exact (Judges.skip.iff (by simp [← holds, passes])).at_node
        fun _ => (notAny_of_none stopped).trans (if_neg passes)

theorem judges_checkCombinations (parts : ∀ t, SubSchema s t → Decides options v sat t) :
    Judges (checkCombinations v (.collecting options false) s) node node
      (ConformsBranches sat s node) := by
  have branch {name : String} (combines : name ∈ branchKeywords) {schemas : List Tree}
      (found : s.get? name = some (.array schemas)) : ∀ t ∈ schemas, Decides options v sat t :=
    fun t mem => parts t (.branch combines found mem)
  have all : Judges (keyword s "allOf" (allOf v (.collecting options false))) node node
      (∀ schemas, s.get? "allOf" = some (.array schemas) → ∀ t ∈ schemas, sat t node) :=
    judges_branches (fun _ => ⟨_, rfl⟩) fun schemas found => .mapIdx fun index t mem =>
      judges_visitSelf (branch (by decide) found t mem) _
  have any : Judges (keyword s "anyOf" (anyOf v (.collecting options false))) node node
      (∀ schemas, s.get? "anyOf" = some (.array schemas) → ∃ t ∈ schemas, sat t node) :=
    judges_branches (fun _ => ⟨_, rfl⟩) fun schemas found =>
      judges_anyOf (branch (by decide) found)
  have one : Judges (keyword s "oneOf" (oneOf v (.collecting options false))) node node
      (∀ schemas, s.get? "oneOf" = some (.array schemas) → ExactlyOne (sat · node) schemas) :=
    judges_branches (fun _ => ⟨_, rfl⟩) fun schemas found =>
      judges_oneOf (branch (by decide) found)
  have negated : Judges (keyword s "not" (notAny v (.collecting options false))) node node
      (∀ t, s.get? "not" = some t → ¬ sat t node) :=
    judges_keyword fun t found => judges_notAny (parts t (.negated found))
  refine (all.cons (any.cons (one.cons (negated.cons .nil)))).iff ⟨?_, fun h => ?_⟩
  · rintro ⟨all, any, one, negated, -⟩
    exact ⟨all, any, one, negated⟩
  · exact ⟨h.allOf, h.anyOf, h.oneOf, h.negated, trivial⟩

end TreeSchema.Stage
