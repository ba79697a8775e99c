import TreeSchema.Proofs.Legibility.Node
import TreeSchema.Proofs.Mirroring.Combination

/-!
What the stages for combinations attest. The branches of a combination are run up to the
end of the list, whether or not they pass; only the search for one that passes ends at the
first, and what stands behind it is not looked at. A branch that is interrupted is no
branch that fails: its fault is that of the whole run.
-/

namespace TreeSchema

/-- The runs on branches, as far as branches are looked at, come to their ends. -/
structure BranchesEnded (options : Options) (s : Members) (n : Tree) : Prop where
  allOf : ∀ schemas, s.get? "allOf" = some (.array schemas) → ∀ (index : Nat) t,
    schemas[index]? = some t → Ended options n t
  anyOf : ∀ schemas, s.get? "anyOf" = some (.array schemas) → ∀ (index : Nat) t,
    schemas[index]? = some t → NonePasses options n schemas index → Ended options n t
  oneOf : ∀ schemas, s.get? "oneOf" = some (.array schemas) → ∀ (index : Nat) t,
    schemas[index]? = some t → Ended options n t
  negated : ∀ t, s.get? "not" = some t → Ended options n t

variable {options : Options} {s : Members} {d n : Tree} {blame : Fault → Prop}

namespace NonePasses

variable {t : Tree} {rest : List Tree} {index : Nat}

theorem zero {schemas : List Tree} : NonePasses options n schemas 0 :=
  fun _ lt => absurd lt (Nat.not_lt_zero _)

theorem head (h : NonePasses options n (t :: rest) (index + 1)) :
    (run (.collecting options false) n t).passes = false :=
  h 0 (Nat.succ_pos _) t rfl

theorem tail (h : NonePasses options n (t :: rest) (index + 1)) :
    NonePasses options n rest index :=
  fun earlier lt => h (earlier + 1) (Nat.succ_lt_succ lt)

theorem succ (fails : (run (.collecting options false) n t).passes = false)
    (h : NonePasses options n rest index) : NonePasses options n (t :: rest) (index + 1) := by
  intro earlier lt u place
  cases earlier with
  | zero =>
    cases place
    exact fails
  | succ earlier => exact h earlier (Nat.lt_of_succ_lt_succ lt) u place

end NonePasses

namespace Stage

/-! ### Branches -/

/-- Branches are run from the first on, with `first` as long as none passes. -/
theorem attests_judgeBranches {keyword : String} {first : Bool} {schemas : List Tree} (index : Nat)
    (blamed : ∀ (place : Nat) t, schemas[place]? = some t →
      (first = true → NonePasses options n schemas place) →
      ∀ f, (run (.collecting options false) n t).interruption? = some (.fault f) →
        blame (f.under (branchPath keyword (index + place)))) :
    TreeSchema.Attests blame
      (∀ (place : Nat) t, schemas[place]? = some t →
        (first = true → NonePasses options n schemas place) → Ended options n t)
      (judgeBranches (run (.collecting options false) n) keyword first index schemas) := by
  induction schemas generalizing index with
  | nil => exact .ok fun _ _ => nofun
  | cons t rest ih =>
    cases stops : (run (.collecting options false) n t).interruption? with
    | some i =>
      rw [judgeBranches_of_some stops]
      exact .under fun f eq => blamed 0 t rfl (fun _ => .zero) f (eq ▸ stops)
    | none =>
      cases searched : (run (.collecting options false) n t).passes && first with
      | true =>
        obtain ⟨passes, rfl⟩ := Bool.and_eq_true_iff.1 searched
        rw [judgeBranches_of_passes passes]
        refine .ok fun place u found tried => ?_
        cases place with
        | zero =>
          cases found
          exact stops
        | succ place => exact nomatch passes.symm.trans (tried rfl).head
      | false =>
        have fails (only : first = true) :
            (run (.collecting options false) n t).passes = false := by
          simpa [only] using searched
        have others := ih (index + 1) fun place u found tried f stops => by
          have blames := blamed (place + 1) u found (fun only => (tried only).succ (fails only))
          rw [Nat.add_assoc, Nat.add_comm 1]
          exact blames f stops
        rw [judgeBranches_of_none stops searched]
        refine (others.map _).mono fun ended place u found tried => ?_
        cases place with
        | zero =>
          cases found
          exact stops
        | succ place => exact ended place u found fun only => (tried only).tail

/-! ### What combinations tell -/

theorem attests_anyTold (verdicts : Verdicts) :
    TreeSchema.Attests blame True (anyTold verdicts) := by
  unfold anyTold
  split
  · exact .told _ trivial
  · exact .ok trivial

theorem attests_oneTold (verdicts : Verdicts) :
    TreeSchema.Attests blame True (oneTold verdicts) := by
  unfold oneTold
  split
  · exact .told _ trivial
  · induction neighbours verdicts.passing with
    | nil => exact .ok trivial
    | cons pair more ih =>
      have first : TreeSchema.Attests blame True (Violation.oneOfMultiple pair.1 pair.2).told :=
        .told _ trivial
      exact (first.append ih).mono And.left

/-! ### Stages -/

theorem Attests.keyword {name : String} {f : Tree → Stage} {P : Tree → Prop}
    (each : ∀ t, s.get? name = some t → Attests blame (P t) (f t) n n) :
    Attests blame (∀ t, s.get? name = some t → P t) (keyword s name f) n n := by
  unfold Stage.keyword
  cases found : s.get? name with
  | none => exact .skip fun _ => nofun
  | some t =>
    refine (each t found).mono fun holds t' found' => ?_
    cases found'
    exact holds

/-- The branches of a combination are those of a value in shape. -/
theorem attests_branches {keyword : String} (combines : keyword ∈ branchKeywords)
    {f : List Tree → Stage} {P : List Tree → Prop}
    (each : ∀ schemas, s.get? keyword = some (.array schemas) →
      Attests (Stems options s d) (P schemas) (f schemas) n n) :
    Attests (Stems options s d)
      (s.Fits ⟨keyword, Tree.isArray⟩ ∧ ∀ schemas, s.get? keyword = some (.array schemas) →
        P schemas)
      (Stage.keyword s keyword fun t => reading (branchesOf keyword t) f) n n := by
  have concerns : ⟨keyword, Tree.isArray⟩ ∈ s.shapes d.kind :=
    List.mem_append_right _ (List.mem_map_of_mem combines)
  have stage (t : Tree) (found : s.get? keyword = some t) : Attests (Stems options s d)
      (t.isArray = true ∧ ∀ schemas, t = .array schemas → P schemas)
      (reading (branchesOf keyword t) f) n n := by
    cases t with
    | array schemas =>
      refine (each schemas found).mono fun holds => ⟨rfl, fun schemas' same => ?_⟩
      cases same
      exact holds
    | _ => exact .malformed (.keyword concerns found rfl)
  exact (Attests.keyword stage).mono fun holds =>
    ⟨fun t found => (holds t found).1, fun schemas found => (holds _ found).2 schemas rfl⟩

theorem attests_notAny {t : Tree} (counted : n = d.counted options s)
    (found : s.get? "not" = some t) :
    Attests (Stems options s d) (Ended options n t)
      (notAny run (.collecting options false) t) n n := by
  refine ⟨_, .notAny, ?_⟩
  cases stops : (run (.collecting options false) n t).interruption? with
  | some i =>
    rw [Run.told_of_some stops]
    exact .under fun f eq => .part (counted ▸ .negated found) (eq ▸ stops)
  | none =>
    rw [Run.told_of_none stops]
    unfold notTold
    split
    · next eq => cases eq
    · exact .told _ stops
    · exact .ok stops

/-- All combinations are lists, and the runs on their branches are seen through. -/
theorem attests_checkCombinations (counted : n = d.counted options s) :
    Attests (Stems options s d)
      ((∀ keyword ∈ branchKeywords, s.Fits ⟨keyword, Tree.isArray⟩) ∧ BranchesEnded options s n)
      (checkCombinations run (.collecting options false) s) n n := by
  -- The fault of a branch is one of a part, seen from where the branch stands.
  have blamed {t : Tree} {path : Pointer} (consults : Consults options s n n t path) (f : Fault)
      (ends : (run (.collecting options false) n t).interruption? = some (.fault f)) :
      Stems options s d (f.under path) := .part (counted ▸ consults) ends
  have all : Attests (Stems options s d) _
      (Stage.keyword s "allOf" (allOf run (.collecting options false))) n n :=
    attests_branches (by decide) fun schemas found =>
      .mapIdx fun index t place => attests_part counted (.branch (.inl rfl) found place) id .here
  have any : Attests (Stems options s d) _
      (Stage.keyword s "anyOf" (anyOf run (.collecting options false))) n n :=
    attests_branches (by decide) fun schemas found =>
      have judged := attests_judgeBranches 0 fun place t branch tried => by
        rw [Nat.zero_add]
        exact blamed (.tried found branch (tried rfl))
      ⟨_, .anyOf, judged.bind fun verdicts _ => attests_anyTold verdicts⟩
  have one : Attests (Stems options s d) _
      (Stage.keyword s "oneOf" (oneOf run (.collecting options false))) n n :=
    attests_branches (by decide) fun schemas found =>
      have judged := attests_judgeBranches 0 fun place t branch _ => by
        rw [Nat.zero_add]
        exact blamed (.branch (.inr rfl) found branch)
      ⟨_, .oneOf, judged.bind fun verdicts _ => attests_oneTold verdicts⟩
  have negated : Attests (Stems options s d) _
      (Stage.keyword s "not" (notAny run (.collecting options false))) n n :=
    .keyword fun t found => attests_notAny counted found
  refine (all.cons (any.cons (one.cons (negated.cons .nil)))).mono ?_
  rintro ⟨⟨allFits, all⟩, ⟨anyFits, any⟩, ⟨oneFits, one⟩, negated, -⟩
  refine ⟨?_, ?_⟩
  · simp only [branchKeywords, List.forall_mem_cons]
    exact ⟨allFits, anyFits, oneFits, List.forall_mem_nil _⟩
  · exact
      { allOf := all
        anyOf := fun schemas found index t place tried =>
          (any schemas found).1 index t place fun _ => tried
        oneOf := fun schemas found index t place => (one schemas found).1 index t place nofun
        negated }

end Stage

end TreeSchema
