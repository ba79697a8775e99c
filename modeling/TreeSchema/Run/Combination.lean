import TreeSchema.Run.Basic

/-!
Stages for combinations of schemas. The branches of `allOf` are run one after
the other on the same node, each on what the one before left. The branches of
`anyOf` and `oneOf` all start from the node as it is, and a coercing run adopts
what the first branch without findings makes of it. `not` never coerces.
-/

namespace TreeSchema.Stage

/-- The branches of a combination, or the fault of a value that is no list of them. -/
def branchesOf (keyword : String) : Tree → Except Interruption (List Tree)
  | .array schemas => .ok schemas
  | _ => Interruption.malformed (.key keyword) (.branches keyword)

def branchPath (keyword : String) (index : Nat) : Pointer :=
  .entry keyword (.index index)

def allOf (visit : Visit) (config : Config) (t : Tree) : Stage :=
  reading (branchesOf "allOf" t) fun schemas =>
    sequence (schemas.mapIdx fun index s => visitSelf visit config s (branchPath "allOf" index))

/-- The findings of a branch, as a group of a finding on the combination. -/
def groupOf (path : Pointer) (branch : Run) : List Finding :=
  branch.findings.map (·.under .here path)

/-- What the branches of a combination come to: the nodes that the passing ones leave, with their
indices, and the groups of the others. -/
structure Verdicts where
  passing : List (Nat × Tree)
  groups : List (List Finding)

def Verdicts.none : Verdicts :=
  ⟨[], []⟩

/-- Runs the branches from `index` on; with `first`, no further than the first that passes. -/
def judgeBranches (run : Tree → Run) (keyword : String) (first : Bool) :
    Nat → List Tree → Except Interruption Verdicts
  | _, [] => .ok .none
  | index, s :: rest => do
    let branch := run s
    let path := branchPath keyword index
    match branch.interruption? with
    | some i => .error (i.under path)
    | Option.none =>
      if branch.passes && first then return ⟨[(index, branch.node)], []⟩
      let verdicts ← judgeBranches run keyword first (index + 1) rest
      if branch.passes then
        return { verdicts with passing := (index, branch.node) :: verdicts.passing }
      else return { verdicts with groups := groupOf path branch :: verdicts.groups }

/-- The verdicts with that on the branch in front. -/
def Verdicts.cons (index : Nat) (path : Pointer) (branch : Run) (verdicts : Verdicts) : Verdicts :=
  if branch.passes then { verdicts with passing := (index, branch.node) :: verdicts.passing }
  else { verdicts with groups := groupOf path branch :: verdicts.groups }

theorem Verdicts.cons_of_passes {branch : Run} (h : branch.passes = true) (index : Nat)
    (path : Pointer) (verdicts : Verdicts) :
    Verdicts.cons index path branch verdicts =
      { verdicts with passing := (index, branch.node) :: verdicts.passing } :=
  if_pos h

theorem Verdicts.cons_of_not_passes {branch : Run} (h : branch.passes ≠ true) (index : Nat)
    (path : Pointer) (verdicts : Verdicts) :
    Verdicts.cons index path branch verdicts =
      { verdicts with groups := groupOf path branch :: verdicts.groups } :=
  if_neg h

section

variable {run : Tree → Run} {keyword : String} {first : Bool} {index : Nat} {s : Tree}
  {rest : List Tree}

theorem judgeBranches_of_some {i : Interruption} (h : (run s).interruption? = some i) :
    judgeBranches run keyword first index (s :: rest) =
      .error (i.under (branchPath keyword index)) := by
  simp [judgeBranches, h]

/-- The search for one passing branch ends at the first. -/
theorem judgeBranches_of_passes (h : (run s).passes = true) :
    judgeBranches run keyword true index (s :: rest) = .ok ⟨[(index, (run s).node)], []⟩ := by
  have ends := ((run s).passes_iff.1 h).1
  simp [judgeBranches, ends, h, pure, Except.pure]

theorem judgeBranches_of_none (ends : (run s).interruption? = Option.none)
    (goesOn : ((run s).passes && first) = false) :
    judgeBranches run keyword first index (s :: rest) =
      (judgeBranches run keyword first (index + 1) rest).map
        (Verdicts.cons index (branchPath keyword index) (run s)) := by
  simp only [judgeBranches, ends, goesOn, Bool.false_eq_true, if_false]
  cases judgeBranches run keyword first (index + 1) rest with
  | error i => rfl
  | ok verdicts =>
    simp only [Except.map, Verdicts.cons]
    split <;> rfl

/-- Induction over the branches that verdicts were come to on. -/
theorem judgeBranches_induction {motive : Nat → List Tree → Verdicts → Prop}
    (nil : ∀ index, motive index [] .none)
    (found : ∀ index s rest, first = true → (run s).passes = true →
      motive index (s :: rest) ⟨[(index, (run s).node)], []⟩)
    (cons : ∀ index s rest verdicts, (run s).interruption? = Option.none →
      ((run s).passes && first) = false → motive (index + 1) rest verdicts →
      motive index (s :: rest) (Verdicts.cons index (branchPath keyword index) (run s) verdicts))
    {schemas : List Tree} {verdicts : Verdicts}
    (judged : judgeBranches run keyword first index schemas = .ok verdicts) :
    motive index schemas verdicts := by
  induction schemas generalizing index verdicts with
  | nil =>
    cases judged
    exact nil index
  | cons s rest ih =>
    cases stopped : (run s).interruption? with
    | some i =>
      rw [judgeBranches_of_some stopped] at judged
      cases judged
    | none =>
      cases searched : (run s).passes && first with
      | true =>
        obtain ⟨passes, rfl⟩ := Bool.and_eq_true_iff.1 searched
        rw [judgeBranches_of_passes passes] at judged
        cases judged
        exact found index s rest rfl passes
      | false =>
        rw [judgeBranches_of_none stopped searched] at judged
        cases more : judgeBranches run keyword first (index + 1) rest with
        | error i =>
          rw [more] at judged
          cases judged
        | ok verdicts =>
          rw [more] at judged
          cases judged
          exact cons index s rest verdicts stopped searched (ih more)

/-- There are no verdicts when a branch is interrupted. -/
theorem exists_of_judgeBranches_eq_error {schemas : List Tree} {i : Interruption}
    (judged : judgeBranches run keyword first index schemas = .error i) :
    ∃ place t j, schemas[place]? = some t ∧ (run t).interruption? = some j ∧
      i = j.under (branchPath keyword (index + place)) := by
  induction schemas generalizing index with
  | nil => cases judged
  | cons s rest ih =>
    cases stopped : (run s).interruption? with
    | some j =>
      rw [judgeBranches_of_some stopped] at judged
      cases judged
      exact ⟨0, s, j, rfl, stopped, rfl⟩
    | none =>
      cases searched : (run s).passes && first with
      | true =>
        obtain ⟨passes, rfl⟩ := Bool.and_eq_true_iff.1 searched
        rw [judgeBranches_of_passes passes] at judged
        cases judged
      | false =>
        rw [judgeBranches_of_none stopped searched] at judged
        cases more : judgeBranches run keyword first (index + 1) rest with
        | ok verdicts =>
          rw [more] at judged
          cases judged
        | error i' =>
          rw [more] at judged
          cases judged
          obtain ⟨place, t, j, found, stops, rfl⟩ := ih more
          exact ⟨place + 1, t, j, found, stops, by rw [Nat.add_right_comm, Nat.add_assoc]⟩

/-- Without a passing branch there is a group for each branch. -/
theorem groups_of_judgeBranches {schemas : List Tree} {groups : List (List Finding)}
    (judged : judgeBranches run keyword first index schemas = .ok ⟨[], groups⟩) :
    groups = schemas.mapIdx fun place t =>
      groupOf (branchPath keyword (index + place)) (run t) := by
  refine judgeBranches_induction (motive := fun index schemas verdicts =>
    verdicts.passing = [] → verdicts.groups = schemas.mapIdx fun place t =>
      groupOf (branchPath keyword (index + place)) (run t))
    (fun _ _ => rfl) (fun _ _ _ _ _ none => nomatch none)
    (fun index s rest verdicts _ _ ih none => ?_) judged rfl
  cases passed : (run s).passes with
  | true =>
    rw [Verdicts.cons_of_passes passed] at none
    cases none
  | false =>
    rw [Verdicts.cons_of_not_passes (by simp [passed])] at none ⊢
    simp only [List.mapIdx_cons, ih none, Nat.add_zero, Nat.add_assoc, Nat.add_comm 1]

/-- Without a passing branch each branch comes to an end and finds something. -/
theorem rejects_of_judgeBranches {schemas : List Tree} {groups : List (List Finding)}
    (judged : judgeBranches run keyword first index schemas = .ok ⟨[], groups⟩) :
    ∀ t ∈ schemas, (run t).Rejects := by
  refine judgeBranches_induction (motive := fun _ schemas verdicts =>
    verdicts.passing = [] → ∀ t ∈ schemas, (run t).Rejects)
    (fun _ _ => List.forall_mem_nil _) (fun _ _ _ _ _ none => nomatch none)
    (fun index s rest verdicts ends _ ih none => ?_) judged rfl
  cases passed : (run s).passes with
  | true =>
    rw [Verdicts.cons_of_passes passed] at none
    cases none
  | false =>
    rw [Verdicts.cons_of_not_passes (by simp [passed])] at none
    exact List.forall_mem_cons.2 ⟨⟨ends, passed⟩, ih none⟩

/-- A passing branch stands at its index, and its node is the one that its run leaves. -/
theorem getElem?_of_mem_passing {schemas : List Tree} {verdicts : Verdicts}
    (judged : judgeBranches run keyword first 0 schemas = .ok verdicts) {branch : Nat × Tree}
    (mem : branch ∈ verdicts.passing) :
    ∃ t, schemas[branch.1]? = some t ∧ (run t).passes = true ∧ branch.2 = (run t).node := by
  have counted : ∃ place t, schemas[place]? = some t ∧ branch.1 = 0 + place ∧
      (run t).passes = true ∧ branch.2 = (run t).node := by
    refine judgeBranches_induction (motive := fun index schemas verdicts =>
      ∀ branch ∈ verdicts.passing, ∃ place t, schemas[place]? = some t ∧
        branch.1 = index + place ∧ (run t).passes = true ∧ branch.2 = (run t).node)
      (fun _ => List.forall_mem_nil _) (fun index s rest _ passes => ?_)
      (fun index s rest verdicts _ _ ih branch mem => ?_) judged branch mem
    · exact List.forall_mem_singleton.2 ⟨0, s, rfl, rfl, passes, rfl⟩
    · have later (mem : branch ∈ verdicts.passing) : ∃ place t, (s :: rest)[place]? = some t ∧
          branch.1 = index + place ∧ (run t).passes = true ∧ branch.2 = (run t).node := by
        obtain ⟨place, t, found, eq, holds⟩ := ih branch mem
        exact ⟨place + 1, t, found, by omega, holds⟩
      cases passed : (run s).passes with
      | true =>
        rw [Verdicts.cons_of_passes passed] at mem
        rcases List.mem_cons.1 mem with rfl | mem
        · exact ⟨0, s, rfl, rfl, passed, rfl⟩
        · exact later mem
      | false =>
        rw [Verdicts.cons_of_not_passes (by simp [passed])] at mem
        exact later mem
  obtain ⟨place, t, found, eq, holds⟩ := counted
  rw [Nat.zero_add] at eq
  exact ⟨t, eq ▸ found, holds⟩

/-- Passing branches come in the order of their indices. -/
theorem pairwise_passing {schemas : List Tree} {verdicts : Verdicts}
    (judged : judgeBranches run keyword first index schemas = .ok verdicts) :
    (verdicts.passing.map (·.1)).Pairwise (· < ·) := by
  have ordered : (∀ branch ∈ verdicts.passing, index ≤ branch.1) ∧
      (verdicts.passing.map (·.1)).Pairwise (· < ·) := by
    refine judgeBranches_induction (motive := fun index _ verdicts =>
      (∀ branch ∈ verdicts.passing, index ≤ branch.1) ∧
        (verdicts.passing.map (·.1)).Pairwise (· < ·))
      (fun _ => ⟨List.forall_mem_nil _, .nil⟩)
      (fun index s rest _ _ => ⟨List.forall_mem_singleton.2 (Nat.le_refl _),
        List.pairwise_singleton ..⟩)
      (fun index s rest verdicts _ _ ih => ?_) judged
    obtain ⟨after, ordered⟩ := ih
    have later : ∀ branch ∈ verdicts.passing, index < branch.1 := after
    cases passed : (run s).passes with
    | true =>
      rw [Verdicts.cons_of_passes passed]
      refine ⟨List.forall_mem_cons.2 ⟨Nat.le_refl _, fun b mem => Nat.le_of_lt (later b mem)⟩,
        List.pairwise_cons.2 ⟨fun i mem => ?_, ordered⟩⟩
      obtain ⟨branch, among, rfl⟩ := List.mem_map.1 mem
      exact later branch among
    | false =>
      rw [Verdicts.cons_of_not_passes (by simp [passed])]
      exact ⟨fun b mem => Nat.le_of_lt (later b mem), ordered⟩
  exact ordered.2

end

/-- The node of the first passing branch, when coercing. -/
def adopt (config : Config) (node : Tree) : Stage := fun p =>
  if config.coercing then replace node p else skip p

theorem adopt_eq (config : Config) (node : Tree) (p : Progress) :
    adopt config node p = replace (if config.coercing then node else p.node) p := by
  unfold adopt
  split <;> rfl

def anyOf (visit : Visit) (config : Config) (t : Tree) : Stage :=
  reading (branchesOf "anyOf" t) fun schemas p =>
    reading (judgeBranches (visit config p.node) "anyOf" true 0 schemas) (fun verdicts =>
      match verdicts.passing with
      | [] => reject config (.anyOfMissing verdicts.groups)
      | (_, node) :: _ => adopt config node) p

theorem anyOf_of_error {visit : Visit} {config : Config} {schemas : List Tree} {p : Progress}
    {i : Interruption}
    (h : judgeBranches (visit config p.node) "anyOf" true 0 schemas = .error i) :
    anyOf visit config (.array schemas) p = interrupt i p := by
  simp [anyOf, branchesOf, h]

/-- Without a passing branch the groups of all branches are told. -/
theorem anyOf_of_nil {visit : Visit} {config : Config} {schemas : List Tree} {p : Progress}
    {groups : List (List Finding)}
    (h : judgeBranches (visit config p.node) "anyOf" true 0 schemas = .ok ⟨[], groups⟩) :
    anyOf visit config (.array schemas) p = reject config (.anyOfMissing groups) p := by
  simp [anyOf, branchesOf, h]

theorem anyOf_of_cons {visit : Visit} {config : Config} {schemas : List Tree} {p : Progress}
    {branch : Nat × Tree} {more : List (Nat × Tree)} {groups : List (List Finding)}
    (h : judgeBranches (visit config p.node) "anyOf" true 0 schemas =
      .ok ⟨branch :: more, groups⟩) :
    anyOf visit config (.array schemas) p = adopt config branch.2 p := by
  simp [anyOf, branchesOf, h]

/-- Each index with the next one. -/
def neighbours (passing : List (Nat × Tree)) : List (Nat × Nat) :=
  let indices := passing.map (·.1)
  indices.zip (indices.drop 1)

/-- Of indices in order, each begins one pair at most. -/
theorem pairwise_neighbours {passing : List (Nat × Tree)}
    (ordered : (passing.map (·.1)).Pairwise (· < ·)) :
    (neighbours passing).Pairwise fun x y => x.1 < y.1 := by
  refine List.pairwise_iff_getElem.2 fun i j hi hj lt => ?_
  simp only [neighbours, List.getElem_zip]
  exact List.pairwise_iff_getElem.1 ordered i j _ _ lt

def oneOf (visit : Visit) (config : Config) (t : Tree) : Stage :=
  reading (branchesOf "oneOf" t) fun schemas p =>
    reading (judgeBranches (visit config p.node) "oneOf" false 0 schemas) (fun verdicts =>
      match verdicts.passing with
      | [] => reject config (.oneOfMissing verdicts.groups)
      | (_, node) :: _ =>
        sequence (adopt config node :: (neighbours verdicts.passing).map fun (first, second) =>
          reject config (.oneOfMultiple first second))) p

theorem oneOf_of_error {visit : Visit} {config : Config} {schemas : List Tree} {p : Progress}
    {i : Interruption}
    (h : judgeBranches (visit config p.node) "oneOf" false 0 schemas = .error i) :
    oneOf visit config (.array schemas) p = interrupt i p := by
  simp [oneOf, branchesOf, h]

theorem oneOf_of_nil {visit : Visit} {config : Config} {schemas : List Tree} {p : Progress}
    {groups : List (List Finding)}
    (h : judgeBranches (visit config p.node) "oneOf" false 0 schemas = .ok ⟨[], groups⟩) :
    oneOf visit config (.array schemas) p = reject config (.oneOfMissing groups) p := by
  simp [oneOf, branchesOf, h]

/-- The first passing branch is adopted, and each further one is told with the one before. -/
theorem oneOf_of_cons {visit : Visit} {config : Config} {schemas : List Tree} {p : Progress}
    {branch : Nat × Tree} {more : List (Nat × Tree)} {groups : List (List Finding)}
    (h : judgeBranches (visit config p.node) "oneOf" false 0 schemas =
      .ok ⟨branch :: more, groups⟩) :
    oneOf visit config (.array schemas) p =
      sequence (adopt config branch.2 :: (neighbours (branch :: more)).map fun (first, second) =>
        reject config (.oneOfMultiple first second)) p := by
  simp [oneOf, branchesOf, h]

def notAny (visit : Visit) (config : Config) (t : Tree) : Stage := fun p =>
  let branch := visit { config with coercing := false } p.node t
  match branch.interruption? with
  | some i => interrupt (i.under (.key "not")) p
  | Option.none => if branch.passes then reject config .notPassed p else skip p

theorem notAny_of_some {visit : Visit} {config : Config} {t : Tree} {p : Progress}
    {i : Interruption}
    (h : (visit { config with coercing := false } p.node t).interruption? = some i) :
    notAny visit config t p = interrupt (i.under (.key "not")) p := by
  simp [notAny, h]

theorem notAny_of_none {visit : Visit} {config : Config} {t : Tree} {p : Progress}
    (h : (visit { config with coercing := false } p.node t).interruption? = Option.none) :
    notAny visit config t p =
      if (visit { config with coercing := false } p.node t).passes then reject config .notPassed p
      else skip p := by
  simp [notAny, h]

/-- The stage of a keyword, where the schema has it. -/
def keyword (schema : Members) (name : String) (stage : Tree → Stage) : Stage :=
  match schema.get? name with
  | some t => stage t
  | Option.none => skip

def checkCombinations (visit : Visit) (config : Config) (schema : Members) : Stage :=
  sequence
    [keyword schema "allOf" (allOf visit config),
      keyword schema "anyOf" (anyOf visit config),
      keyword schema "oneOf" (oneOf visit config),
      keyword schema "not" (notAny visit config)]

end TreeSchema.Stage
