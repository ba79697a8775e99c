import TreeSchema.Proofs.Mirroring.Object

/-!
Combinations of schemas, side by side. Branches keep their order, and the same branches
pass; the groups of the others are compared one by one.
-/

namespace TreeSchema

namespace Stage

/-- The same branches pass, and the groups of the others match one by one. -/
structure Verdicts.Alike (v w : Verdicts) : Prop where
  passing : v.passing.map (·.1) = w.passing.map (·.1)
  groups : List.Forall₂ (Rearranges Finding.Rearranged) v.groups w.groups

theorem Verdicts.Alike.cons {index : Nat} {path : Pointer} {branch branch' : Run}
    {v w : Verdicts} (alike : v.Alike w)
    (related : Rearranges Finding.Rearranged branch.findings branch'.findings)
    (passes : branch.passes = branch'.passes) :
    (Verdicts.cons index path branch v).Alike (Verdicts.cons index path branch' w) := by
  cases passed : branch.passes with
  | true =>
    rw [cons_of_passes passed, cons_of_passes (passes ▸ passed)]
    exact ⟨congrArg (index :: ·) alike.passing, alike.groups⟩
  | false =>
    rw [cons_of_not_passes (by simp [passed]), cons_of_not_passes (by simp [← passes, passed])]
    have group : Rearranges Finding.Rearranged (groupOf path branch) (groupOf path branch') :=
      (related.of_mem fun _ _ _ _ same => same.under .here path).map
    exact ⟨alike.passing, .cons group alike.groups⟩

/-- Branches that tell alike are judged alike, wherever the search for one that passes ends. -/
theorem judgeBranches_agrees {f g : Tree → Run} {name : String} {first : Bool}
    {schemas schemas' : List Tree}
    (parts : List.Forall₂ (fun t t' => TellAlike (f t).told (g t').told) schemas schemas')
    (index : Nat) :
    Agrees Verdicts.Alike (judgeBranches f name first index schemas)
      (judgeBranches g name first index schemas') := by
  induction parts generalizing index with
  | nil => exact .ok ⟨rfl, .nil⟩
  | @cons t t' rest rest' tells _ ih =>
    obtain ⟨cause, stops⟩ | ⟨cause, stops⟩ | ⟨i, j, stops, stops'⟩ | ⟨ends, ends', related⟩ :=
      tells.of_told
    · rw [judgeBranches_of_some stops]
      exact .left cause _
    · rw [judgeBranches_of_some stops]
      exact .right _ cause
    · rw [judgeBranches_of_some stops, judgeBranches_of_some stops']
      exact .errors _ _
    · have passes : (f t).passes = (g t').passes := by
        rw [Bool.eq_iff_iff, Run.passes_iff, Run.passes_iff, ends, ends', related.eq_nil_iff]
      cases searched : (f t).passes && first with
      | true =>
        obtain ⟨passed, rfl⟩ := Bool.and_eq_true_iff.1 searched
        rw [judgeBranches_of_passes passed, judgeBranches_of_passes (passes ▸ passed)]
        exact .ok ⟨rfl, .nil⟩
      | false =>
        rw [judgeBranches_of_none ends searched, judgeBranches_of_none ends' (passes ▸ searched)]
        exact (ih (index + 1)).map fun _ _ alike => alike.cons related passes

/-! ### What combinations yield -/

def anyTold (verdicts : Verdicts) : Except Interruption (List Finding) :=
  match verdicts.passing with
  | [] => (Violation.anyOfMissing verdicts.groups).told
  | _ :: _ => .ok []

def oneTold (verdicts : Verdicts) : Except Interruption (List Finding) :=
  match verdicts.passing with
  | [] => (Violation.oneOfMissing verdicts.groups).told
  | _ :: _ => gather ((neighbours verdicts.passing).map fun (first, second) =>
      (Violation.oneOfMultiple first second).told)

def notTold : Except Interruption (List Finding) → Except Interruption (List Finding)
  | .error i => .error (i.under (.key "not"))
  | .ok [] => Violation.notPassed.told
  | .ok (_ :: _) => .ok []

theorem Verdicts.Alike.anyTold {v w : Verdicts} (alike : v.Alike w) :
    TellAlike (anyTold v) (Stage.anyTold w) := by
  obtain ⟨passing, groups⟩ := v
  obtain ⟨passing', groups'⟩ := w
  obtain ⟨same, each⟩ := alike
  cases passing with
  | nil =>
    cases passing' with
    | nil => exact .ok (.singleton (.intro each))
    | cons => cases same
  | cons =>
    cases passing' with
    | nil => cases same
    | cons => exact .refl _

theorem Verdicts.Alike.oneTold {v w : Verdicts} (alike : v.Alike w) :
    TellAlike (oneTold v) (Stage.oneTold w) := by
  obtain ⟨passing, groups⟩ := v
  obtain ⟨passing', groups'⟩ := w
  obtain ⟨same, each⟩ := alike
  -- Which branches are told to be too many is said by the indices alone.
  have pairs : neighbours passing = neighbours passing' := by
    simp only [neighbours, same]
  cases passing with
  | nil =>
    cases passing' with
    | nil => exact .ok (.singleton (.intro each))
    | cons => cases same
  | cons =>
    cases passing' with
    | nil => cases same
    | cons =>
      unfold Stage.oneTold
      dsimp only
      rw [pairs]
      exact .refl _

theorem notTold_agrees {x y : Except Interruption (List Finding)} (h : TellAlike x y) :
    TellAlike (notTold x) (notTold y) := by
  cases h with
  | left cause => exact .left cause _
  | right _ cause => exact .right _ cause
  | faults f g => exact .faults _ _
  | @ok found found' related =>
    cases found with
    | nil =>
      rw [related.eq_nil_iff.1 rfl]
      exact .refl _
    | cons =>
      cases found' with
      | nil => cases related.eq_nil_iff.2 rfl
      | cons => exact .refl _

/-- The node that verdicts leave: a coercing run adopts that of the first passing branch. -/
def Verdicts.adopted (coercing : Bool) (n : Tree) (verdicts : Verdicts) : Tree :=
  match verdicts.passing with
  | [] => n
  | (_, node) :: _ => if coercing then node else n

theorem Verdicts.adopted_plain (n : Tree) (verdicts : Verdicts) : verdicts.adopted false n = n := by
  unfold adopted
  split <;> rfl

namespace Yields

variable {options : Options} {coercing : Bool} {v : Visit} {n : Tree} {schemas : List Tree}

theorem adopt {node : Tree} : Yields (adopt (.collecting options coercing) node) n
    (if coercing then node else n) (.ok []) :=
  replace.at_node fun held => adopt_eq (.collecting options coercing) node ⟨n, held⟩

section

variable {verdicts : Verdicts}

theorem anyOf_of_judged (judged :
    judgeBranches (v (.collecting options coercing) n) "anyOf" true 0 schemas = .ok verdicts) :
    Yields (anyOf v (.collecting options coercing) (.array schemas)) n
      (verdicts.adopted coercing n) (anyTold verdicts) := by
  obtain ⟨passing, groups⟩ := verdicts
  cases passing with
  | nil => exact (reject options _).at_node fun _ => anyOf_of_nil judged
  | cons => exact adopt.at_node fun _ => anyOf_of_cons judged

theorem oneOf_of_judged (judged :
    judgeBranches (v (.collecting options coercing) n) "oneOf" false 0 schemas = .ok verdicts) :
    Yields (oneOf v (.collecting options coercing) (.array schemas)) n
      (verdicts.adopted coercing n) (oneTold verdicts) := by
  obtain ⟨passing, groups⟩ := verdicts
  cases passing with
  | nil => exact (reject options _).at_node fun _ => oneOf_of_nil judged
  | cons branch more =>
    have rejects (m : Tree) : Yields
        (sequence ((neighbours (branch :: more)).map fun (first, second) =>
          Stage.reject (.collecting options coercing) (.oneOfMultiple first second))) m m
        (oneTold ⟨branch :: more, groups⟩) := map fun _ _ => reject options _
    exact (adopt.cons_of_nil (rejects _)).at_node fun _ => oneOf_of_cons judged

end

theorem anyOf :
    Yields (anyOf v (.collecting options false) (.array schemas)) n n
      (judgeBranches (v (.collecting options false) n) "anyOf" true 0 schemas >>= anyTold) := by
  cases judged : judgeBranches (v (.collecting options false) n) "anyOf" true 0 schemas with
  | error i => exact (interrupt i).at_node fun _ => anyOf_of_error judged
  | ok verdicts =>
    have yields := anyOf_of_judged judged
    rwa [verdicts.adopted_plain n] at yields

theorem oneOf :
    Yields (oneOf v (.collecting options false) (.array schemas)) n n
      (judgeBranches (v (.collecting options false) n) "oneOf" false 0 schemas >>= oneTold) := by
  cases judged : judgeBranches (v (.collecting options false) n) "oneOf" false 0 schemas with
  | error i => exact (interrupt i).at_node fun _ => oneOf_of_error judged
  | ok verdicts =>
    have yields := oneOf_of_judged judged
    rwa [verdicts.adopted_plain n] at yields

theorem notAny {t : Tree} :
    Yields (notAny v (.collecting options false) t) n n
      (notTold (v (.collecting options false) n t).told) := by
  cases stops : (v (.collecting options false) n t).interruption? with
  | some i =>
    rw [Run.told_of_some stops]
    exact (interrupt (i.under (.key "not"))).at_node fun _ => notAny_of_some stops
  | none =>
    have plain (held : List Finding) : Stage.notAny v (.collecting options false) t ⟨n, held⟩ =
        if (v (.collecting options false) n t).passes then
          Stage.reject (.collecting options false) .notPassed ⟨n, held⟩
        else Stage.skip ⟨n, held⟩ := notAny_of_none stops
    rw [Run.told_of_none stops]
    cases found : (v (.collecting options false) n t).findings with
    | nil =>
      have passes := ((v (.collecting options false) n t).passes_iff).2 ⟨stops, found⟩
      have rejects : Yields (Stage.reject (.collecting options false) .notPassed) n n
        Violation.notPassed.told := reject options _
      exact rejects.at_node fun held => (plain held).trans (if_pos passes)
    | cons f rest =>
      have fails : (v (.collecting options false) n t).passes ≠ true := fun passes =>
        nomatch found.symm.trans ((Run.passes_iff _).1 passes).2
      exact skip.at_node fun held => (plain held).trans (if_neg fails)

end Yields

namespace Mirrors

variable {options : Options} {n n' : Tree} {s s' : Members}

theorem keyword (h : Twins options s s') {name : String} {f g : Tree → Stage}
    (each : ∀ t t', s.get? name = some t → t.Reordered t' → Mirrors (f t) (g t') n n' n n') :
    Mirrors (keyword s name f) (Stage.keyword s' name g) n n' n n' := by
  unfold Stage.keyword
  obtain ⟨found, found'⟩ | ⟨t, t', found, found', reordered⟩ := h.get?_cases name
  · simp only [found, found']
    exact skip
  · simp only [found, found']
    exact each t t' found reordered

theorem branches (h : Twins options s s') {name : String} (combines : name ∈ branchKeywords)
    {f g : List Tree → Stage}
    (each : ∀ schemas schemas', List.Forall₂ (Alike options) schemas schemas' →
      Mirrors (f schemas) (g schemas') n n' n n') :
    Mirrors (Stage.keyword s name fun t => Stage.reading (branchesOf name t) f)
      (Stage.keyword s' name fun t => Stage.reading (branchesOf name t) g) n n' n n' := by
  refine keyword h fun t t' found reordered => ?_
  cases reordered with
  | array items =>
    exact each _ _ (forall₂_of_mem items fun t mem t' _ reordered =>
      h.parts t t' (.branch combines found mem) reordered)
  | _ => exact interrupt _ _

theorem checkCombinations (h : Twins options s s') (same : n.Same n') :
    Mirrors (checkCombinations run (.collecting options false) s)
      (Stage.checkCombinations run (.collecting options false) s') n n' n n' := by
  refine cons (branches h (by decide) fun schemas schemas' alike => ?_)
    (cons (branches h (by decide) fun schemas schemas' alike => ?_)
      (cons (branches h (by decide) fun schemas schemas' alike => ?_)
        (cons (keyword h fun t t' found reordered => ?_) nil)))
  · exact mapIdx alike fun index t _ t' alike => visitSelf alike same _
  · have parts := alike.imp fun _ _ alike => alike n n' same
    exact ⟨_, _, .anyOf, .anyOf, (judgeBranches_agrees parts 0).bind fun _ _ => (·.anyTold)⟩
  · have parts := alike.imp fun _ _ alike => alike n n' same
    exact ⟨_, _, .oneOf, .oneOf, (judgeBranches_agrees parts 0).bind fun _ _ => (·.oneTold)⟩
  · have tells := h.parts t t' (.negated found) reordered n n' same
    exact ⟨_, _, .notAny, .notAny, notTold_agrees tells⟩

end Mirrors

end Stage

end TreeSchema
