import TreeSchema.Proofs.Mirroring.Basic

/-!
Stages for every kind of node, side by side: the same data spelled in two ways, and a
schema with its keys in two orders. What is read from the keywords is the same up to
the choices of an enumeration, whose own keys may be in two orders, and equal data is
judged alike. Divisibility is left out: an integer and the double of the same value
need not be divided alike.
-/

namespace TreeSchema

/-! ### Schemas with their keys in two orders -/

/-- Runs of equal data against the schemas agree. -/
def Alike (options : Options) (t t' : Tree) : Prop :=
  ∀ n n' : Tree, n.Same n' → TellAlike (run (.collecting options false) n t).told
    (run (.collecting options false) n' t').told

/-- Two schemas that are one with its keys reordered, without the keyword for divisors; runs
against what stands in them agree. -/
structure Twins (options : Options) (s s' : Members) : Prop where
  wellFormed : (Tree.object s).WellFormed
  reordered : (Tree.object s).Reordered (.object s')
  undivided : s.get? "multipleOf" = none
  parts : ∀ t t', SubSchema s t → t.Reordered t' → Alike options t t'

namespace Tree

theorem strings?_eq_of_reordered {xs ys : List Tree} (h : List.Forall₂ Reordered xs ys) :
    strings? xs = strings? ys := by
  induction h with
  | nil => rfl
  | cons related _ ih =>
    cases related with
    | string s => rw [strings?, strings?, ih]
    | _ => rfl

theorem isTruthy_eq_of_reordered {t u : Tree} (h : t.Reordered u) : t.isTruthy = u.isTruthy := by
  cases h with
  | number value => rw [value]
  | array items => cases items <;> rfl
  | object members =>
    rw [isTruthy, isTruthy, Bool.not_inj_iff, Bool.eq_iff_iff, List.isEmpty_iff, List.isEmpty_iff]
    exact members.eq_nil_iff
  | _ => rfl

end Tree

namespace Twins

variable {options : Options} {s s' : Members}

theorem get?_cases (h : Twins options s s') (keyword : String) :
    s.get? keyword = none ∧ s'.get? keyword = none ∨
      ∃ t t', s.get? keyword = some t ∧ s'.get? keyword = some t' ∧ t.Reordered t' := by
  obtain ⟨wellFormed, reordered, -, -⟩ := h
  cases reordered with
  | object members => exact Members.get?_cases members wellFormed.nodup keyword

theorem has_eq (h : Twins options s s') (keyword : String) : s.has keyword = s'.has keyword := by
  rw [← Members.isSome_get?, ← Members.isSome_get?]
  obtain ⟨found, found'⟩ | ⟨t, t', found, found', -⟩ := h.get?_cases keyword
  · rw [found, found']
  · rw [found, found']
    rfl

theorem declaredTypes_eq (h : Twins options s s') : declaredTypes s = declaredTypes s' := by
  obtain ⟨found, found'⟩ | ⟨t, t', found, found', reordered⟩ := h.get?_cases "type"
  · simp only [declaredTypes, found, found']
  · simp only [declaredTypes, found, found']
    cases reordered with
    | array items => simp only [Tree.strings?_eq_of_reordered items]
    | _ => rfl

end Twins

/-- The same is allowed, up to a schema that runs agree on. -/
inductive Additional.Alike (options : Options) : Additional → Additional → Prop where
  | forbidden : Alike options .forbidden .forbidden
  | any : Alike options .any .any
  | schema {m m' : Members} (alike : TreeSchema.Alike options (.object m) (.object m')) :
      Alike options (.schema m) (.schema m')

theorem Additional.read_cases {options : Options} {t t' : Tree} (reordered : t.Reordered t')
    (alike : ∀ m, t = .object m → TreeSchema.Alike options t t') :
    ofTree? t = none ∧ ofTree? t' = none ∨
      ∃ p p', ofTree? t = some p ∧ ofTree? t' = some p' ∧ p.Alike options p' := by
  cases reordered with
  | bool b =>
    cases b with
    | true => exact .inr ⟨_, _, rfl, rfl, .any⟩
    | false => exact .inr ⟨_, _, rfl, rfl, .forbidden⟩
  | object members => exact .inr ⟨_, _, rfl, rfl, .schema (alike _ rfl)⟩
  | _ => exact .inl ⟨rfl, rfl⟩

/-! ### Constraints -/

namespace Constraint

/-- Equal data is judged alike by the two constraints. -/
def JudgedAlike (c c' : Constraint) : Prop :=
  ∀ n n' : Tree, n.Same n' → c.judge n = c'.judge n'

/-- The same constraints are read, up to how they are spelled, or nothing can be read. -/
inductive ReadAlike : Reading → Reading → Prop where
  | errors (i j : Interruption) : ReadAlike (.error i) (.error j)
  | ok {cs cs' : List Constraint} (each : List.Forall₂ JudgedAlike cs cs') :
      ReadAlike (.ok cs) (.ok cs')

theorem indexOfEqual?_eq {t u : Tree} {xs ys : List Tree} (same : t.Same u)
    (each : List.Forall₂ Tree.Same xs ys) (index : Nat) :
    indexOfEqual? t index xs = indexOfEqual? u index ys := by
  induction each generalizing index with
  | nil => rfl
  | cons related _ ih =>
    have equal := same.equal_eq related.wellFormed related.matching fun x y same z =>
      Bool.eq_iff_iff.2 ⟨fun h => Number.equal_trans h same,
        fun h => Number.equal_trans h (Number.equal_symm same)⟩
    rw [indexOfEqual?, indexOfEqual?, equal, ih]

theorem firstDuplicate?_eq {xs ys : List Tree} (each : List.Forall₂ Tree.Same xs ys)
    (index : Nat) : firstDuplicate? index xs = firstDuplicate? index ys := by
  induction each generalizing index with
  | nil => rfl
  | cons related rest ih =>
    rw [firstDuplicate?, firstDuplicate?, indexOfEqual?_eq related rest, ih]

/-- The constraint divides nothing and holds no trees. -/
def Plain : Constraint → Prop
  | .multipleOf _ => False
  | .among _ => False
  | _ => True

/-- How such a constraint is judged depends on the value of the data only. -/
theorem Plain.judgedAlike {c : Constraint} (plain : c.Plain) : JudgedAlike c c := by
  intro n n' same
  have matching := same.matching
  -- A constraint looks at one kind of node only, and at the value of that alone.
  cases matching with
  | number value =>
    have compares := Number.compare?_eq_of_equal value
    cases c with
    | multipleOf divisor => exact plain.elim
    | among choices => exact plain.elim
    | minimum limit | maximum limit =>
      simp only [judge, Number.lt, Number.equal, compares limit]
    | _ => rfl
  | array items =>
    cases c with
    | among choices => exact plain.elim
    | uniqueItems => simp only [judge, firstDuplicate?_eq same.items]
    | minItems limit | maxItems limit => simp only [judge, items.length_eq]
    | _ => rfl
  | object members =>
    cases c with
    | among choices => exact plain.elim
    | minProperties limit | maxProperties limit => simp only [judge, members.length_eq]
    | _ => rfl
  | _ =>
    cases c with
    | among choices => exact plain.elim
    | _ => rfl

theorem judgedAlike_among {choices choices' : List Tree}
    (wellFormed : ∀ t ∈ choices, t.WellFormed)
    (each : List.Forall₂ Tree.Reordered choices choices') :
    JudgedAlike (.among choices) (.among choices') := by
  intro n n' same
  have any : choices.any n.equal = choices'.any n'.equal := by
    induction each with
    | nil => rfl
    | cons related _ ih =>
      obtain ⟨here, rest⟩ := List.forall_mem_cons.1 wellFormed
      have equal := same.equal_eq here related fun _ _ same _ => same ▸ rfl
      rw [List.any_cons, List.any_cons, equal, ih rest]
  simp only [judge, any]

namespace ReadAlike

theorem nil : ReadAlike (.ok []) (.ok []) :=
  .ok .nil

theorem single {c : Constraint} (plain : c.Plain) : ReadAlike (.ok [c]) (.ok [c]) :=
  .ok (.cons plain.judgedAlike .nil)

theorem all {rs rs' : List Reading} (h : List.Forall₂ ReadAlike rs rs') :
    ReadAlike (readAll rs) (readAll rs') := by
  induction h with
  | nil => exact nil
  | cons first _ ih =>
    cases first with
    | errors i j => exact .errors i j
    | ok each =>
      rw [readAll, readAll]
      generalize readAll _ = more at ih ⊢
      generalize readAll _ = more' at ih ⊢
      cases ih with
      | errors i j => exact .errors i j
      | ok each' => exact .ok (List.rel_append each each')

end ReadAlike

variable {options : Options} {s s' : Members} (h : Twins options s s')

include h

theorem readAlike_countOf {keyword : String} {make : Number → Constraint}
    (plain : ∀ n, (make n).Plain) :
    ReadAlike (countOf s keyword make) (countOf s' keyword make) := by
  obtain ⟨found, found'⟩ | ⟨t, t', found, found', reordered⟩ := h.get?_cases keyword
  · simp only [countOf, found, found', ReadAlike.nil]
  · simp only [countOf, found, found']
    cases reordered with
    | number value =>
      subst value
      dsimp only
      split
      · exact .errors _ _
      · exact .single (plain _)
    | _ => exact .errors _ _

theorem readAlike_limitOf {keyword exclusive : String} {make : Number → Bool → Constraint}
    (plain : ∀ n b, (make n b).Plain) :
    ReadAlike (limitOf s keyword exclusive make) (limitOf s' keyword exclusive make) := by
  have excludes : ((s.get? exclusive).map Tree.isTruthy).getD false =
      ((s'.get? exclusive).map Tree.isTruthy).getD false := by
    obtain ⟨found, found'⟩ | ⟨t, t', found, found', reordered⟩ := h.get?_cases exclusive
    · rw [found, found']
    · rw [found, found']
      exact Tree.isTruthy_eq_of_reordered reordered
  obtain ⟨found, found'⟩ | ⟨t, t', found, found', reordered⟩ := h.get?_cases keyword
  · simp only [limitOf, found, found', ReadAlike.nil]
  · simp only [limitOf, found, found', excludes]
    cases reordered with
    | number value =>
      subst value
      exact .single (plain _ _)
    | _ => exact .errors _ _

theorem patternLetters_cases : patternLetters s = patternLetters s' ∨
    ∃ i j, patternLetters s = .error i ∧ patternLetters s' = .error j := by
  have refused (t : Tree) : ∃ i, (do
      let shown ← Interruption.ofFailure t.shown
      Interruption.malformed (.key "patternFlags") (.patternFlags shown) :
        Except Interruption String) = .error i := by
    cases t.shown <;> exact ⟨_, rfl⟩
  obtain ⟨found, found'⟩ | ⟨t, t', found, found', reordered⟩ := h.get?_cases "patternFlags"
  · simp only [patternLetters, found, found', true_or]
  · simp only [patternLetters, found, found']
    obtain ⟨i, refuses⟩ := refused t
    obtain ⟨j, refuses'⟩ := refused t'
    cases reordered with
    | string s => exact .inl rfl
    | _ => exact .inr ⟨i, j, refuses, refuses'⟩

theorem readAlike_patternOf : ReadAlike (patternOf s) (patternOf s') := by
  obtain ⟨found, found'⟩ | ⟨t, t', found, found', reordered⟩ := h.get?_cases "pattern"
  · simp only [patternOf, found, found', ReadAlike.nil]
  · simp only [patternOf, found, found']
    cases reordered with
    | string text =>
      -- One text with the same letters is compiled once; letters that differ are all refused.
      dsimp only
      obtain same | ⟨i, j, refuses, refuses'⟩ := patternLetters_cases h
      · rw [same]
        cases patternLetters s' with
        | error i => exact .errors i i
        | ok letters =>
          dsimp only [bind, Except.bind]
          generalize Pattern.compile text letters = compiled
          match compiled with
          | .error cause => exact .errors _ _
          | .ok (.error r) => exact .errors _ _
          | .ok (.ok regex) => exact .single trivial
      · rw [refuses, refuses']
        exact .errors i j
    | _ => exact .errors _ _

theorem readAlike_ofEnum : ReadAlike (ofEnum s) (ofEnum s') := by
  obtain ⟨found, found'⟩ | ⟨t, t', found, found', reordered⟩ := h.get?_cases "enum"
  · simp only [ofEnum, found, found', ReadAlike.nil]
  · simp only [ofEnum, found, found']
    cases reordered with
    | array items =>
      have choices := Members.wellFormed_of_get? h.wellFormed found
      exact .ok (.cons (judgedAlike_among (Tree.wellFormed_array_iff.1 choices) items) .nil)
    | _ => exact .errors _ _

theorem readAlike_ofStrings : ReadAlike (ofStrings s) (ofStrings s') := by
  have short : ReadAlike (countOf s "minLength" .minLength) (countOf s' "minLength" .minLength) :=
    readAlike_countOf h fun _ => trivial
  have long : ReadAlike (countOf s "maxLength" .maxLength) (countOf s' "maxLength" .maxLength) :=
    readAlike_countOf h fun _ => trivial
  exact .all (.cons short (.cons long (.cons (readAlike_patternOf h) .nil)))

theorem readAlike_ofNumbers : ReadAlike (ofNumbers s) (ofNumbers s') := by
  have undivided : s'.get? "multipleOf" = none := by
    obtain ⟨-, found'⟩ | ⟨t, t', found, -⟩ := h.get?_cases "multipleOf"
    · exact found'
    · exact nomatch h.undivided.symm.trans found
  have none : ReadAlike (divisorOf s) (divisorOf s') := by
    simp only [divisorOf, h.undivided, undivided, ReadAlike.nil]
  have low : ReadAlike (limitOf s "minimum" "exclusiveMinimum" .minimum)
      (limitOf s' "minimum" "exclusiveMinimum" .minimum) :=
    readAlike_limitOf h fun _ _ => trivial
  have high : ReadAlike (limitOf s "maximum" "exclusiveMaximum" .maximum)
      (limitOf s' "maximum" "exclusiveMaximum" .maximum) :=
    readAlike_limitOf h fun _ _ => trivial
  exact .all (.cons none (.cons low (.cons high .nil)))

theorem readAlike_ofArrays : ReadAlike (ofArrays s) (ofArrays s') := by
  have short : ReadAlike (countOf s "minItems" .minItems) (countOf s' "minItems" .minItems) :=
    readAlike_countOf h fun _ => trivial
  have long : ReadAlike (countOf s "maxItems" .maxItems) (countOf s' "maxItems" .maxItems) :=
    readAlike_countOf h fun _ => trivial
  have unique : ReadAlike (.ok (if s.has "uniqueItems" then [.uniqueItems] else []))
      (.ok (if s'.has "uniqueItems" then [.uniqueItems] else [])) := by
    rw [h.has_eq]
    split
    · exact .single trivial
    · exact .nil
  exact .all (.cons short (.cons long (.cons unique .nil)))

theorem readAlike_ofObjects : ReadAlike (ofObjects s) (ofObjects s') := by
  have few : ReadAlike (countOf s "minProperties" .minProperties)
      (countOf s' "minProperties" .minProperties) :=
    readAlike_countOf h fun _ => trivial
  have many : ReadAlike (countOf s "maxProperties" .maxProperties)
      (countOf s' "maxProperties" .maxProperties) :=
    readAlike_countOf h fun _ => trivial
  exact .all (.cons few (.cons many .nil))

end Constraint

/-! ### Stages -/

namespace Stage.Mirrors

variable {options : Options} {n n' : Tree}

theorem checkTypes (types : List TypeName) (same : n.Same n') :
    Mirrors (checkTypes (.collecting options false) types)
      (Stage.checkTypes (.collecting options false) types) n n' n n' := by
  by_cases typed : types.any n.hasType = true
  · have typed' : types.any n'.hasType = true := same.hasType_eq ▸ typed
    exact skip.at_node (fun _ => checkTypes_of_typed typed) fun _ => checkTypes_of_typed typed'
  · have typed' : types.any n'.hasType ≠ true := same.hasType_eq ▸ typed
    refine (reject options (.invalidType n.kindText)).at_node
      (fun _ => checkTypes_of_plain typed Bool.false_ne_true) fun _ => ?_
    rw [checkTypes_of_plain typed' Bool.false_ne_true, same.kindText_eq]

theorem checkConstraint {c c' : Constraint} (judged : c.JudgedAlike c') (same : n.Same n') :
    Mirrors (checkConstraint (.collecting options false) c)
      (Stage.checkConstraint (.collecting options false) c') n n' n n' := by
  have judged := judged n n' same
  match judges : c.judge n with
  | .error cause =>
    exact (interrupt (.failure cause) (.failure cause)).at_node
      (fun _ => checkConstraint_of_failure judges)
      fun _ => checkConstraint_of_failure (judged ▸ judges)
  | .ok none =>
    exact skip.at_node (fun _ => checkConstraint_of_none judges)
      fun _ => checkConstraint_of_none (judged ▸ judges)
  | .ok (some v) =>
    exact (reject options v).at_node (fun _ => checkConstraint_of_some judges)
      fun _ => checkConstraint_of_some (judged ▸ judges)

theorem checkConstraints (options : Options) {r r' : Constraint.Reading}
    (read : Constraint.ReadAlike r r') (same : n.Same n') :
    Mirrors (checkConstraints (.collecting options false) r)
      (Stage.checkConstraints (.collecting options false) r') n n' n n' := by
  cases read with
  | errors i j => exact interrupt i j
  | ok each =>
    exact map (.in_order (each.imp fun _ _ judged => checkConstraint judged same))

variable {s s' : Members} (h : Twins options s s') (same : n.Same n')

include h same

theorem checkType :
    Mirrors (checkType (.collecting options false) s)
      (Stage.checkType (.collecting options false) s') n n' n n' := by
  unfold Stage.checkType
  rw [h.has_eq, h.declaredTypes_eq]
  split
  · exact skip
  · split
    · exact checkTypes _ same
    · exact malformed ..

theorem checkString :
    Mirrors (checkString (.collecting options false) s)
      (Stage.checkString (.collecting options false) s') n n' n n' := by
  have matching := same.matching
  cases matching with
  | string =>
    exact (checkConstraints options (Constraint.readAlike_ofStrings h) same).at_node (fun _ => rfl)
      fun _ => rfl
  | _ => exact skip.at_node (fun _ => rfl) fun _ => rfl

theorem checkNumber :
    Mirrors (checkNumber (.collecting options false) s)
      (Stage.checkNumber (.collecting options false) s') n n' n n' := by
  have matching := same.matching
  cases matching with
  | number =>
    exact (checkConstraints options (Constraint.readAlike_ofNumbers h) same).at_node (fun _ => rfl)
      fun _ => rfl
  | _ => exact skip.at_node (fun _ => rfl) fun _ => rfl

end Stage.Mirrors

end TreeSchema
