import TreeSchema.Proofs.Mirroring.Array
import TreeSchema.Proofs.Mirroring.Combination
import TreeSchema.Validator

/-!
Verdicts do not depend on spelling. Checks of equal data against a schema and against
the same schema with the keys of its objects in another order come to the same end:
both find the schema malformed, or both tell the same findings in some order. Numbers
that are equal may be an integer and a double, so the schema has no divisors; and a
run that fails is compared with no other.
-/

namespace TreeSchema

theorem told_run (v : Validator) (coercing : Bool) (data : Tree) (mode : Mode) :
    (run (v.config mode coercing) data v.schema).told =
      (v.outcome coercing data mode).map (·.findings) := by
  cases stops : (run (v.config mode coercing) data v.schema).interruption? with
  | some i => rw [Run.told_of_some stops, Validator.outcome_eq_error_iff.2 stops, Except.map]
  | none => rw [Run.told_of_none stops, Validator.outcome_eq_ok_iff.2 ⟨stops, rfl⟩, Except.map]

theorem Stage.Mirrors.stages {options : Options} {s s' : Members} (h : Twins options s s')
    {n n' : Tree} (same : n.Same n') :
    Mirrors (sequence (stages run (.collecting options false) s))
      (sequence (TreeSchema.stages run (.collecting options false) s')) n n' (n.counted options s)
      (n'.counted options s') := by
  have counted := h.same_counted same
  have choices := checkConstraints options (Constraint.readAlike_ofEnum h) same
  exact (checkType h same).cons <| choices.cons <| (checkObject h same).cons <|
    (checkArray h counted).cons <| (checkString h counted).cons <| (checkNumber h counted).cons <|
    (checkCombinations h counted).cons nil

/-- Runs of equal data against a schema and against a reordered one agree. -/
theorem run_alike (options : Options) {schema schema' : Tree} (wellFormed : schema.WellFormed)
    (undivided : Everywhere (·.get? "multipleOf" = none) schema)
    (reordered : schema.Reordered schema') : Alike options schema schema' := by
  induction schema using schema_induction generalizing schema' with
  | object s parts =>
    cases reordered with
    | object members =>
      have twins : Twins options s _ :=
        { wellFormed, reordered := .object members, undivided := undivided.here
          parts := fun t t' sub reordered =>
            parts t sub (sub.wellFormed wellFormed) (undivided.inside sub) reordered }
      intro n n' same
      rw [run_object, run_object]
      exact (Stage.Mirrors.stages twins same).told_agrees
  | other t other =>
    have other' (s' : Members) : schema' ≠ .object s' := by
      rintro rfl
      cases reordered with
      | object => exact other _ rfl
    -- What is no object is a fault as a schema, and so is what it is reordered to.
    intro n n' _
    rw [run_of_not_object other, run_of_not_object other']
    exact .faults _ _

/-- Checking does not depend on how equal data is spelled, nor on the order of keys in the data
and in the schema. -/
theorem validate_respelled {schema schema' data data' : Tree} {options : Options}
    (wellFormed : schema.WellFormed)
    (undivided : Everywhere (·.get? "multipleOf" = none) schema)
    (reordered : schema.Reordered schema') (formed : data.WellFormed) (formed' : data'.WellFormed)
    (same : data.equal data' = true)
    (ends : ∀ cause, Validator.validate ⟨schema, options, none⟩ data .collectAll ≠
      .error (.failure cause))
    (ends' : ∀ cause, Validator.validate ⟨schema', options, none⟩ data' .collectAll ≠
      .error (.failure cause)) :
    (∃ f f', Validator.validate ⟨schema, options, none⟩ data .collectAll = .error (.fault f) ∧
      Validator.validate ⟨schema', options, none⟩ data' .collectAll = .error (.fault f')) ∨
    ∃ o o', Validator.validate ⟨schema, options, none⟩ data .collectAll = .ok o ∧
      Validator.validate ⟨schema', options, none⟩ data' .collectAll = .ok o' ∧
      o.isValid = o'.isValid ∧ Rearranges Finding.Rearranged o.findings o'.findings := by
  have told : TellAlike
      ((Validator.validate ⟨schema, options, none⟩ data .collectAll).map (·.findings))
      ((Validator.validate ⟨schema', options, none⟩ data' .collectAll).map (·.findings)) := by
    rw [Validator.validate, Validator.validate, ← told_run, ← told_run]
    exact run_alike options wellFormed undivided reordered data data'
      (.of_equal formed formed' same)
  obtain faults | ⟨o, o', ended, ended', related⟩ := told.of_map.ended ends ends'
  · exact .inl faults
  · refine .inr ⟨o, o', ended, ended', ?_, related⟩
    rw [Bool.eq_iff_iff, o.isValid_iff, o'.isValid_iff]
    exact related.eq_nil_iff

/-- A label, and a choice of numbers that are large or of points. -/
def pointSchema : Tree :=
  .object [("properties", .object [("label", .object [("type", .string "string")]),
      ("at", .object [("anyOf", .array [.object [("minimum", .number (.int 5))],
        .object [("enum", .array [.object [("x", .number (.int 1)), ("y", .null)]])]])])]),
    ("required", .array [.string "name"])]

def pointSchemaReordered : Tree :=
  .object [("required", .array [.string "name"]),
    ("properties", .object [("at", .object [("anyOf", .array [
        .object [("minimum", .number (.int 5))],
        .object [("enum", .array [.object [("y", .null), ("x", .number (.int 1))]])]])]),
      ("label", .object [("type", .string "string")])])]

def point : Tree :=
  .object [("label", .number (.int 2)), ("at", .number (.int 3))]

def pointRespelled : Tree :=
  .object [("at", .number (.double (.ofInt 3))), ("label", .number (.double (.ofInt 2)))]

def missingName : Finding :=
  ⟨.objectRequired, ⟨""⟩, ⟨"/required/0"⟩, "Missing required property: name", []⟩

def wrongLabel : Finding :=
  ⟨.invalidType, ⟨"/label"⟩, ⟨"/properties/label/type"⟩, "Invalid type: integer", []⟩

def noPoint : Finding :=
  ⟨.anyOfMissing, ⟨"/at"⟩, ⟨"/properties/at/anyOf"⟩,
    "Value must satisfy at least one of the options",
    [[⟨.numberMinimum, ⟨"/at"⟩, ⟨"/properties/at/anyOf/0/minimum"⟩, "Number must be >= 5", []⟩],
      [⟨.enumMismatch, ⟨"/at"⟩, ⟨"/properties/at/anyOf/1/enum"⟩,
        "Value must be one of the enum options", []⟩]]⟩

theorem validate_respelled_point :
    Validator.validate ⟨pointSchema, .default, none⟩ point .collectAll =
        .ok ⟨.collectAll, [missingName, wrongLabel, noPoint], point, false⟩ ∧
      Validator.validate ⟨pointSchemaReordered, .default, none⟩ pointRespelled .collectAll =
        .ok ⟨.collectAll, [missingName, noPoint, wrongLabel], pointRespelled, false⟩ ∧
      Rearranges Finding.Rearranged [missingName, wrongLabel, noPoint]
        [missingName, noPoint, wrongLabel] := by
  have ended : Validator.validate ⟨pointSchema, .default, none⟩ point .collectAll =
      .ok ⟨.collectAll, [missingName, wrongLabel, noPoint], point, false⟩ := rfl
  have ended' : Validator.validate ⟨pointSchemaReordered, .default, none⟩ pointRespelled
      .collectAll =
        .ok ⟨.collectAll, [missingName, noPoint, wrongLabel], pointRespelled, false⟩ := rfl
  have wellFormed : pointSchema.WellFormed := by
    simp [pointSchema, Tree.WellFormed, Tree.WellFormedItems, Tree.WellFormedMembers, Members.keys]
  have formed : point.WellFormed ∧ pointRespelled.WellFormed := by
    simp [point, pointRespelled, Tree.WellFormed, Tree.WellFormedMembers, Members.keys]
  have undivided : Everywhere (·.get? "multipleOf" = none) pointSchema := by
    have choice : Everywhere (·.get? "multipleOf" = none) (.object [("anyOf", .array [
        .object [("minimum", .number (.int 5))],
        .object [("enum", .array [.object [("x", .number (.int 1)), ("y", .null)]])]])]) :=
      Everywhere.object_iff.2 ⟨rfl, List.forall_mem_cons.2
        ⟨.leaf rfl rfl, List.forall_mem_singleton.2 (.leaf rfl rfl)⟩⟩
    exact Everywhere.object_iff.2 ⟨rfl, List.forall_mem_cons.2
      ⟨.leaf rfl rfl, List.forall_mem_singleton.2 choice⟩⟩
  have reordered : pointSchema.Reordered pointSchemaReordered := by
    have swapped {x x' y y' : String × Tree} (first : Member.Matches Tree.Reordered x y')
        (second : Member.Matches Tree.Reordered x' y) :
        Tree.Reordered (.object [x, x']) (.object [y, y']) :=
      .object ⟨.cons first (.cons second .nil), .swap ..⟩
    have alone {x y : String × Tree} (only : Member.Matches Tree.Reordered x y) :
        Tree.Reordered (.object [x]) (.object [y]) :=
      .object (.singleton only)
    refine swapped (.intro (swapped (.intro (.refl _)) (.intro ?_))) (.intro (.refl _))
    refine alone (.intro (.array (.cons (.refl _) (.cons ?_ .nil))))
    exact alone (.intro (.array (.cons (swapped (.intro (.refl _)) (.intro (.refl _))) .nil)))
  obtain ⟨f, f', fault, -⟩ | ⟨o, o', found, found', -, related⟩ :=
    validate_respelled wellFormed undivided reordered formed.1 formed.2 rfl
      (fun cause fails => by cases ended.symm.trans fails)
      (fun cause fails => by cases ended'.symm.trans fails)
  · cases ended.symm.trans fault
  · cases ended.symm.trans found
    cases ended'.symm.trans found'
    exact ⟨ended, ended', related⟩

end TreeSchema
