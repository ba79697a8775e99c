import TreeSchema.Proofs.Judging.Array
import TreeSchema.Proofs.Judging.Combination
import TreeSchema.Proofs.Judging.Object
import TreeSchema.Validator

/-!
Checking agrees with what schemas mean: when a run that collects all findings
comes to an end, it has found nothing exactly when the data satisfies the
schema.
-/

namespace TreeSchema

namespace Stage

variable {options : Options} {v : Visit} {sat : Tree → Tree → Prop} {s : Members}

theorem judges_objects (parts : ∀ t, SubSchema s t → Decides options v sat t) (d : Tree) :
    Judges (checkObject v (.collecting options false) s) d (d.counted options s)
      (∀ members, d = .object members →
        ConformsObject sat s (countedMembers options s members) ∧
          ∀ c, Constraint.Declared s c → c.Holds (.object (countedMembers options s members))) := by
  cases d with
  | object members => exact (judges_checkObject parts).iff (by simp)
  | _ => exact (Judges.skip.iff (by simp)).at_node fun _ => rfl

theorem judges_arrays (parts : ∀ t, SubSchema s t → Decides options v sat t) (d : Tree) :
    Judges (checkArray v (.collecting options false) s) d d
      (∀ items, d = .array items →
        ConformsArray sat s items ∧ ∀ c, Constraint.Declared s c → c.Holds (.array items)) := by
  cases d with
  | array items => exact (judges_checkArray parts).iff (by simp)
  | _ => exact (Judges.skip.iff (by simp)).at_node fun _ => rfl

theorem judges_checkString (options : Options) (s : Members) (d : Tree) :
    Judges (checkString (.collecting options false) s) d d
      (∀ text, d = .string text → ∀ c, Constraint.Declared s c → c.Holds (.string text)) := by
  cases d with
  | string text =>
    have judged : Judges (checkConstraints (.collecting options false) (Constraint.ofStrings s))
        (.string text) (.string text) (∀ c, Constraint.Declared s c → c.Holds (.string text)) :=
      judges_checkConstraints fun cs read => Constraint.ofStrings_holds_iff read text
    exact (judged.iff (by simp)).at_node fun _ => rfl
  | _ => exact (Judges.skip.iff (by simp)).at_node fun _ => rfl

theorem judges_checkNumber (options : Options) (s : Members) (d : Tree) :
    Judges (checkNumber (.collecting options false) s) d d
      (∀ n, d = .number n → ∀ c, Constraint.Declared s c → c.Holds (.number n)) := by
  cases d with
  | number n =>
    have judged : Judges (checkConstraints (.collecting options false) (Constraint.ofNumbers s))
        (.number n) (.number n) (∀ c, Constraint.Declared s c → c.Holds (.number n)) :=
      judges_checkConstraints fun cs read => Constraint.ofNumbers_holds_iff read n
    exact (judged.iff (by simp)).at_node fun _ => rfl
  | _ => exact (Judges.skip.iff (by simp)).at_node fun _ => rfl

/-- A run against a schema finds nothing exactly when all of its keywords hold. -/
theorem judges_stages (parts : ∀ t, SubSchema s t → Decides options v sat t) (d : Tree) :
    Judges (sequence (stages v (.collecting options false) s)) d (d.counted options s)
      (Conforms options sat s d) := by
  have choices : Judges (checkConstraints (.collecting options false) (Constraint.ofEnum s)) d d
      (∀ choices, s.get? "enum" = some (.array choices) →
        ∃ choice ∈ choices, d.equal choice = true) :=
    judges_checkConstraints fun cs read => Constraint.ofEnum_holds_iff read d
  have all := (judges_checkType options s).cons <| choices.cons <| (judges_objects parts d).cons <|
    (judges_arrays parts (d.counted options s)).cons <|
    (judges_checkString options s (d.counted options s)).cons <|
    (judges_checkNumber options s (d.counted options s)).cons <|
    (judges_checkCombinations parts).cons .nil
  refine all.iff ⟨?_, fun h => ?_⟩
  · rintro ⟨type, enum, object, array, text, number, branches, -⟩
    refine ⟨type, enum, fun members eq => (object members eq).1, fun items eq => ?_, ?_, branches⟩
    · subst eq
      exact (array items rfl).1
    · intro c declared
      cases d with
      | object members => exact (object members rfl).2 c declared
      | array items => exact (array items rfl).2 c declared
      | string s => exact text s rfl c declared
      | number n => exact number n rfl c declared
      -- No constraint is about the other kinds.
      | null | bool b => cases declared <;> trivial
  · refine ⟨h.type, h.enum, fun members eq => ⟨h.object members eq, ?_⟩, fun items eq => ⟨?_, ?_⟩,
      fun text eq => ?_, fun n eq => ?_, h.branches, trivial⟩
    · subst eq
      exact h.constraints
    · cases d <;> cases eq
      exact h.array items rfl
    all_goals exact eq ▸ h.constraints

end Stage

/-- A run that comes to an end finds nothing exactly in the data that satisfies the schema. -/
theorem run_decides (options : Options) (schema : Tree) :
    Stage.Decides options run (Satisfies options) schema := by
  induction schema using schema_induction with
  | object s parts =>
    intro d ends
    rw [run_object] at ends ⊢
    obtain ⟨found, comes, judged⟩ := Stage.judges_stages parts d [] ends
    rw [comes, satisfies_object_iff]
    exact judged
  | other t other =>
    intro d ends
    rw [run_of_not_object other] at ends
    cases ends

/-- An outcome of checking is valid exactly when the data satisfies the schema. -/
theorem validate_isValid_iff_satisfies {schema : Tree} {options : Options} {data : Tree}
    {o : Outcome}
    (ended : Validator.validate ⟨schema, options, none⟩ data .collectAll = .ok o) :
    o.isValid = true ↔ Satisfies options schema data := by
  obtain ⟨ends, rfl⟩ := Validator.outcome_eq_ok_iff.1 ended
  exact (Outcome.isValid_iff _).trans (run_decides options schema data ends)

/-- Objects with a member that is a text or a positive number, where nulls do not count. -/
def entrySchema : Tree :=
  .object [("ignoreNullProperties", .bool true), ("required", .array [.string "a"]),
    ("properties", .object [("a", .object [("anyOf", .array [.object [("type", .string "string")],
      .object [("type", .string "number"), ("minimum", .number (.int 1))]])])])]

theorem entrySchema_satisfies :
    Satisfies ⟨false, false, true⟩ entrySchema
        (.object [("a", .number (.int 2)), ("b", .null)]) ∧
      ¬ Satisfies ⟨false, false, true⟩ entrySchema (.object [("a", .null)]) := by
  constructor
  · exact (validate_isValid_iff_satisfies rfl).1 rfl
  · exact fun satisfies => nomatch (validate_isValid_iff_satisfies rfl).2 satisfies

end TreeSchema
