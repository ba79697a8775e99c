import TreeSchema.Proofs.Settling.Array
import TreeSchema.Proofs.Settling.Object
import TreeSchema.Validator

/-!
Coercing is sound and idempotent for schemas that look at each part of the data
once: what comes out of a valid coercion is valid as it stands, and coercing it
again changes nothing.
-/

namespace TreeSchema

namespace Stage

variable {options : Options} {s : Members} {node after : Tree}

/-- What the object and the array stages leave, they pass as it is. -/
theorem settled_parts (single : s.SinglePass) (countsAll : options.ignoreNullProperties = false)
    (wellFormed : (Tree.object s).WellFormed) (parts : ∀ t, SubSchema s t → Settles options t)
    {mid : Tree} (object : Passes (checkObject run (.collecting options true) s) node mid)
    (array : Passes (checkArray run (.collecting options true) s) mid after) :
    Tree.Reworked node after ∧ ∀ coercing,
      Passes (checkObject run (.collecting options coercing) s) after after ∧
        Passes (checkArray run (.collecting options coercing) s) after after := by
  cases node with
  | object members =>
    have nodup (entries : Members) (found : s.get? "properties" = some (.object entries)) :
        (Members.keys entries).Nodup :=
      (Members.wellFormed_of_get? wellFormed found).1
    obtain ⟨members', rfl, again⟩ := settled_checkObject single countsAll parts nodup object
    have same : after = .object members' := passes_skip.1 array
    subst same
    exact ⟨.object .., fun coercing => ⟨again coercing, rfl⟩⟩
  | array items =>
    have same : mid = .array items := passes_skip.1 object
    subst same
    obtain ⟨items', rfl, again⟩ := settled_checkArray parts array
    exact ⟨.array .., fun coercing => ⟨rfl, again coercing⟩⟩
  | _ =>
    have same := passes_skip.1 object
    subst same
    have same := passes_skip.1 array
    subst same
    exact ⟨.same _, fun _ => ⟨rfl, rfl⟩⟩

/-- What the stages of a schema leave, they pass as it is. -/
theorem settled_stages (single : s.SinglePass) (countsAll : options.ignoreNullProperties = false)
    (wellFormed : (Tree.object s).WellFormed) (parts : ∀ t, SubSchema s t → Settles options t)
    (passes : Passes (sequence (stages run (.collecting options true) s)) node after)
    (coercing : Bool) :
    Passes (sequence (stages run (.collecting options coercing) s)) after after := by
  have uncombined : ∀ name ∈ "not" :: branchKeywords, s.get? name = none := fun name mem =>
    single.absent name (by revert name; decide)
  obtain ⟨n₁, type, n₂, choices, n₃, object, n₄, array, n₅, text, n₆, number, n₇, combined, rfl⟩ :=
    passes_stages_iff.1 passes
  obtain ⟨-, same⟩ := passes_checkConstraints_iff.1 choices
  obtain ⟨texts, sameText⟩ := passes_checkString_iff.1 text
  obtain ⟨numbers, sameNumber⟩ := passes_checkNumber_iff.1 number
  have sameCombined := (passes_checkCombinations_iff uncombined).1 combined
  -- The type may convert the node and the parts are rewritten; all other stages leave it.
  subst same sameText sameNumber sameCombined
  obtain ⟨reworked, again⟩ := settled_parts single countsAll wellFormed parts object array
  refine passes_sequence_same ?_
  simp only [stages, List.forall_mem_cons]
  exact ⟨settled_checkType type reworked coercing, settled_choices single choices reworked coercing,
    (again coercing).1, (again coercing).2, passes_checkString_iff.2 ⟨texts, rfl⟩,
    passes_checkNumber_iff.2 ⟨numbers, rfl⟩, (passes_checkCombinations_iff uncombined).2 rfl,
    List.forall_mem_nil _⟩

end Stage

/-- A coercing run that passes leaves what is settled. -/
theorem run_settles {options : Options} {schema : Tree}
    (countsAll : options.ignoreNullProperties = false) (wellFormed : schema.WellFormed)
    (single : Everywhere Members.SinglePass schema) : Settles options schema := by
  induction schema using schema_induction with
  | object s parts =>
    intro d passed coercing
    have keeps := (Stage.Keeps.closed (Config.collecting_remembers options true)).stages run s
    rw [run_object] at passed
    have settled := Stage.settled_stages single.here countsAll wellFormed
      (fun t sub => parts t sub (sub.wellFormed wellFormed) (single.inside sub))
      (keeps.passes_iff.1 passed) coercing
    rw [run_object, run_object, settled]
    exact ⟨rfl, rfl⟩
  | other t other =>
    intro d passed
    rw [run_of_not_object other] at passed
    cases passed

/-- The value of a valid coercion is valid as it stands, and coercing it gives the same value. -/
theorem coerce_idempotent {schema : Tree} {options : Options} {data : Tree} {o : Outcome}
    {value : Tree} (countsAll : options.ignoreNullProperties = false)
    (wellFormed : schema.WellFormed) (single : Everywhere Members.SinglePass schema)
    (coerced : Validator.coerce ⟨schema, options, none⟩ data .collectAll = .ok o)
    (valid : o.value? = some value) :
    (∃ checked, Validator.validate ⟨schema, options, none⟩ value .collectAll = .ok checked ∧
      checked.isValid = true) ∧
    ∃ again, Validator.coerce ⟨schema, options, none⟩ value .collectAll = .ok again ∧
      again.isValid = true ∧ again.value? = some value := by
  obtain ⟨ends, rfl⟩ := Validator.outcome_eq_ok_iff.1 coerced
  obtain ⟨-, clean, rfl⟩ := Outcome.value?_eq_some_iff.1 valid
  have passed := (Run.passes_iff _).2 ⟨ends, clean⟩
  have settled := run_settles countsAll wellFormed single data passed
  obtain ⟨plain, -⟩ := settled false
  obtain ⟨coercing, same⟩ := settled true
  obtain ⟨plainEnds, plainClean⟩ := (Run.passes_iff _).1 plain
  obtain ⟨againEnds, againClean⟩ := (Run.passes_iff _).1 coercing
  refine ⟨⟨_, Validator.outcome_eq_ok_iff.2 ⟨plainEnds, rfl⟩, (Outcome.isValid_iff _).2 plainClean⟩,
    _, Validator.outcome_eq_ok_iff.2 ⟨againEnds, rfl⟩, (Outcome.isValid_iff _).2 againClean, ?_⟩
  exact Outcome.value?_eq_some_iff.2 ⟨rfl, againClean, same⟩

/-- Lists of whole numbers. -/
def tagsSchema : Tree :=
  .object [("type", .string "array"), ("items", .object [("type", .string "integer")])]

/-- Records with a whole number and a list of such, and nothing else. -/
def recordSchema : Tree :=
  .object [("type", .string "object"), ("required", .array [.string "n"]),
    ("properties", .object [("n", .object [("type", .string "integer")]), ("tags", tagsSchema)]),
    ("additionalProperties", .bool false)]

def record : Tree :=
  .object [("tags", .array [.number (.int 2)]), ("n", .number (.int 0))]

/-- A text is converted, a member removed and another one filled in; then nothing is left to do. -/
theorem coerce_idempotent_record :
    ∃ o checked again,
      Validator.coerce ⟨recordSchema, .default, none⟩
        (.object [("x", .null), ("tags", .array [.string "2"])]) .collectAll = .ok o ∧
      o.value? = some record ∧
      Validator.validate ⟨recordSchema, .default, none⟩ record .collectAll = .ok checked ∧
      checked.isValid = true ∧
      Validator.coerce ⟨recordSchema, .default, none⟩ record .collectAll = .ok again ∧
      again.isValid = true ∧ again.value? = some record := by
  have leaf : Everywhere Members.SinglePass (.object [("type", .string "integer")]) :=
    Everywhere.object_iff.2 ⟨⟨by decide, nofun, nofun⟩, nofun⟩
  have tags : Everywhere Members.SinglePass tagsSchema :=
    Everywhere.object_iff.2 ⟨⟨by decide, nofun, nofun⟩, List.forall_mem_singleton.2 leaf⟩
  have single : Everywhere Members.SinglePass recordSchema := by
    refine Everywhere.object_iff.2 ⟨⟨by decide, nofun, ?_⟩,
      List.forall_mem_cons.2 ⟨leaf, List.forall_mem_singleton.2 tags⟩⟩
    rintro _ ⟨⟩ key mem
    cases List.mem_singleton.1 mem
    exact ⟨_, rfl, rfl⟩
  have wellFormed : recordSchema.WellFormed := by
    simp [recordSchema, tagsSchema, Tree.WellFormed, Tree.WellFormedItems, Tree.WellFormedMembers,
      Members.keys]
  have coerced : Validator.coerce ⟨recordSchema, .default, none⟩
      (.object [("x", .null), ("tags", .array [.string "2"])]) .collectAll =
        .ok ⟨.collectAll, [], record, true⟩ := rfl
  have filled : (⟨.collectAll, [], record, true⟩ : Outcome).value? = some record := rfl
  obtain ⟨⟨checked, plain, valid⟩, again, coercing, same⟩ :=
    coerce_idempotent rfl wellFormed single coerced filled
  exact ⟨_, checked, again, coerced, filled, plain, valid, coercing, same⟩

end TreeSchema
