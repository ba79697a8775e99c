import TreeSchema.Proofs.Legibility.Array
import TreeSchema.Proofs.Legibility.Combination
import TreeSchema.Proofs.Legibility.Object
import TreeSchema.Validator

/-!
No malformed keyword goes unnoticed. A run that collects all findings and comes to an
end has read every keyword that concerns its node, and so has every run that it
consults, at any depth; a run that ends in a fault comes from a keyword out of shape, in
a schema that some run was against, and the fault says where it stands. What a run
consults is known from the node and the schema alone.
-/

namespace TreeSchema

variable {options : Options} {s : Members} {d : Tree}

/-! ### One run -/

/-- All that a run consults comes to its end once the stages have seen it through. -/
theorem Consults.ended {n u t : Tree} {path : Pointer} (consults : Consults options s n u t path)
    (members : MembersEnded options s n) (items : ItemsEnded options s n)
    (branches : BranchesEnded options s n) : Ended options u t := by
  cases consults with
  | property found mem value => exact members.properties _ found _ mem u value
  | pattern found mem compiled finds value =>
    exact members.patterns _ found _ mem _ compiled _ finds u value
  | additional found undeclared unfound value =>
    have extra := mem_extraKeys_iff.2 ⟨Members.has_of_get? value, undeclared, unfound⟩
    exact members.additional _ found _ extra u value
  | dependency found mem present => exact members.dependencies _ found _ mem _ rfl present
  | items found value => exact items.items _ found _ u value
  | place found place value => exact items.places _ found _ u value t place
  | additionalItem found past beyond value =>
    exact items.additional _ found _ u value _ beyond past
  | branch combines found place =>
    rcases combines with rfl | rfl
    · exact branches.allOf _ found _ t place
    · exact branches.oneOf _ found _ t place
  | tried found place failed => exact branches.anyOf _ found _ t place failed
  | negated found => exact branches.negated t found

theorem Consults.subSchema {n u t : Tree} {path : Pointer}
    (consults : Consults options s n u t path) : SubSchema s t := by
  cases consults with
  | property found mem => exact .property found mem
  | pattern found mem => exact .pattern found mem
  | additional found => exact .additional found
  | dependency found mem => exact .dependency found mem
  | items found => exact .items found
  | place found place => exact .place found (List.mem_of_getElem? place)
  | additionalItem _ _ beyond => exact .additionalItem beyond
  | branch combines found place =>
    refine .branch ?_ found (List.mem_of_getElem? place)
    rcases combines with rfl | rfl <;> decide
  | tried found place => exact .branch (by decide) found (List.mem_of_getElem? place)
  | negated found => exact .negated found

/-- A run that comes to its end has read its keywords and seen through what it consults, and a
fault stems from one of these. -/
theorem attests_run (options : Options) (s : Members) (d : Tree) :
    Attests (Stems options s d)
      (s.Legible d.kind ∧ ∀ u t path, Consults options s (d.counted options s) u t path →
        Ended options u t)
      (run (.collecting options false) d (.object s)).told := by
  have enum : Stage.Attests (Stems options s d) (s.Fits ⟨"enum", Tree.isArray⟩)
      (Stage.checkConstraints (.collecting options false) (Constraint.ofEnum s)) d d :=
    Stage.attests_checkConstraints Constraint.attests_ofEnum
  have all : Stage.Attests (Stems options s d) _
      (Stage.sequence (stages run (.collecting options false) s)) d (d.counted options s) :=
    Stage.attests_checkType.cons <| enum.cons <| Stage.attests_checkObject.cons <|
      Stage.attests_checkArray.cons <| Stage.attests_checkString.cons <|
      Stage.attests_checkNumber.cons <| (Stage.attests_checkCombinations rfl).cons .nil
  obtain ⟨x, yields, attests⟩ := all
  have told := yields.told_eq
  rw [Stage.told, ← run_object] at told
  rw [told]
  refine attests.mono ?_
  rintro ⟨type, enum, ⟨object, members⟩, ⟨array, items⟩, string, number,
    ⟨combinations, branches⟩, -⟩
  refine ⟨?_, fun u t path consults => consults.ended members items branches⟩
  have ofKind : ∀ x ∈ s.shapesOfKind d.kind, s.Fits x := by
    cases kind : d.kind with
    | object => exact object kind
    | array => exact array kind
    | string => exact string kind
    | number => exact number kind
    | null | boolean => exact List.forall_mem_nil _
  simp only [Members.Legible, Members.shapes, List.forall_mem_append, List.forall_mem_cons,
    List.forall_mem_map]
  exact ⟨⟨⟨type, enum, List.forall_mem_nil _⟩, ofKind⟩, combinations⟩

/-! ### All runs inside -/

/-- The run on the first tree against the second reaches the run on the third against the fourth,
a schema that stands at the path. -/
inductive Reaches (options : Options) : Tree → Tree → Tree → Tree → Pointer → Prop where
  | here {d t : Tree} : Reaches options d t d t .here
  | inside {d u t v w : Tree} {s : Members} {path rest : Pointer}
      (consults : Consults options s (d.counted options s) u t path)
      (below : Reaches options u t v w rest) : Reaches options d (.object s) v w (path ++ rest)

/-- The schema cannot be read for nodes of the kind, and what the path leads to in it says why. -/
inductive Illegible (kind : Kind) : Tree → Pointer → Prop where
  | schema {t : Tree} (other : ∀ s, t ≠ .object s) : Illegible kind t .here
  | keyword {s : Members} {path : Pointer} (misshapen : s.Misshapen kind path) :
      Illegible kind (.object s) path

theorem Illegible.not_legible {kind : Kind} {s : Members} {path : Pointer}
    (illegible : Illegible kind (.object s) path) : ¬ s.Legible kind := by
  cases illegible with
  | schema other => exact absurd rfl (other s)
  | keyword misshapen => exact misshapen.not_legible

theorem Ended.eq_object {schema : Tree} (ended : Ended options d schema) :
    ∃ s, schema = .object s := by
  by_contra other
  have stops : (run (.collecting options false) d schema).interruption? =
      some (.fault ⟨.here, .schema⟩) := by
    rw [run_of_not_object (fun s same => other ⟨s, same⟩)]
    rfl
  exact nomatch stops.symm.trans ended

/-- What a run that comes to its end reaches is a schema with all its keywords in shape. -/
theorem Reaches.legible {schema u t : Tree} {path : Pointer}
    (reaches : Reaches options d schema u t path) (ended : Ended options d schema) :
    ∃ s, t = .object s ∧ Members.Legible s u.kind := by
  induction reaches with
  | @here d =>
    obtain ⟨s, rfl⟩ := ended.eq_object
    have read := attests_run options s d
    rw [Run.told_of_none ended] at read
    cases read with
    | ok holds => exact ⟨s, rfl, holds.1⟩
  | @inside d _ _ _ _ s _ _ consults _ ih =>
    have read := attests_run options s d
    rw [Run.told_of_none ended] at read
    cases read with
    | ok holds => exact ih (holds.2 _ _ _ consults)

/-- A fault comes from a schema that the run reaches, and its path leads there. -/
theorem exists_reaches_of_fault {schema : Tree} {f : Fault}
    (ends : (run (.collecting options false) d schema).interruption? = some (.fault f)) :
    ∃ u t path rest, Reaches options d schema u t path ∧ Illegible u.kind t rest ∧
      f.schemaPath = path ++ rest := by
  induction schema using schema_induction generalizing d f with
  | other t other =>
    rw [run_of_not_object other] at ends
    cases ends
    exact ⟨d, t, .here, .here, .here, .schema other, rfl⟩
  | object s ih =>
    have read := attests_run options s d
    rw [Run.told_of_some ends] at read
    cases read with
    | fault stems =>
      cases stems with
      | own misshapen =>
        exact ⟨d, .object s, .here, _, .here, .keyword misshapen, (Pointer.here_append _).symm⟩
      | part consults stops =>
        obtain ⟨v, w, below, rest, reaches, illegible, eq⟩ := ih _ consults.subSchema stops
        refine ⟨v, w, _, rest, .inside consults reaches, illegible, ?_⟩
        rw [Pointer.append_assoc, ← eq]
        rfl

/-! ### Outcomes and faults -/

/-- If the data has an outcome, the run against the schema and all runs that it reaches are against
schemas whose keywords for their nodes are in shape. If there is a fault, one of them is against a
schema where one is not, and the path of the fault leads to it. -/
theorem validate_reads_every_keyword (schema data : Tree) (options : Options) :
    (∀ o, Validator.validate ⟨schema, options, none⟩ data .collectAll = .ok o →
      ∀ u t path, Reaches options data schema u t path →
        ∃ s, t = .object s ∧ Members.Legible s u.kind) ∧
    ∀ f, Validator.validate ⟨schema, options, none⟩ data .collectAll = .error (.fault f) →
      ∃ u t path rest, Reaches options data schema u t path ∧
        (¬ ∃ s, t = .object s ∧ Members.Legible s u.kind) ∧ Illegible u.kind t rest ∧
        f.schemaPath = path ++ rest := by
  refine ⟨fun o validated u t path reaches => ?_, fun f faults => ?_⟩
  · exact reaches.legible (Validator.outcome_eq_ok_iff.1 validated).1
  · obtain ⟨u, t, path, rest, reaches, illegible, eq⟩ :=
      exists_reaches_of_fault (Validator.outcome_eq_error_iff.1 faults)
    refine ⟨u, t, path, rest, reaches, ?_, illegible, eq⟩
    rintro ⟨s, rfl, legible⟩
    exact illegible.not_legible legible

/-- A key is required, and something depends on another. -/
def demanding (dependency : Tree) : Tree :=
  .object [("required", .array [.string "b"]),
    ("properties", .object [("a", .object [("items", .object [("minimum", .number (.int 0))])])]),
    ("dependencies", .object [("c", dependency)])]

def demandedData : Tree :=
  .object [("a", .array [.number (.int 1)])]

/-- Neither the missing key nor the absent one keeps the dependency from being read. -/
theorem validate_reads_every_keyword_demanding :
    Members.Legible [("minimum", .number (.int 0))] .number ∧
    ∃ f u t path rest,
      Validator.validate ⟨demanding (.bool true), .default, none⟩ demandedData .collectAll =
        .error (.fault f) ∧
      f.schemaPath.text = "/dependencies/c" ∧
      Reaches .default demandedData (demanding (.bool true)) u t path ∧
      Illegible u.kind t rest ∧ f.schemaPath = path ++ rest := by
  have item : (Tree.array [.number (.int 1)]).items[0]? = some (.number (.int 1)) := rfl
  have below : Reaches .default demandedData (demanding (.string "a")) (.number (.int 1))
      (.object [("minimum", .number (.int 0))]) _ :=
    .inside (.property rfl List.mem_cons_self rfl) (.inside (.items rfl item) .here)
  obtain ⟨s, same, legible⟩ :=
    (validate_reads_every_keyword (demanding (.string "a")) demandedData .default).1 _ rfl _ _ _
      below
  cases same
  obtain ⟨u, t, path, rest, reaches, -, illegible, eq⟩ :=
    (validate_reads_every_keyword (demanding (.bool true)) demandedData .default).2 _ rfl
  exact ⟨legible, _, u, t, path, rest, rfl, rfl, reaches, illegible, eq⟩

end TreeSchema
