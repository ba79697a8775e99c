import TreeSchema.Proofs.Location

/-!
The shape of findings on alternatives. A finding that no branch passes carries a
group for each branch, and no other finding carries any. That a group holds a
finding is due to the run of the branch, which came to an end and did not pass;
that it holds no more than the cap allows is due to the mode in which all runs
add findings. A group is made where the branches are combined, and goes up through
the parts together with the finding that carries it, so both are seen from one
place all along.
-/

namespace TreeSchema

/-! ### Bounds on findings -/

/-- Adding to findings within the bound keeps them within it. -/
def Config.Limits (config : Config) (bound : Nat) : Prop :=
  ∀ held f, held.length ≤ bound → (config.mode.add config.cap held f).1.length ≤ bound

theorem Config.limits_failFast {config : Config} (stops : config.mode = .failFast) :
    config.Limits 1 := by
  intro held f within
  simp only [stops, Mode.add]
  split
  · exact Nat.le_refl 1
  · exact within

theorem Config.limits_cap {config : Config} {k : Nat} (capped : config.cap = some k)
    (pos : 0 < k) : config.Limits k := by
  intro held f within
  cases stops : config.mode with
  | failFast =>
    simp only [Mode.add]
    split
    · exact pos
    · exact within
  | collectAll =>
    simp only [capped, Mode.add]
    split
    · next room => simpa using Nat.succ_le_of_lt room
    · exact within

namespace Stage

def Bounds (bound : Nat) (stage : Stage) : Prop :=
  ∀ p, p.findings.length ≤ bound → (stage p).findings.length ≤ bound

theorem Bounds.closed {config : Config} {bound : Nat} (limits : config.Limits bound) :
    Closed config (Bounds bound) where
  skip _ := id
  interrupt _ _ := id
  replace _ _ := id
  report f p := limits p.findings f
  cons {s xs} first rest p within := by
    cases stopped : (s p).stop with
    | none =>
      rw [sequence_cons_of_none stopped]
      exact rest _ (first p within)
    | some stop =>
      rw [sequence_cons_of_some stopped]
      exact first p within
  byNode h p within := by
    obtain ⟨s', bounds, same⟩ := h p.node
    rw [same p.findings]
    exact bounds p within

end Stage

theorem Config.Limits.run {config : Config} {bound : Nat} (limits : config.Limits bound)
    (d schema : Tree) : (run config d schema).findings.length ≤ bound := by
  by_cases object : ∃ s, schema = .object s
  · obtain ⟨s, rfl⟩ := object
    rw [run_object]
    exact (Stage.Bounds.closed limits).stages TreeSchema.run s ⟨d, []⟩ (Nat.zero_le _)
  · rw [run_of_not_object fun s same => object ⟨s, same⟩]
    exact Nat.zero_le _

/-! ### Groups -/

/-- The finding is one on alternatives none of which is satisfied. -/
def Finding.OnAlternatives (f : Finding) : Prop :=
  f.code = .anyOfMissing ∨ f.code = .oneOfMissing

/-- The group is one of what the branch at the index finds, for a finding on the branches. -/
structure Finding.Branch (config : Config) (f : Finding) (index : Nat) (group : List Finding) :
    Prop where
  nonempty : group ≠ []
  limited : ∀ bound, config.Limits bound → group.length ≤ bound
  data : ∀ g ∈ group, ∃ xs, g.dataPath = f.dataPath ++ .ofSegments xs
  schema : ∀ g ∈ group, ∃ y ys,
    g.schemaPath = f.schemaPath ++ .ofSegments (.index index :: y :: ys)

/-- The finding has the groups that it should: one for each of the alternatives it is about, or
none at all. -/
structure Finding.Grouped (config : Config) (schema : Tree) (f : Finding) : Prop where
  alternatives : f.OnAlternatives → ∃ path schemas, f.schemaPath = .ofSegments path ∧
    Leads schema path (.array schemas) ∧ f.groups.length = schemas.length
  branches : ∀ (index : Nat) group, f.groups[index]? = some group → f.Branch config index group
  others : ¬ f.OnAlternatives → f.groups = []

namespace Finding

variable {config : Config} {schema t : Tree} {f : Finding}

theorem onAlternatives_under (data path : Pointer) :
    (f.under data path).OnAlternatives ↔ f.OnAlternatives := by
  rw [OnAlternatives, code_under, OnAlternatives]

theorem Branch.under {index : Nat} {group : List Finding} (h : f.Branch config index group)
    (data path : Pointer) :
    (f.under data path).Branch config index (group.map (Finding.under data path)) where
  nonempty := by simpa using h.nonempty
  limited bound limits := by
    rw [List.length_map]
    exact h.limited bound limits
  data := by
    intro _ mem
    obtain ⟨g, among, rfl⟩ := List.mem_map.1 mem
    obtain ⟨xs, eq⟩ := h.data g among
    exact ⟨xs, by rw [dataPath_under, dataPath_under, eq, Pointer.append_assoc]⟩
  schema := by
    intro _ mem
    obtain ⟨g, among, rfl⟩ := List.mem_map.1 mem
    obtain ⟨y, ys, eq⟩ := h.schema g among
    exact ⟨y, ys, by rw [schemaPath_under, schemaPath_under, eq, Pointer.append_assoc]⟩

theorem Grouped.under (h : f.Grouped config t) (data : Pointer) {ys : List Segment}
    (leads : Leads schema ys t) : (f.under data (.ofSegments ys)).Grouped config schema where
  alternatives on := by
    obtain ⟨path, schemas, eq, inside, length⟩ :=
      h.alternatives ((onAlternatives_under ..).1 on)
    refine ⟨ys ++ path, schemas, ?_, leads.append inside, ?_⟩
    · rw [schemaPath_under, eq, Pointer.ofSegments_append]
    · rw [groups_under, List.length_map, length]
  branches index group found := by
    rw [groups_under, List.getElem?_map, Option.map_eq_some_iff] at found
    obtain ⟨group, found, rfl⟩ := found
    exact (h.branches index group found).under ..
  others on := by
    rw [groups_under, h.others fun on' => on ((onAlternatives_under ..).2 on')]
    rfl

end Finding

/-- Where every branch rejects the node, the groups are those of a finding on the branches. -/
theorem grouped_of_rejects {config : Config} {s : Members} {n : Tree} {keyword text : String}
    {schemas : List Tree} {code : Code} (found : s.get? keyword = some (.array schemas))
    (on : code = .anyOfMissing ∨ code = .oneOfMissing)
    (rejects : ∀ t ∈ schemas, (run config n t).Rejects) :
    Finding.Grouped config (.object s)
      ⟨code, .here, .key keyword, text, groupsOf config n keyword schemas⟩ where
  alternatives _ := ⟨[.key keyword], schemas, rfl, .keyword found, List.length_mapIdx⟩
  branches index group place := by
    rw [groupsOf, List.getElem?_mapIdx, Option.map_eq_some_iff] at place
    obtain ⟨t, place, rfl⟩ := place
    obtain ⟨ends, fails⟩ := rejects t (List.mem_of_getElem? place)
    -- A branch that ends and does not pass has found something: no group is empty.
    have finds : (run config n t).findings ≠ [] := fun clean =>
      Bool.false_ne_true (fails.symm.trans ((Run.passes_iff _).2 ⟨ends, clean⟩))
    refine ⟨by simpa [Stage.groupOf] using finds, fun bound limits => ?_, fun _ mem => ?_,
      fun _ mem => ?_⟩
    · rw [Stage.groupOf, List.length_map]
      exact limits.run n t
    · obtain ⟨f, finds, rfl⟩ := List.mem_map.1 mem
      obtain ⟨xs, eq⟩ := (rooted_of_run config t finds).data
      exact ⟨xs, by rw [Finding.dataPath_under, eq]⟩
    · obtain ⟨f, finds, rfl⟩ := List.mem_map.1 mem
      obtain ⟨y, ys, eq⟩ := (rooted_of_run config t finds).schema
      refine ⟨y, ys, ?_⟩
      rw [Finding.schemaPath_under, eq, Stage.branchPath]
      exact (Pointer.ofSegments_append [.key keyword, .index index] (y :: ys)).symm.trans
        (Pointer.ofSegments_append [.key keyword] (.index index :: y :: ys))
  others not := absurd on not

/-- What a schema says against a node has groups only where it is on alternatives. -/
theorem Arises.grouped {config : Config} {s : Members} {n : Tree} {v : Violation} {f : Finding}
    (arises : Arises config s n v) (told : v.finding = .ok f) : f.Grouped config (.object s) := by
  have leaf (groups : v.groups = []) (other : v.code ≠ .anyOfMissing ∧ v.code ≠ .oneOfMissing) :
      f.Grouped config (.object s) := by
    obtain ⟨text, -, rfl⟩ := Violation.exists_of_finding told
    rw [groups]
    exact ⟨fun on => absurd on (not_or.2 other), nofun, fun _ => rfl⟩
  cases arises with
  | anyOf found rejects =>
    obtain ⟨text, -, rfl⟩ := Violation.exists_of_finding told
    exact grouped_of_rejects found (.inl rfl) rejects
  | oneOf found rejects =>
    obtain ⟨text, -, rfl⟩ := Violation.exists_of_finding told
    exact grouped_of_rejects found (.inr rfl) rejects
  | @constraint x _ stated judged =>
    refine leaf (Constraint.groups_of_judge judged) ?_
    obtain ⟨-, -, code, -⟩ := Constraint.eq_of_judge judged
    have apart : x.keyword ≠ "anyOf" ∧ x.keyword ≠ "oneOf" := by
      cases x <;> simp [Constraint.keyword]
    refine ⟨fun same => apart.1 ?_, fun same => apart.2 ?_⟩ <;>
      exact (Option.some.inj ((congrArg Code.keyword? same).symm.trans code)).symm
  | _ => exact leaf rfl ⟨nofun, nofun⟩

/-- All that a run finds, in groups of findings, too, has the groups that it should. -/
theorem grouped_of_run (config : Config) (schema : Tree) :
    ∀ {d : Tree}, schema.WellFormed → ∀ {f g : Finding},
      f ∈ (run config d schema).findings → f.Nested g → g.Grouped config schema := by
  induction schema using schema_induction with
  | object s parts =>
    intro d wellFormed f g found nested
    -- What a part finds is grouped, and goes up through its place in the schema.
    have below {n u t : Tree} {place : Tree → Tree} {data path : Pointer} {f g : Finding}
        (applies : Applies s n u t place data path) (mem : f ∈ (run config u t).findings)
        (nested : (f.under data path).Nested g) : g.Grouped config (.object s) := by
      obtain ⟨g', inner, rfl⟩ := nested.of_under
      obtain ⟨xs, ys, rfl, rfl, -, leads⟩ := applies.leads wellFormed
      have grouped := parts t applies.subSchema (applies.subSchema.wellFormed wellFormed) mem inner
      exact grouped.under _ leads
    cases (run_accounts (.trivial config s) (d := d) trivial).2.1 f found with
    | own _ arises told =>
      cases nested with
      | self => exact arises.grouped told
      | inside mem among nested =>
        rw [Violation.groups_of_finding told] at mem
        obtain ⟨keyword, combines, schemas, index, t, f', found, place, mem', rfl⟩ :=
          arises.mem_groups mem among
        exact below (.branch combines found place) mem' nested
    | part _ applies mem => exact below applies mem nested
  | other t other =>
    intro d _ f g found
    rw [run_of_not_object other] at found
    cases found

/-! ### Texts of pointers -/

namespace Pointer

theorem flatMap_escapeChar_eq_self {cs : List Char} (plain : ∀ c ∈ cs, c ≠ '~' ∧ c ≠ '/') :
    cs.flatMap escapeChar = cs := by
  induction cs with
  | nil => rfl
  | cons c rest ih =>
    obtain ⟨tilde, slash⟩ := plain c List.mem_cons_self
    rw [List.flatMap_cons, ih fun d mem => plain d (List.mem_cons_of_mem _ mem), escapeChar,
      if_neg tilde, if_neg slash, List.singleton_append]

theorem escape_index (index : Nat) : escape (Segment.text (.index index)) = toString index := by
  have plain : ∀ c ∈ index.repr.toList, c ≠ '~' ∧ c ≠ '/' := by
    intro c mem
    have digit := isDigit_of_mem_repr mem
    constructor <;> rintro rfl <;> cases digit
  have same := flatMap_escapeChar_eq_self plain
  exact (congrArg String.ofList same).trans String.ofList_toList

theorem text_ofSegments_index (index : Nat) (y : Segment) (ys : List Segment) :
    ∃ rest, (ofSegments (.index index :: y :: ys)).text = "/" ++ toString index ++ "/" ++ rest := by
  refine ⟨escape y.text ++ (ofSegments ys).text, ?_⟩
  simp [ofSegments, ofSegment, escape_index, String.append_assoc]

end Pointer

/-! ### Outcomes -/

/-- Findings on alternatives, nested ones included, have a group for each schema of the array that
they point to. Each group is one of findings on the branch at its index, of one when the run stops
early, and of no more than the cap allows. All other findings have no groups. -/
theorem outcome_alternatives {v : Validator} {coercing : Bool} {data : Tree} {mode : Mode}
    {o : Outcome} (wellFormed : v.schema.WellFormed)
    (ended : v.outcome coercing data mode = .ok o) :
    ∀ f ∈ o.findings, ∀ g, f.Nested g →
      (g.code = .anyOfMissing ∨ g.code = .oneOfMissing →
        ∃ schemas, v.schema.at? g.schemaPath.steps = some (.array schemas) ∧
          g.groups.length = schemas.length ∧
          ∀ (index : Nat) group, g.groups[index]? = some group →
            group ≠ [] ∧ (mode = .failFast → group.length = 1) ∧
            (∀ k, v.cap = some k → 0 < k → group.length ≤ k) ∧
            ∀ h ∈ group,
              (∃ rest, h.schemaPath.text =
                g.schemaPath.text ++ "/" ++ toString index ++ "/" ++ rest) ∧
              ∃ rest, h.dataPath.text = g.dataPath.text ++ rest) ∧
      (g.code ≠ .anyOfMissing → g.code ≠ .oneOfMissing → g.groups = []) := by
  intro f found g nested
  obtain ⟨-, rfl⟩ := Validator.outcome_eq_ok_iff.1 ended
  let config := v.config mode coercing
  have grouped := grouped_of_run config v.schema wellFormed found nested
  refine ⟨fun on => ?_, fun notAny notOne => grouped.others (not_or.2 ⟨notAny, notOne⟩)⟩
  obtain ⟨path, schemas, eq, leads, length⟩ := grouped.alternatives on
  refine ⟨schemas, ?_, length, fun index group place => ?_⟩
  · rw [eq, Pointer.steps_ofSegments]
    exact leads
  obtain ⟨nonempty, limited, data, schema⟩ := grouped.branches index group place
  refine ⟨nonempty, fun stops => ?_, fun k capped pos => ?_, fun h mem => ⟨?_, ?_⟩⟩
  · have atMost := limited 1 (config.limits_failFast stops)
    have atLeast := List.length_pos_iff.2 nonempty
    omega
  · exact limited k (config.limits_cap capped pos)
  · obtain ⟨y, ys, eq⟩ := schema h mem
    obtain ⟨rest, text⟩ := Pointer.text_ofSegments_index index y ys
    exact ⟨rest, by rw [eq, Pointer.text_append, text]; simp [String.append_assoc]⟩
  · obtain ⟨xs, eq⟩ := data h mem
    exact ⟨_, by rw [eq, Pointer.text_append]⟩

/-- A text, or a number that is large or else null. -/
def choiceSchema : Tree :=
  .object [("properties", .object [("a", .object [("anyOf", .array [
    .object [("type", .string "string")],
    .object [("oneOf", .array [.object [("minimum", .number (.int 5)),
      ("multipleOf", .number (.int 2))], .object [("type", .string "null")]])]])])])]

def choice : Tree :=
  .object [("a", .number (.int 1))]

/-- What the branches of the inner choice find: of the first one, no more than the cap allows. -/
def innerMismatch : Finding :=
  ⟨.oneOfMissing, ⟨"/a"⟩, ⟨"/properties/a/anyOf/1/oneOf"⟩,
    "Value must satisfy one of the options",
    [[⟨.numberMultipleOf, ⟨"/a"⟩, ⟨"/properties/a/anyOf/1/oneOf/0/multipleOf"⟩,
      "Number must be a multiple of 2", []⟩],
      [⟨.invalidType, ⟨"/a"⟩, ⟨"/properties/a/anyOf/1/oneOf/1/type"⟩,
        "Invalid type: integer", []⟩]]⟩

def outerMismatch : Finding :=
  ⟨.anyOfMissing, ⟨"/a"⟩, ⟨"/properties/a/anyOf"⟩,
    "Value must satisfy at least one of the options",
    [[⟨.invalidType, ⟨"/a"⟩, ⟨"/properties/a/anyOf/0/type"⟩, "Invalid type: integer", []⟩],
      [innerMismatch]]⟩

theorem outcome_alternatives_inner :
    Validator.validate ⟨choiceSchema, .default, some 1⟩ choice .collectAll =
        .ok ⟨.collectAll, [outerMismatch], choice, false⟩ ∧
      outerMismatch.Nested innerMismatch ∧
      ∃ schemas,
        choiceSchema.at? ["properties", "a", "anyOf", "1", "oneOf"] = some (.array schemas) ∧
          innerMismatch.groups.length = schemas.length ∧
          ∀ (index : Nat) group, innerMismatch.groups[index]? = some group →
            group ≠ [] ∧ group.length ≤ 1 := by
  have wellFormed : choiceSchema.WellFormed := by
    simp [choiceSchema, Tree.WellFormed, Tree.WellFormedItems, Tree.WellFormedMembers,
      Members.keys]
  have ended : Validator.validate ⟨choiceSchema, .default, some 1⟩ choice .collectAll =
      .ok ⟨.collectAll, [outerMismatch], choice, false⟩ := rfl
  have among : [innerMismatch] ∈ outerMismatch.groups := List.mem_cons_of_mem _ List.mem_cons_self
  have nested : outerMismatch.Nested innerMismatch :=
    .inside among List.mem_cons_self (.self innerMismatch)
  obtain ⟨alternatives, -⟩ := outcome_alternatives
    (v := ⟨choiceSchema, .default, some 1⟩) wellFormed ended _ List.mem_cons_self _ nested
  obtain ⟨schemas, found, length, groups⟩ := alternatives (.inr rfl)
  refine ⟨ended, nested, schemas, found, length, fun index group place => ?_⟩
  obtain ⟨nonempty, -, capped, -⟩ := groups index group place
  exact ⟨nonempty, capped 1 rfl Nat.one_pos⟩

end TreeSchema
