import TreeSchema.Proofs.Account
import TreeSchema.Tree.Address
import TreeSchema.Validator

/-!
Where findings and faults point. Each pointer of a checking run leads from the
root of its tree to a node: that of a finding in the data to the part that is
wrong, that in the schema to the keyword that was broken or below it, and that of
a fault to what is malformed. A run sees its findings from its own node and
schema, so what has to be kept is that the paths of a part, put behind those of
the place where the part stands, lead on from there.
-/

namespace TreeSchema

/-! ### Paths in a tree -/

/-- The path leads from one tree to the other. -/
def Leads (t : Tree) (path : List Segment) (u : Tree) : Prop :=
  t.at? (path.map Segment.text) = some u

namespace Leads

variable {t u v : Tree} {xs ys : List Segment}

theorem here (t : Tree) : Leads t [] t := rfl

theorem append (first : Leads t xs u) (rest : Leads u ys v) : Leads t (xs ++ ys) v := by
  rw [Leads, List.map_append, Tree.at?_append, first]
  exact rest

theorem of_get? (step : Segment) (found : t.parts.get? step.text = some u) : Leads t [step] u := by
  rw [Leads, List.map_singleton, Tree.at?_singleton, found]

theorem keyword {s : Members} {name : String} (found : s.get? name = some u) :
    Leads (.object s) [.key name] u :=
  of_get? (.key name) found

theorem member {key : String} (value : t.members.get? key = some u) : Leads t [.key key] u := by
  rw [Tree.eq_object_of_get? value]
  exact keyword value

theorem item {index : Nat} (value : t.items[index]? = some u) : Leads t [.index index] u := by
  rw [Tree.eq_array_of_getElem? value]
  exact of_get? (.index index) ((Tree.get?_parts_array ..).trans value)

theorem entry {s entries : Members} {name key : String}
    (found : s.get? name = some (.object entries)) (value : entries.get? key = some u) :
    Leads (.object s) [.key name, .key key] u :=
  (keyword found).append (keyword value)

theorem element {s : Members} {name : String} {items : List Tree} {index : Nat}
    (found : s.get? name = some (.array items)) (value : items[index]? = some u) :
    Leads (.object s) [.key name, .index index] u :=
  (keyword found).append (item value)

end Leads

/-! ### Well formed trees -/

theorem Tree.inherited_wellFormed : Inherited WellFormed where
  item all mem := all.of_mem_items mem
  member all mem := all.of_mem_members mem
  filter keeps all := all.filter keeps

theorem Members.get?_of_mem_entries {s entries : Members} {name key : String} {t : Tree}
    (wellFormed : (Tree.object s).WellFormed) (found : s.get? name = some (.object entries))
    (mem : (key, t) ∈ entries) : entries.get? key = some t :=
  get?_of_mem (wellFormed_of_get? wellFormed found).nodup mem

theorem Leads.of_met {options : Options} {s : Members} {d n u : Tree} {path : List Segment}
    (wellFormed : d.WellFormed) (met : Met options s d n) (leads : Leads n path u) :
    ∃ u', Leads d path u' := by
  rcases met with rfl | rfl
  · exact ⟨u, leads⟩
  · cases path with
    | nil => exact ⟨d, .here d⟩
    | cons step rest =>
      refine ⟨u, ?_⟩
      cases d with
      | object members =>
        rw [Tree.counted] at leads
        rcases Stage.countedMembers_cases options s with all | filters
        · rwa [all] at leads
        · rw [filters, Leads, List.map_cons, Tree.at?_cons, Option.bind_eq_some_iff] at leads
          obtain ⟨v, value, leads⟩ := leads
          have mem := (List.mem_filter.1 (Members.mem_of_get? value)).1
          have value := Members.get?_of_mem wellFormed.nodup mem
          have first : Leads (.object members) [step] v := of_get? step value
          exact first.append leads
      | _ => exact leads

/-! ### Parts -/

/-- A part is checked against a schema in places that lead to the part and to the schema. -/
theorem Applies.leads {s : Members} {n u t : Tree} {place : Tree → Tree} {data path : Pointer}
    (h : Applies s n u t place data path) (wellFormed : (Tree.object s).WellFormed) :
    ∃ xs ys, data = .ofSegments xs ∧ path = .ofSegments ys ∧ Leads n xs u ∧
      Leads (.object s) ys t := by
  have entry {name key : String} {entries : Members} {t : Tree}
      (found : s.get? name = some (.object entries)) (mem : (key, t) ∈ entries) :
      Leads (.object s) [.key name, .key key] t :=
    .entry found (Members.get?_of_mem_entries wellFormed found mem)
  cases h with
  | property found mem value => exact ⟨_, _, rfl, rfl, .member value, entry found mem⟩
  | pattern found mem _ _ value => exact ⟨_, _, rfl, rfl, .member value, entry found mem⟩
  | additional found _ value => exact ⟨_, _, rfl, rfl, .member value, .keyword found⟩
  | dependency found mem => exact ⟨[], _, rfl, rfl, .here n, entry found mem⟩
  | items found value => exact ⟨_, _, rfl, rfl, .item value, .keyword found⟩
  | place found place value => exact ⟨_, _, rfl, rfl, .item value, .element found place⟩
  | additionalItem _ _ beyond value => exact ⟨_, _, rfl, rfl, .item value, .keyword beyond⟩
  | branch _ found place => exact ⟨[], _, rfl, rfl, .here n, .element found place⟩

/-! ### Pointers -/

/-- The pointer is that of a path in the tree. -/
def Pointer.LeadsInto (p : Pointer) (t : Tree) : Prop :=
  ∃ path u, p = .ofSegments path ∧ Leads t path u

/-- The pointer leads to a keyword of a schema inside the schema, or on from the keyword. -/
def Pointer.Concerns (p : Pointer) (schema : Tree) (keyword : String) : Prop :=
  ∃ (above : List Segment) (s : Members) (value : Tree) (below : List Segment) (u : Tree),
    p = .ofSegments (above ++ .key keyword :: below) ∧ Leads schema above (.object s) ∧
      s.get? keyword = some value ∧ Leads value below u

namespace Pointer

variable {t u : Tree} {xs : List Segment} {p : Pointer}

theorem here_leadsInto (t : Tree) : here.LeadsInto t :=
  ⟨[], t, rfl, .here t⟩

theorem LeadsInto.below (h : p.LeadsInto u) (leads : Leads t xs u) :
    (ofSegments xs ++ p).LeadsInto t := by
  obtain ⟨path, v, rfl, inside⟩ := h
  exact ⟨xs ++ path, v, (ofSegments_append ..).symm, leads.append inside⟩

theorem LeadsInto.of_met {options : Options} {s : Members} (h : p.LeadsInto u)
    (wellFormed : t.WellFormed) (met : Met options s t u) : p.LeadsInto t := by
  obtain ⟨path, v, eq, leads⟩ := h
  obtain ⟨v', leads⟩ := leads.of_met wellFormed met
  exact ⟨path, v', eq, leads⟩

theorem Concerns.below {keyword : String} (h : p.Concerns u keyword) (leads : Leads t xs u) :
    (ofSegments xs ++ p).Concerns t keyword := by
  obtain ⟨above, s, value, path, v, rfl, down, found, last⟩ := h
  refine ⟨xs ++ above, s, value, path, v, ?_, leads.append down, found, last⟩
  rw [List.append_assoc, ofSegments_append xs]

theorem concerns_of_leads {s : Members} {keyword : String} {value : Tree} {path : List Segment}
    (found : s.get? keyword = some value) (leads : Leads value path u) :
    (ofSegments (.key keyword :: path)).Concerns (.object s) keyword :=
  ⟨[], s, value, path, u, rfl, .here _, found, leads⟩

end Pointer

/-! ### Findings -/

/-- The finding is about a part of the data, and about the keyword that its code tells or about
something below that keyword. -/
structure Finding.Located (data schema : Tree) (f : Finding) : Prop where
  data : f.dataPath.LeadsInto data
  schema : ∃ keyword, f.code.keyword? = some keyword ∧ f.schemaPath.Concerns schema keyword

theorem Finding.Located.under {data schema u t : Tree} {xs ys : List Segment} {f : Finding}
    (h : f.Located u t) (leads : Leads data xs u) (leads' : Leads schema ys t) :
    (f.under (.ofSegments xs) (.ofSegments ys)).Located data schema := by
  obtain ⟨into, keyword, code, concerns⟩ := h
  refine ⟨?_, keyword, ?_, ?_⟩
  · rw [dataPath_under]
    exact into.below leads
  · rwa [code_under]
  · rw [schemaPath_under]
    exact concerns.below leads'

theorem Finding.Located.of_met {options : Options} {s : Members} {d n schema : Tree} {f : Finding}
    (h : f.Located n schema) (wellFormed : d.WellFormed) (met : Met options s d n) :
    f.Located d schema :=
  ⟨h.data.of_met wellFormed met, h.schema⟩

theorem Tree.getElem?_of_strings? {items : List Tree} {names : List String} {index : Nat}
    {name : String} (read : Tree.strings? items = some names) (place : names[index]? = some name) :
    items[index]? = some (.string name) := by
  induction items generalizing names index with
  | nil =>
    cases read
    cases place
  | cons t rest ih =>
    cases t with
    | string s =>
      obtain ⟨more, read', rfl⟩ := Option.map_eq_some_iff.1 read
      cases index with
      | zero =>
        cases place
        rfl
      | succ index => exact ih read' place
    | _ => cases read

/-- What a schema says against a node is about the node or a part of it, and about a keyword of the
schema or something below it. -/
theorem Arises.located {config : Config} {s : Members} {n : Tree} {v : Violation} {f : Finding}
    (arises : Arises config s n v) (wellFormed : (Tree.object s).WellFormed)
    (told : v.finding = .ok f) : f.Located n (.object s) := by
  obtain ⟨text, -, rfl⟩ := Violation.exists_of_finding told
  have whole := Pointer.here_leadsInto n
  cases arises with
  | type present =>
    obtain ⟨t, found⟩ := Option.isSome_iff_exists.1 ((s.isSome_get? "type").trans present)
    exact ⟨whole, "type", rfl, Pointer.concerns_of_leads found (.here t)⟩
  | constraint stated judged =>
    obtain ⟨data, path, code, -⟩ := Constraint.eq_of_judge judged
    obtain ⟨t, found⟩ := Option.isSome_iff_exists.1 ((s.isSome_get? _).trans stated.has)
    exact ⟨data ▸ whole, _, code, path ▸ Pointer.concerns_of_leads found (.here t)⟩
  | required found read place =>
    have item := Tree.getElem?_of_strings? read place
    exact ⟨whole, "required", rfl, Pointer.concerns_of_leads found (.item item)⟩
  | noDefault found mem =>
    have value := Members.get?_of_mem_entries wellFormed found mem
    exact ⟨whole, "properties", rfl, Pointer.concerns_of_leads found (.keyword value)⟩
  | additional _ found extra =>
    have present := (n.members.has_iff_mem_keys _).2 (List.mem_filter.1 extra).1
    obtain ⟨u, value⟩ := Option.isSome_iff_exists.1 ((n.members.isSome_get? _).trans present)
    exact ⟨⟨_, u, rfl, .member value⟩, _, rfl, Pointer.concerns_of_leads found (.here _)⟩
  | dependencyKeys found mem read place =>
    have value := Members.get?_of_mem_entries wellFormed found mem
    have item := Tree.getElem?_of_strings? read place
    exact ⟨whole, "dependencies", rfl,
      Pointer.concerns_of_leads found ((Leads.keyword value).append (.item item))⟩
  | dependencyKey found mem =>
    have value := Members.get?_of_mem_entries wellFormed found mem
    exact ⟨whole, "dependencies", rfl, Pointer.concerns_of_leads found (.keyword value)⟩
  | additionalItem _ beyond bound =>
    have value := List.getElem?_eq_getElem bound
    exact ⟨⟨_, _, rfl, .item value⟩, _, rfl, Pointer.concerns_of_leads beyond (.here _)⟩
  | anyOf found | oneOf found | multiple found | negated found =>
    exact ⟨whole, _, rfl, Pointer.concerns_of_leads found (.here _)⟩

theorem Arises.eq_groupOf {config : Config} {s : Members} {n : Tree} {v : Violation}
    (arises : Arises config s n v) {group : List Finding} (mem : group ∈ v.groups) :
    ∃ keyword ∈ branchKeywords, ∃ (schemas : List Tree) (index : Nat) (t : Tree),
      s.get? keyword = some (.array schemas) ∧ schemas[index]? = some t ∧
        group = Stage.groupOf (Stage.branchPath keyword index) (run config n t) := by
  have branch {keyword : String} {schemas : List Tree}
      (mem : group ∈ groupsOf config n keyword schemas) : ∃ (index : Nat) (t : Tree),
        schemas[index]? = some t ∧
          group = Stage.groupOf (Stage.branchPath keyword index) (run config n t) := by
    obtain ⟨index, place⟩ := List.mem_iff_getElem?.1 mem
    rw [groupsOf, List.getElem?_mapIdx, Option.map_eq_some_iff] at place
    obtain ⟨t, place, rfl⟩ := place
    exact ⟨index, t, place, rfl⟩
  cases arises with
  | anyOf found =>
    obtain ⟨index, t, place, eq⟩ := branch mem
    exact ⟨"anyOf", by decide, _, index, t, found, place, eq⟩
  | oneOf found =>
    obtain ⟨index, t, place, eq⟩ := branch mem
    exact ⟨"oneOf", by decide, _, index, t, found, place, eq⟩
  | constraint _ judged =>
    rw [Constraint.groups_of_judge judged] at mem
    cases mem
  | _ => cases mem

theorem Arises.mem_groups {config : Config} {s : Members} {n : Tree} {v : Violation}
    (arises : Arises config s n v) {group : List Finding} (mem : group ∈ v.groups) {g : Finding}
    (among : g ∈ group) :
    ∃ keyword ∈ branchKeywords, ∃ schemas index t f, s.get? keyword = some (.array schemas) ∧
      schemas[index]? = some t ∧ f ∈ (run config n t).findings ∧
      g = f.under .here (Stage.branchPath keyword index) := by
  obtain ⟨keyword, combines, schemas, index, t, found, place, rfl⟩ := arises.eq_groupOf mem
  obtain ⟨f, finds, rfl⟩ := List.mem_map.1 among
  exact ⟨keyword, combines, schemas, index, t, f, found, place, finds, rfl⟩

/-! ### Runs -/

/-- All that a checking run finds, in groups of findings, too, is located. -/
theorem located_of_run (mode : Mode) (cap : Option Nat) (options : Options) (schema : Tree) :
    ∀ {d : Tree}, d.WellFormed → schema.WellFormed → ∀ {f g : Finding},
      f ∈ (run (.checking mode cap options) d schema).findings → f.Nested g →
      g.Located d schema := by
  induction schema using schema_induction with
  | object s parts =>
    intro d wellFormed wellFormed' f g found nested
    -- What a part finds is located in the part, and so from here.
    have below {n u t : Tree} {place : Tree → Tree} {data path : Pointer} {f g : Finding}
        (met : Met options s d n) (applies : Applies s n u t place data path)
        (mem : f ∈ (run (.checking mode cap options) u t).findings)
        (nested : (f.under data path).Nested g) : g.Located d (.object s) := by
      obtain ⟨g', inner, rfl⟩ := nested.of_under
      obtain ⟨xs, ys, rfl, rfl, leads, leads'⟩ := applies.leads wellFormed'
      have inherited := Tree.inherited_wellFormed
      have inside := inherited.of_applies (inherited.of_met wellFormed met) applies
      have located := parts t applies.subSchema inside
        (applies.subSchema.wellFormed wellFormed') mem inner
      exact (located.under leads leads').of_met wellFormed met
    cases (run_accounts (Met.upholds mode cap options s d) (.inl rfl)).2.1 f found with
    | own met arises told =>
      cases nested with
      | self => exact (arises.located wellFormed' told).of_met wellFormed met
      | inside mem among nested =>
        rw [Violation.groups_of_finding told] at mem
        obtain ⟨keyword, combines, schemas, index, t, f', found, place, mem', rfl⟩ :=
          arises.mem_groups mem among
        exact below met (.branch combines found place) mem' nested
    | part met applies mem => exact below met applies mem nested
  | other t other =>
    intro d _ _ f g found
    rw [run_of_not_object other] at found
    cases found

theorem Misread.leadsInto {s : Members} {f : Fault} (misread : Misread s (.fault f))
    (wellFormed : (Tree.object s).WellFormed) : f.schemaPath.LeadsInto (.object s) := by
  cases misread with
  | keyword found => exact ⟨_, _, rfl, .keyword found⟩
  | entry found mem =>
    have value := Members.get?_of_mem_entries wellFormed found mem
    exact ⟨_, _, rfl, .entry found value⟩

theorem fault_leadsInto (mode : Mode) (cap : Option Nat) (options : Options) (schema : Tree) :
    ∀ {d : Tree}, schema.WellFormed → ∀ {f : Fault},
      (run (.checking mode cap options) d schema).interruption? = some (.fault f) →
      f.schemaPath.LeadsInto schema := by
  induction schema using schema_induction with
  | object s parts =>
    intro d wellFormed f stops
    have below {u t : Tree} {ys : List Segment} {i : Interruption} (sub : SubSchema s t)
        (leads : Leads (.object s) ys t)
        (ends : (run (.checking mode cap options) u t).interruption? = some i)
        (same : i.under (.ofSegments ys) = .fault f) : f.schemaPath.LeadsInto (.object s) := by
      cases i with
      | failure cause => cases same
      | fault f' =>
        cases same
        exact (parts t sub (sub.wellFormed wellFormed) ends).below leads
    generalize faults : Interruption.fault f = i at stops
    cases (run_accounts (Met.upholds mode cap options s d) (.inl rfl)).2.2 i stops with
    | misread misread => exact (faults ▸ misread : Misread s (.fault f)).leadsInto wellFormed
    | unjudged | untold | unconverted | unfilled => cases faults
    | part met applies ends =>
      obtain ⟨xs, ys, rfl, rfl, -, leads⟩ := applies.leads wellFormed
      exact below applies.subSchema leads ends faults.symm
    | negated met found ends => exact below (.negated found) (.keyword found) ends faults.symm
  | other t other =>
    intro d _ f stops
    rw [run_of_not_object other] at stops
    cases stops
    exact Pointer.here_leadsInto t

/-! ### Outcomes -/

/-- The pointers of the finding, read back step by step, lead from the roots to nodes: to a part of
the data, and to a keyword of a schema, the one that the code tells, or on from there. -/
structure Finding.Resolves (data schema : Tree) (f : Finding) : Prop where
  rooted : f.dataPath.Rooted ∧ f.schemaPath.Rooted
  data : ∃ u, data.at? f.dataPath.steps = some u
  schema : ∃ (above : List String) (keyword : String) (below : List String),
    f.schemaPath.steps = above ++ keyword :: below ∧ f.code.keyword? = some keyword ∧
      ∃ (s : Members) (value u : Tree), schema.at? above = some (.object s) ∧
        s.get? keyword = some value ∧ value.at? below = some u

theorem Pointer.LeadsInto.resolves {p : Pointer} {t : Tree} (h : p.LeadsInto t) :
    p.Rooted ∧ ∃ u, t.at? p.steps = some u := by
  obtain ⟨path, u, rfl, leads⟩ := h
  exact ⟨rooted_ofSegments path, u, by rwa [steps_ofSegments]⟩

theorem Finding.Located.resolves {data schema : Tree} {f : Finding} (h : f.Located data schema) :
    f.Resolves data schema := by
  obtain ⟨into, keyword, code, above, s, value, below, u, path, down, found, last⟩ := h
  obtain ⟨rooted, part⟩ := into.resolves
  refine ⟨⟨rooted, path ▸ Pointer.rooted_ofSegments _⟩, part, above.map Segment.text, keyword,
    below.map Segment.text, ?_, code, s, value, u, down, found, last⟩
  rw [path, Pointer.steps_ofSegments, List.map_append]
  rfl

/-- Every pointer that checking reports leads from the root of the caller's data or schema to a
node of it: those of findings, nested ones included, and that of a fault. -/
theorem validate_resolves {schema data : Tree} (wellFormed : data.WellFormed)
    (wellFormed' : schema.WellFormed) (options : Options) (cap : Option Nat) (mode : Mode) :
    (∀ o, Validator.validate ⟨schema, options, cap⟩ data mode = .ok o →
      ∀ f ∈ o.findings, ∀ g, f.Nested g → g.Resolves data schema) ∧
    ∀ f, Validator.validate ⟨schema, options, cap⟩ data mode = .error (.fault f) →
      f.schemaPath.Rooted ∧ ∃ t, schema.at? f.schemaPath.steps = some t := by
  refine ⟨fun o ended f mem g nested => ?_, fun f faults => ?_⟩
  · obtain ⟨-, rfl⟩ := Validator.outcome_eq_ok_iff.1 ended
    exact (located_of_run mode cap options schema wellFormed wellFormed' mem nested).resolves
  · exact (fault_leadsInto mode cap options schema wellFormed'
      (Validator.outcome_eq_error_iff.1 faults)).resolves

/-- Lists of texts and of numbers that are not small, under a key with a slash. -/
def mixedSchema : Tree :=
  .object [("ignoreNullProperties", .bool true), ("properties", .object [("a/b", .object
    [("items", .object [("anyOf", .array [.object [("type", .string "string")],
      .object [("minimum", .number (.int 5))]])])])])]

def mixed : Tree :=
  .object [("x", .null), ("a/b", .array [.string "t", .number (.int 1)])]

/-- What the second branch finds of the second item. -/
def tooSmall : Finding :=
  ⟨.numberMinimum, ⟨"/a~1b/1"⟩, ⟨"/properties/a~1b/items/anyOf/1/minimum"⟩,
    "Number must be >= 5", []⟩

/-- The finding on the second item, with what each branch finds of it. -/
def mismatch : Finding :=
  ⟨.anyOfMissing, ⟨"/a~1b/1"⟩, ⟨"/properties/a~1b/items/anyOf"⟩,
    "Value must satisfy at least one of the options",
    [[⟨.invalidType, ⟨"/a~1b/1"⟩, ⟨"/properties/a~1b/items/anyOf/0/type"⟩,
      "Invalid type: integer", []⟩], [tooSmall]]⟩

/-- A schema that prohibits what is badly said. -/
def misspoken : Tree :=
  .object [("not", .object [("enum", .null)])]

theorem validate_resolves_mixed :
    (Validator.validate ⟨mixedSchema, ⟨false, false, true⟩, none⟩ mixed .collectAll =
        .ok ⟨.collectAll, [mismatch], mixed, false⟩ ∧
      mismatch.Nested tooSmall ∧ tooSmall.Resolves mixed mixedSchema) ∧
    ∃ f, Validator.validate ⟨misspoken, .default, some 1⟩ .null .failFast = .error (.fault f) ∧
      f.schemaPath.Rooted ∧ ∃ t, misspoken.at? f.schemaPath.steps = some t := by
  have wellFormed : mixed.WellFormed := by
    simp [mixed, Tree.WellFormed, Tree.WellFormedItems, Tree.WellFormedMembers, Members.keys]
  have wellFormed' : mixedSchema.WellFormed := by
    simp [mixedSchema, Tree.WellFormed, Tree.WellFormedItems, Tree.WellFormedMembers, Members.keys]
  have null : Tree.null.WellFormed := trivial
  have wellFormed'' : misspoken.WellFormed := by
    simp [misspoken, Tree.WellFormed, Tree.WellFormedMembers, Members.keys]
  have ended : Validator.validate ⟨mixedSchema, ⟨false, false, true⟩, none⟩ mixed .collectAll =
      .ok ⟨.collectAll, [mismatch], mixed, false⟩ := rfl
  have among : [tooSmall] ∈ mismatch.groups := List.mem_cons_of_mem _ List.mem_cons_self
  have nested : mismatch.Nested tooSmall := .inside among List.mem_cons_self (.self tooSmall)
  refine ⟨⟨ended, nested, ?_⟩, _, rfl, ?_⟩
  · exact (validate_resolves wellFormed wellFormed' _ _ _).1 _ ended _ List.mem_cons_self _ nested
  · exact (validate_resolves null wellFormed'' .default (some 1) .failFast).2 _ rfl

end TreeSchema
