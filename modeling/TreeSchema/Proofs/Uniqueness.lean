import TreeSchema.Proofs.Owning.Combination
import TreeSchema.Validator

/-!
Each violation is reported once. The stages of a schema look at different keywords,
and each owns what it finds, so what a run finds is pairwise apart: no two findings
are about the same place of the data and of the schema, but for those of `oneOf` on
branches too many, and these tell different branches. Groups are what branches find,
so the same holds inside of them.
-/

namespace TreeSchema

namespace Stage.Owns

section

variable {config : Config} {s : Members}

theorem checkString :
    Owns (Finding.On ["minLength", "maxLength", "pattern"]) (checkString config s) := by
  refine byNode fun n _ => ?_
  cases n with
  | string =>
    exact ⟨_, checkConstraints Constraint.reads_ofStrings (by decide), fun _ => rfl⟩
  | _ => exact ⟨_, skip, fun _ => rfl⟩

theorem checkNumber :
    Owns (Finding.On ["multipleOf", "minimum", "maximum"]) (checkNumber config s) := by
  refine byNode fun n _ => ?_
  cases n with
  | number =>
    exact ⟨_, checkConstraints Constraint.reads_ofNumbers (by decide), fun _ => rfl⟩
  | _ => exact ⟨_, skip, fun _ => rfl⟩

variable (upholds : Upholds config s Tree.WellFormed)
  (parts : ∀ t, SubSchema s t → TellsApart config t)

include upholds parts

theorem checkArray :
    Owns (Finding.On ["items", "additionalItems", "minItems", "maxItems", "uniqueItems"])
      (checkArray run config s) := by
  refine byNode fun n _ => ?_
  cases n with
  | array items =>
    have lengths : Owns (Finding.On ["minItems", "maxItems", "uniqueItems"])
        (sequence [Stage.checkConstraints config (Constraint.ofArrays s)]) := by
      rw [sequence_singleton]
      exact checkConstraints Constraint.reads_ofArrays (by decide)
    exact ⟨_, cons_on (Accounts.walk upholds).checkItems.node (checkItems upholds parts) lengths
      (by decide), fun _ => rfl⟩
  | _ => exact ⟨_, skip, fun _ => rfl⟩

theorem checkCombinations :
    Owns (Finding.On ["allOf", "anyOf", "oneOf", "not"]) (checkCombinations run config s) := by
  have walk := Accounts.walk upholds
  have negated : Owns (Finding.On ["not"])
      (sequence [keyword s "not" (Stage.notAny run config)]) := by
    rw [sequence_singleton]
    unfold keyword
    split
    · exact notAny _
    · exact skip
  exact cons_on (forms_branches fun _ found => (walk.allOf found).node)
    (branches fun _ found => allOf upholds parts found)
    (cons_on (forms_branches fun _ found => (walk.anyOf found).node)
      (branches fun schemas _ => anyOf schemas)
      (cons_on (forms_branches fun _ found => (walk.oneOf found).node)
        (branches fun _ found => oneOf upholds found) negated (by decide)) (by decide))
    (by decide)

variable (wellFormed : (Tree.object s).WellFormed)

include wellFormed

theorem checkObject :
    Owns (Finding.On ["required", "properties", "patternProperties", "additionalProperties",
      "dependencies", "minProperties", "maxProperties"]) (checkObject run config s) := by
  refine byNode fun n formed => ?_
  cases n with
  | object members =>
    have walk := Accounts.walk upholds
    let counted := countedMembers config.options s members
    have counts : Owns (Finding.On ["minProperties", "maxProperties"])
        (sequence [Stage.checkConstraints config (Constraint.ofObjects s)]) := by
      rw [sequence_singleton]
      exact checkConstraints Constraint.reads_ofObjects (by decide)
    have replaces : Owns (Finding.On []) (Stage.replace (.object counted)) := replace _
    have counted := walk.counted formed
    exact ⟨_, cons_on counted.node replaces
      (cons_on (walk.checkRequired _ formed).node (checkRequired upholds)
      (cons_on (walk.checkProperties _ formed).node (checkProperties upholds parts wellFormed)
      (cons_on walk.checkPatterns.node (checkPatterns upholds parts wellFormed)
      (cons_on walk.checkAdditional.node (checkAdditional upholds parts)
      (cons_on walk.checkDependencies.node (checkDependencies upholds parts wellFormed)
        counts (by decide)) (by decide)) (by decide)) (by decide)) (by decide))
      (List.forall_mem_nil _), fun _ => rfl⟩
  | _ => exact ⟨_, skip, fun _ => rfl⟩

/-- The stages of a schema own what they find, each at keywords of its own. -/
theorem stages :
    Owns (Finding.On ["type", "enum", "required", "properties", "patternProperties",
      "additionalProperties", "dependencies", "minProperties", "maxProperties", "items",
      "additionalItems", "minItems", "maxItems", "uniqueItems", "minLength", "maxLength", "pattern",
      "multipleOf", "minimum", "maximum", "allOf", "anyOf", "oneOf", "not"])
      (sequence (stages run config s)) := by
  have walk := Accounts.walk upholds
  have choices : Owns (Finding.On ["enum"])
      (Stage.checkConstraints config (Constraint.ofEnum s)) :=
    checkConstraints Constraint.reads_ofEnum (by decide)
  have combinations : Owns (Finding.On ["allOf", "anyOf", "oneOf", "not"])
      (sequence [Stage.checkCombinations run config s]) := by
    rw [sequence_singleton]
    exact checkCombinations upholds parts
  have forms := (walk.constraints (List.mem_cons_self (a := Constraint.ofEnum s))).node
  exact cons_on walk.checkType.node (checkType s)
    (cons_on forms choices
    (cons_on walk.checkObject.node (checkObject upholds parts wellFormed)
    (cons_on walk.checkArray.node (checkArray upholds parts)
    (cons_on walk.checkString.node checkString
    (cons_on walk.checkNumber.node checkNumber combinations
      (by decide)) (by decide)) (by decide)) (by decide)) (by decide)) (by decide)

end

end Stage.Owns

/-! ### Runs -/

/-- What a run finds is pairwise apart. -/
theorem run_tellsApart (config : Config) (schema : Tree) :
    schema.WellFormed → TellsApart config schema := by
  induction schema using schema_induction with
  | object s parts =>
    intro wellFormed d formed
    have inside (t : Tree) (sub : SubSchema s t) : TellsApart config t :=
      parts t sub (sub.wellFormed wellFormed)
    -- The run starts with no findings, so what the stages add is all there is.
    obtain ⟨new, found, apart, -⟩ :=
      Stage.Owns.stages (.wellFormed config wellFormed) inside wellFormed ⟨d, []⟩ formed
    rw [run_object, found]
    exact apart
  | other t other =>
    intro _ d _
    rw [run_of_not_object other]
    exact .nil

theorem Arises.pairwise_apart {config : Config} {s : Members} {n : Tree} {v : Violation}
    (arises : Arises config s n v) (wellFormed : (Tree.object s).WellFormed) (formed : n.WellFormed)
    {group : List Finding} (mem : group ∈ v.groups) : group.Pairwise Finding.Apart := by
  obtain ⟨keyword, combines, schemas, index, t, found, place, rfl⟩ := arises.eq_groupOf mem
  have sub : SubSchema s t := .branch combines found (List.mem_of_getElem? place)
  have apart := run_tellsApart config t (sub.wellFormed wellFormed) n formed
  exact List.pairwise_map.2 (apart.imp fun apart => apart.under _ _)

/-- What is found is pairwise apart in every group of a finding, at any depth. -/
theorem pairwise_apart_of_mem_groups (config : Config) (schema : Tree) :
    schema.WellFormed → ∀ {d : Tree}, d.WellFormed → ∀ {f g : Finding} {group : List Finding},
      f ∈ (run config d schema).findings → f.Nested g → group ∈ g.groups →
      group.Pairwise Finding.Apart := by
  induction schema using schema_induction with
  | object s parts =>
    intro wellFormed d formed f g group found nested mem
    -- The groups of what a part finds are seen from further up, all in the same way.
    have below {n u t : Tree} {place : Tree → Tree} {data path : Pointer} {f g : Finding}
        {group : List Finding} (met : n.WellFormed) (applies : Applies s n u t place data path)
        (finds : f ∈ (run config u t).findings) (nested : (f.under data path).Nested g)
        (mem : group ∈ g.groups) : group.Pairwise Finding.Apart := by
      obtain ⟨g', inner, rfl⟩ := nested.of_under
      rw [Finding.groups_under] at mem
      obtain ⟨group', among, rfl⟩ := List.mem_map.1 mem
      have inside := Tree.inherited_wellFormed.of_applies met applies
      have apart := parts t applies.subSchema (applies.subSchema.wellFormed wellFormed) inside
        finds inner among
      exact List.pairwise_map.2 (apart.imp fun apart => apart.under _ _)
    cases (run_accounts (.wellFormed config wellFormed) formed).2.1 f found with
    | own met arises told =>
      cases nested with
      | self =>
        rw [Violation.groups_of_finding told] at mem
        exact arises.pairwise_apart wellFormed met mem
      | inside mem' among nested =>
        rw [Violation.groups_of_finding told] at mem'
        obtain ⟨keyword, combines, schemas, index, t, f', found, place, finds, rfl⟩ :=
          arises.mem_groups mem' among
        exact below met (.branch combines found place) finds nested mem
    | part met applies finds => exact below met applies finds nested mem
  | other t other =>
    intro _ d _ f g group found
    rw [run_of_not_object other] at found
    cases found

/-! ### Outcomes -/

/-- Whatever the mode, the cap and the options, no two findings of an outcome are about the same
place of the data and of the schema, unless they tell of different branches of one `oneOf`; and so
it is inside of every group, at any depth. -/
theorem outcome_reports_once {v : Validator} {coercing : Bool} {data : Tree} {mode : Mode}
    {o : Outcome} (formed : data.WellFormed) (wellFormed : v.schema.WellFormed)
    (ended : v.outcome coercing data mode = .ok o) :
    o.findings.Pairwise Finding.Apart ∧
      ∀ f ∈ o.findings, ∀ g, f.Nested g → ∀ group ∈ g.groups, group.Pairwise Finding.Apart := by
  obtain ⟨-, rfl⟩ := Validator.outcome_eq_ok_iff.1 ended
  exact ⟨run_tellsApart _ _ wellFormed data formed, fun f found g nested group mem =>
    pairwise_apart_of_mem_groups _ _ wellFormed formed found nested mem⟩

/-- A number that three branches of one choice pass, and that has to be large besides. -/
def crowdedSchema : Tree :=
  .object [("type", .string "integer"), ("minimum", .number (.int 5)),
    ("oneOf", .array [.object [], .object [], .object []])]

def crowding (message : String) : Finding :=
  ⟨.oneOfMultiple, ⟨""⟩, ⟨"/oneOf"⟩, message, []⟩

def crowded : List Finding :=
  [⟨.numberMinimum, ⟨""⟩, ⟨"/minimum"⟩, "Number must be >= 5", []⟩,
    crowding "Value satisfies more than one of the options (0 and 1)",
    crowding "Value satisfies more than one of the options (1 and 2)"]

theorem outcome_reports_once_crowded :
    Validator.coerce ⟨crowdedSchema, .default, some 4⟩ (.string "1") .collectAll =
        .ok ⟨.collectAll, crowded, .number (.int 1), true⟩ ∧
      crowded.Pairwise Finding.Apart := by
  have wellFormed : crowdedSchema.WellFormed := by
    simp [crowdedSchema, Tree.WellFormed, Tree.WellFormedItems, Tree.WellFormedMembers,
      Members.keys]
  have ended : Validator.coerce ⟨crowdedSchema, .default, some 4⟩ (.string "1") .collectAll =
      .ok ⟨.collectAll, crowded, .number (.int 1), true⟩ := rfl
  have formed : (Tree.string "1").WellFormed := trivial
  obtain ⟨apart, -⟩ := outcome_reports_once (v := ⟨crowdedSchema, .default, some 4⟩) formed
    wellFormed ended
  exact ⟨ended, apart⟩

end TreeSchema
