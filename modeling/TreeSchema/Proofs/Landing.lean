import TreeSchema.Conversion.Reading
import TreeSchema.Proofs.Collecting

/-!
Where a conversion lands. The rules of the declared types are tried in one row, so what comes out is
of the first type with a rule that succeeds, and types further back have no say. The stage for the
declared types takes over what comes out and tells nothing; if nothing does, it tells the kind of
the node and leaves the node alone.
-/

namespace TreeSchema

/-- The value is a candidate for the rule, and the rule converts it. -/
def Rule.Succeeds (rule : Rule) (t w : Tree) : Prop :=
  rule.accepts t = true ∧ rule.convert t = .ok (.ok w)

/-- Some rule for the type succeeds on the value. -/
def TypeName.Produces (type : TypeName) (t : Tree) : Prop :=
  ∃ rule ∈ type.rules, ∃ w, rule.Succeeds t w

/-! ### Rules in a row -/

variable {t w : Tree}

theorem firstSuccess_append (t : Tree) (xs ys : List Rule) :
    firstSuccess t (xs ++ ys) = (firstSuccess t xs).bind fun
      | some w => .ok (some w)
      | none => firstSuccess t ys := by
  induction xs with
  | nil => rfl
  | cons rule rest ih =>
    rw [List.cons_append, firstSuccess, firstSuccess, ih]
    split
    · split <;> rfl
    · rfl

theorem firstSuccess_append_of_some {xs : List Rule} (found : firstSuccess t xs = .ok (some w))
    (ys : List Rule) : firstSuccess t (xs ++ ys) = .ok (some w) := by
  rw [firstSuccess_append, found]
  rfl

theorem firstSuccess_append_of_none {xs : List Rule} (none : firstSuccess t xs = .ok none)
    (ys : List Rule) : firstSuccess t (xs ++ ys) = firstSuccess t ys := by
  rw [firstSuccess_append, none]
  rfl

theorem firstSuccess_append_of_error {xs : List Rule} {cause : Failure}
    (fails : firstSuccess t xs = .error cause) (ys : List Rule) :
    firstSuccess t (xs ++ ys) = .error cause := by
  rw [firstSuccess_append, fails]
  rfl

theorem firstSuccess_singleton_of_succeeds {rule : Rule} (succeeds : rule.Succeeds t w) :
    firstSuccess t [rule] = .ok (some w) := by
  obtain ⟨accepts, converts⟩ := succeeds
  simp only [firstSuccess, if_pos accepts, converts]

theorem not_succeeds_of_firstSuccess {rules : List Rule} (none : firstSuccess t rules = .ok none) :
    ∀ rule ∈ rules, ∀ w, ¬ rule.Succeeds t w := by
  induction rules with
  | nil => nofun
  | cons first rest ih =>
    -- A success of the first rule would be the success of the row.
    have missed (w : Tree) : ¬ first.Succeeds t w := by
      intro succeeds
      have found := firstSuccess_append_of_some (firstSuccess_singleton_of_succeeds succeeds) rest
      exact nomatch none.symm.trans found
    have later : firstSuccess t rest = .ok Option.none := by
      unfold firstSuccess at none
      split at none
      · next accepts =>
        split at none
        · cases none
        · cases none
        · exact none
      · exact none
    intro rule mem
    rcases List.mem_cons.1 mem with rfl | mem
    · exact missed
    · exact ih later rule mem

/-! ### Types in a row -/

theorem rulesFor_append (types more : List String) :
    rulesFor (types ++ more) = rulesFor types ++ rulesFor more :=
  List.flatMap_append

theorem rulesFor_singleton (type : TypeName) : rulesFor [type.name] = type.rules := by
  rw [rulesFor, List.flatMap_singleton, TypeName.ofName?_name]
  rfl

theorem convertTo_eq_ok_iff {types : List String} :
    convertTo t types = .ok (.ok w) ↔ firstSuccess t (rulesFor types) = .ok (some w) := by
  rw [convertTo]
  cases firstSuccess t (rulesFor types) with
  | error cause => simp [bind, Except.bind]
  | ok found => cases found <;> simp [bind, Except.bind, pure, Except.pure]

theorem convertTo_of_succeeds (type : TypeName) {rule : Rule} {rest : List Rule}
    (rules : type.rules = rule :: rest) (succeeds : rule.Succeeds t w) :
    convertTo t [type.name] = .ok (.ok w) := by
  rw [convertTo_eq_ok_iff, rulesFor_singleton, rules, ← List.singleton_append]
  exact firstSuccess_append_of_some (firstSuccess_singleton_of_succeeds succeeds) rest

theorem exists_first_type {types : List TypeName}
    (found : firstSuccess t (rulesFor (types.map TypeName.name)) = .ok (some w)) :
    ∃ before type after, types = before ++ type :: after ∧
      (∀ other ∈ before, ¬ other.Produces t) ∧ firstSuccess t type.rules = .ok (some w) := by
  induction types with
  | nil => cases found
  | cons type rest ih =>
    rw [List.map_cons, ← List.singleton_append, rulesFor_append, rulesFor_singleton] at found
    match own : firstSuccess t type.rules with
    | .error cause =>
      rw [firstSuccess_append_of_error own] at found
      cases found
    | .ok (some w') =>
      rw [firstSuccess_append_of_some own] at found
      cases found
      exact ⟨[], type, rest, rfl, List.forall_mem_nil _, own⟩
    | .ok none =>
      rw [firstSuccess_append_of_none own] at found
      obtain ⟨before, first, after, rfl, none, made⟩ := ih found
      have unproduced : ¬ type.Produces t := fun ⟨rule, mem, w', succeeds⟩ =>
        not_succeeds_of_firstSuccess own rule mem w' succeeds
      exact ⟨type :: before, first, after, rfl, List.forall_mem_cons.2 ⟨unproduced, none⟩, made⟩

/-! ### Values that are made -/

/-- A number that a rule makes is finite. -/
theorem Rule.exists_toRat?_of_convert {rule : Rule} {x : Number}
    (converts : rule.convert t = .ok (.ok (.number x))) : ∃ q, x.toRat? = some q := by
  cases rule with
  | numericTextToNumber =>
    change toNumber t = _ at converts
    cases t with
    | string s =>
      rcases readNumber_cases (toNumber_eq_ok_iff.1 converts) with
        ⟨n, -, -, -, rfl⟩ | ⟨y, -, finite, rfl⟩
      · exact ⟨_, rfl⟩
      · cases y with
        | nan | infinite => cases finite
        | finite => exact ⟨_, rfl⟩
    | _ => cases converts
  | numericTextToInteger =>
    obtain ⟨n, made⟩ := eq_int_of_toInteger converts
    cases made
    exact ⟨_, rfl⟩
  | numberToText =>
    obtain ⟨s, made⟩ := eq_string_of_toText converts
    cases made
  | numericToBool =>
    obtain ⟨b, made⟩ := eq_bool_of_numberToBool converts
    cases made
  | wordToBool =>
    obtain ⟨b, made⟩ := eq_bool_of_wordToTruth converts
    cases made
  | boolToNumber =>
    cases converts
    exact ⟨_, rfl⟩
  | _ => cases converts

/-! ### The stage for declared types -/

/-- The schema has the keyword, and it names these types. -/
def Members.DeclaresTypes (schema : Members) (types : List TypeName) : Prop :=
  schema.has "type" = true ∧ declaredTypes schema = .ok types

namespace Stage

variable {config : Config} {schema : Members} {types : List TypeName}

theorem checkType_of_declares (declares : schema.DeclaresTypes types) :
    checkType config schema = checkTypes config types := by
  obtain ⟨has, declared⟩ := declares
  rw [checkType, has, declared]
  rfl

theorem report_first (room : config.cap ≠ some 0) (node : Tree) (f : Finding) :
    report config f ⟨node, []⟩ = ⟨⟨node, [f]⟩,
      if config.mode = .collectAll ∧ config.cap ≠ some 1 then none else some .halted⟩ := by
  obtain ⟨mode, cap, coercing, options⟩ := config
  match mode, cap with
  | .failFast, _ => rfl
  | .collectAll, none => rfl
  | .collectAll, some 0 => exact absurd rfl room
  | .collectAll, some 1 => rfl
  | .collectAll, some (k + 2) => simp [report, Mode.add]

end Stage

/-- The finding that tells the kind of a node that has none of the declared types. -/
def Tree.kindFinding (v : Tree) : Finding :=
  ⟨.invalidType, .here, .key "type", s!"Invalid type: {v.kindText}", []⟩

namespace Stage

variable {config : Config} {types : List TypeName} {v : Tree}

section

variable (untyped : ∀ type ∈ types, v.hasType type = false) (coercing : config.coercing = true)

include untyped coercing

theorem checkTypes_of_untyped (held : List Finding) :
    checkTypes config types ⟨v, held⟩ = convertNode config types ⟨v, held⟩ := by
  refine checkTypes_of_coercing (ne_true_of_eq_false (List.any_eq_false.2 ?_)) coercing
  exact fun type mem => ne_true_of_eq_false (untyped type mem)

theorem checkTypes_of_converted {w : Tree}
    (converts : convertTo v (types.map TypeName.name) = .ok (.ok w)) (held : List Finding) :
    checkTypes config types ⟨v, held⟩ = ⟨⟨w, held⟩, none⟩ :=
  (checkTypes_of_untyped untyped coercing held).trans (convertNode_of_converted converts)

theorem checkTypes_of_refused {r : Refusal}
    (refuses : convertTo v (types.map TypeName.name) = .ok (.error r)) (held : List Finding) :
    checkTypes config types ⟨v, held⟩ = report config v.kindFinding ⟨v, held⟩ :=
  (checkTypes_of_untyped untyped coercing held).trans (convertNode_of_refused refuses)

end

end Stage

section

variable {config : Config} {schema : Members} {v : Tree} {p : Progress}

theorem run_of_checkType (goesOn : Stage.checkType config schema ⟨v, []⟩ = ⟨p, none⟩) :
    run config v (.object schema) = Stage.sequence (stages run config schema).tail p := by
  rw [run_object, stages, Stage.sequence_cons_of_none (by rw [goesOn]), goesOn]
  rfl

theorem run_of_checkType_halts
    (halts : Stage.checkType config schema ⟨v, []⟩ = ⟨p, some .halted⟩) :
    run config v (.object schema) = ⟨p, some .halted⟩ := by
  rw [run_object, stages, Stage.sequence_cons_of_some (by rw [halts]), halts]

end

/-! ### The result -/

/-- A value that has none of the declared types is converted to the first one that a rule makes of
it, to a finite number if to a number at all, and types added behind make no difference. The stage
for the declared types then goes on with what came out and tells nothing. If nothing comes out, it
tells the kind of the value and goes on with the value, except that the run is over if it wants no
second finding. -/
theorem convertTo_lands {v : Tree} {types : List TypeName}
    (untyped : ∀ type ∈ types, v.hasType type = false) :
    (∀ w, convertTo v (types.map TypeName.name) = .ok (.ok w) →
      (∃ before type after, types = before ++ type :: after ∧
        (∀ other ∈ before, ¬ other.Produces v) ∧ type.Produces v ∧ w.hasType type = true) ∧
      (∀ x, w = .number x → ∃ q, x.toRat? = some q) ∧
      (∀ more, convertTo v (types.map TypeName.name ++ more) = .ok (.ok w)) ∧
      ∀ (config : Config) (schema : Members), config.coercing = true →
        schema.DeclaresTypes types →
        Stage.checkType config schema ⟨v, []⟩ = ⟨⟨w, []⟩, none⟩ ∧
          run config v (.object schema) =
            Stage.sequence (stages run config schema).tail ⟨w, []⟩) ∧
    ∀ r, convertTo v (types.map TypeName.name) = .ok (.error r) →
      ∀ (config : Config) (schema : Members), config.coercing = true → config.cap ≠ some 0 →
        schema.DeclaresTypes types →
        (config.mode = .collectAll ∧ config.cap ≠ some 1 →
          Stage.checkType config schema ⟨v, []⟩ = ⟨⟨v, [v.kindFinding]⟩, none⟩ ∧
            run config v (.object schema) =
              Stage.sequence (stages run config schema).tail ⟨v, [v.kindFinding]⟩) ∧
        (¬ (config.mode = .collectAll ∧ config.cap ≠ some 1) →
          Stage.checkType config schema ⟨v, []⟩ = ⟨⟨v, [v.kindFinding]⟩, some .halted⟩ ∧
            run config v (.object schema) = ⟨⟨v, [v.kindFinding]⟩, some .halted⟩) := by
  refine ⟨fun w converts => ?_, fun r refuses config schema coercing room declares => ?_⟩
  · obtain ⟨before, type, after, rfl, none, made⟩ :=
      exists_first_type (convertTo_eq_ok_iff.1 converts)
    obtain ⟨rule, mem, accepts, makes⟩ := exists_rule_of_firstSuccess made
    refine ⟨⟨before, type, after, rfl, none, ⟨rule, mem, w, accepts, makes⟩,
      TypeName.hasType_of_convert mem makes⟩, ?_, fun more => ?_, ?_⟩
    · rintro x rfl
      exact Rule.exists_toRat?_of_convert makes
    · rw [convertTo_eq_ok_iff, rulesFor_append]
      exact firstSuccess_append_of_some (convertTo_eq_ok_iff.1 converts) _
    · intro config schema coercing declares
      have stage : Stage.checkType config schema ⟨v, []⟩ = ⟨⟨w, []⟩, Option.none⟩ := by
        rw [Stage.checkType_of_declares declares]
        exact Stage.checkTypes_of_converted untyped coercing converts []
      exact ⟨stage, run_of_checkType stage⟩
  · have stage : Stage.checkType config schema ⟨v, []⟩ = ⟨⟨v, [v.kindFinding]⟩,
        if config.mode = .collectAll ∧ config.cap ≠ some 1 then none else some .halted⟩ := by
      rw [Stage.checkType_of_declares declares,
        Stage.checkTypes_of_refused untyped coercing refuses]
      exact Stage.report_first room v v.kindFinding
    refine ⟨fun more => ?_, fun enough => ?_⟩
    · rw [if_pos more] at stage
      exact ⟨stage, run_of_checkType stage⟩
    · rw [if_neg enough] at stage
      exact ⟨stage, run_of_checkType_halts stage⟩

/-- The second type takes a text that the first one refuses, and neither takes a list. -/
theorem convertTo_lands_second :
    let schema : Members := [("type", .array [.string "integer", .string "number"])]
    (∃ x, convertTo (.string "2.5") ["integer", "number"] = .ok (.ok (.number x)) ∧
      Stage.checkType (.collecting .default true) schema ⟨.string "2.5", []⟩ =
        ⟨⟨.number x, []⟩, none⟩) ∧
    Stage.checkType (.collecting .default true) schema ⟨.array [], []⟩ =
      ⟨⟨.array [], [(Tree.array []).kindFinding]⟩, none⟩ := by
  intro schema
  have declares : schema.DeclaresTypes [.integer, .number] := ⟨rfl, rfl⟩
  have text : ∀ type ∈ [TypeName.integer, .number], (Tree.string "2.5").hasType type = false := by
    decide
  have list : ∀ type ∈ [TypeName.integer, .number], (Tree.array []).hasType type = false := by
    decide
  obtain ⟨-, -, -, stage⟩ := (convertTo_lands text).1 _ rfl
  refine ⟨⟨_, rfl, (stage (.collecting .default true) schema rfl declares).1⟩, ?_⟩
  have room : (Config.collecting .default true).cap ≠ some 0 := nofun
  have more := ((convertTo_lands list).2 _ rfl (.collecting .default true) schema rfl room declares).1
  exact (more ⟨rfl, nofun⟩).1

end TreeSchema
