import TreeSchema.Proofs.Sparing
import TreeSchema.Validator

/-!
What coercion does to data that conforms: nothing, as long as no branch of an
alternative that checking rejects comes to pass by coercion. Without alternatives
there is no such branch. With them there may be one, and then a value that
conforms can be refused: a branch that only passes by coercion is one too many
for `oneOf`, and one that only converted data gets to read may be malformed.
-/

namespace TreeSchema

/-! ### Where schemas are applied -/

/-- `t` stands in the schema at a place that is not inside what a schema prohibits. -/
inductive Affirmed (root : Tree) : Tree → Prop where
  | here : Affirmed root root
  | inside {s : Members} {t : Tree} (above : Affirmed root (.object s))
      (sub : SubSchema (s.erase "not") t) : Affirmed root t

namespace Affirmed

theorem of_sub {s : Members} {t u : Tree} (sub : SubSchema (s.erase "not") t)
    (h : Affirmed t u) : Affirmed (.object s) u := by
  induction h with
  | here => exact .inside .here sub
  | inside _ sub' ih => exact .inside ih sub'

theorem eq_or_below {s : Members} {u : Tree} (h : Affirmed (.object s) u) :
    u = .object s ∨ ∃ t, SubSchema (s.erase "not") t ∧ Affirmed t u := by
  induction h with
  | here => exact .inl rfl
  | @inside s' u above sub ih =>
    rcases ih with eq | ⟨t, sub', below⟩
    · cases eq
      exact .inr ⟨u, sub, .here⟩
    · exact .inr ⟨t, sub', .inside below sub⟩

theorem forall_object_iff {P : Members → Prop} {s : Members} :
    (∀ u, Affirmed (.object s) (.object u) → P u) ↔
      P s ∧ ∀ t ∈ Members.subSchemas (s.erase "not"), ∀ u, Affirmed t (.object u) → P u := by
  refine ⟨fun h => ⟨h s .here, fun t mem u below => h u (.of_sub (mem_subSchemas_iff.1 mem) below)⟩,
    ?_⟩
  rintro ⟨self, parts⟩ u affirmed
  rcases affirmed.eq_or_below with eq | ⟨t, sub, below⟩
  · cases eq
    exact self
  · exact parts t (mem_subSchemas_iff.2 sub) u below

end Affirmed

theorem Applies.affirms {s : Members} {node u t : Tree} {place : Tree → Tree} {data path : Pointer}
    (h : Applies s node u t place data path) : SubSchema (s.erase "not") t := by
  have kept {name : String} (other : name ≠ "not") : (s.erase "not").get? name = s.get? name := by
    rw [Members.get?_erase, if_neg other.symm]
  cases h with
  | property found mem => exact .property ((kept (by decide)).trans found) mem
  | pattern found mem => exact .pattern ((kept (by decide)).trans found) mem
  | additional found => exact .additional ((kept (by decide)).trans found)
  | dependency found mem => exact .dependency ((kept (by decide)).trans found) mem
  | items found => exact .items ((kept (by decide)).trans found)
  | place found place =>
    exact .place ((kept (by decide)).trans found) (List.mem_of_getElem? place)
  | additionalItem _ _ beyond => exact .additionalItem ((kept (by decide)).trans beyond)
  | branch combines found place =>
    have other : "not" ∉ branchKeywords := by decide
    exact .branch combines ((kept fun eq => other (eq ▸ combines)).trans found)
      (List.mem_of_getElem? place)

/-- Checking `data` against `schema` comes to check `node` against `t` and accepts it, and all that
it is part of on the way. Behind the first branch of `anyOf` that passes it comes to none. -/
inductive Accepted (options : Options) (data schema : Tree) : (node t : Tree) → Prop where
  | here (passes : (run (.collecting options false) data schema).passes = true) :
      Accepted options data schema data schema
  | part {node u t : Tree} {s : Members} {place : Tree → Tree} {dataPath path : Pointer}
      (above : Accepted options data schema node (.object s))
      (applies : AppliesBy ["allOf", "oneOf"] s node u t place dataPath path)
      (passes : (run (.collecting options false) u t).passes = true) :
      Accepted options data schema u t
  | chosen {node t : Tree} {s : Members} {schemas : List Tree}
      (above : Accepted options data schema node (.object s))
      (found : s.get? "anyOf" = some (.array schemas))
      (first : t ∈ Stage.hit (run (.collecting options false) node) true schemas) :
      Accepted options data schema node t

namespace Accepted

variable {options : Options} {data schema node t : Tree}

theorem trans {u t' : Tree} (above : Accepted options data schema node t)
    (h : Accepted options node t u t') : Accepted options data schema u t' := by
  induction h with
  | here => exact above
  | part _ applies passes ih => exact .part ih applies passes
  | chosen _ found first ih => exact .chosen ih found first

theorem affirmed (h : Accepted options data schema node t) : Affirmed schema t := by
  induction h with
  | here => exact .here
  | part _ applies _ ih => exact .inside ih (applies.applies (by decide)).affirms
  | @chosen node t s schemas _ found first ih =>
    obtain ⟨index, place⟩ := List.mem_iff_getElem?.1 (Stage.mem_of_mem_hit first).1
    have applies : Applies s node node t id .here (Stage.branchPath "anyOf" index) :=
      .branch (by decide) found place
    exact .inside ih applies.affirms

end Accepted

/-! ### Alternatives -/

/-- Coercion does not change which alternatives of the schema the node passes: every branch that is
tried and that checking rejects is rejected when coerced, too. -/
structure Steady (options : Options) (node : Tree) (s : Members) : Prop where
  anyOf : ∀ schemas, s.get? "anyOf" = some (.array schemas) →
    ∀ t ∈ Stage.missed (run (.collecting options false) node) true schemas,
      (run (.collecting options true) node t).Rejects
  oneOf : ∀ schemas, s.get? "oneOf" = some (.array schemas) →
    ∀ t ∈ Stage.missed (run (.collecting options false) node) false schemas,
      (run (.collecting options true) node t).Rejects

theorem Steady.of_absent (options : Options) (node : Tree) {s : Members}
    (any : s.get? "anyOf" = none) (one : s.get? "oneOf" = none) : Steady options node s where
  anyOf _ found := nomatch any.symm.trans found
  oneOf _ found := nomatch one.symm.trans found

/-- Coercion leaves data that checking accepts, where all alternatives on the way are steady. -/
theorem run_spared {options : Options} (fillsNone : options.setMissingToDefault = false)
    (countsAll : options.ignoreNullProperties = false) (schema : Tree) :
    ∀ data, (∀ node s, Accepted options data schema node (.object s) → Steady options node s) →
      Spared run options data schema := by
  induction schema using schema_induction with
  | object s parts =>
    intro data steady passes
    have here := steady data s (.here passes)
    -- What checking comes to from a part, it comes to from the whole.
    have spared {u t : Tree} (sub : SubSchema s t)
        (comes : (run (.collecting options false) u t).passes = true →
          Accepted options data (.object s) u t) : Spared run options u t :=
      fun passes' => parts t sub u
        (fun node m accepted => steady node m ((comes passes').trans accepted)) passes'
    have chosen (schemas : List Tree) (found : s.get? "anyOf" = some (.array schemas)) (t : Tree)
        (first : t ∈ Stage.hit (run (.collecting options false) data) true schemas) :
        Spared run options data t :=
      spared (.branch (by decide) found (Stage.mem_of_mem_hit first).1)
        fun _ => .chosen (.here passes) found first
    have walk := Stage.Spares.walk fillsNone countsAll
      (fun applies => spared (applies.applies (by decide)).subSchema
        (.part (.here passes) applies)) chosen here.anyOf here.oneOf
    rw [run_object] at passes
    obtain ⟨-, -, coerced⟩ := walk.stages.spares [] passes
    rw [run_object, coerced]
    exact ⟨rfl, rfl⟩
  | other t other =>
    intro data _ passes
    rw [run_of_not_object other] at passes
    cases passes

/-- The outcomes behind a run that is spared. -/
theorem coerce_of_spared {schema : Tree} {options : Options} {data : Tree} {o : Outcome}
    (spared : Spared run options data schema)
    (checked : Validator.validate ⟨schema, options, none⟩ data .collectAll = .ok o)
    (valid : o.isValid = true) :
    ∃ c, Validator.coerce ⟨schema, options, none⟩ data .collectAll = .ok c ∧ c.isValid = true ∧
      c.value? = some data := by
  obtain ⟨ends, rfl⟩ := Validator.outcome_eq_ok_iff.1 checked
  obtain ⟨passes, same⟩ := spared ((Run.passes_iff _).2 ⟨ends, (Outcome.isValid_iff _).1 valid⟩)
  obtain ⟨ends', clean⟩ := (Run.passes_iff _).1 passes
  exact ⟨_, Validator.outcome_eq_ok_iff.2 ⟨ends', rfl⟩, (Outcome.isValid_iff _).2 clean,
    Outcome.value?_eq_some_iff.2 ⟨rfl, clean, same⟩⟩

/-- Coercion accepts what checking accepts, and leaves it, as long as it changes nothing about the
alternatives that are met on the way. -/
theorem coerce_valid_of_steady {schema data : Tree} {o : Outcome}
    (checked : Validator.validate ⟨schema, .default, none⟩ data .collectAll = .ok o)
    (valid : o.isValid = true)
    (steady : ∀ node s, Accepted .default data schema node (.object s) → Steady .default node s) :
    ∃ c, Validator.coerce ⟨schema, .default, none⟩ data .collectAll = .ok c ∧ c.isValid = true ∧
      c.value? = some data :=
  coerce_of_spared (run_spared rfl rfl schema data steady) checked valid

/-- Numbers or texts, one of both. -/
def digitsSchema : Tree :=
  .object [("oneOf", .array [.object [("type", .string "integer")],
    .object [("type", .string "string")]])]

/-- Nothing, or a text, or else a choice. -/
def textFirstSchema : Tree :=
  .object [("anyOf", .array [.object [("type", .string "null")],
    .object [("type", .string "string")], digitsSchema])]

/-- A text of digits is accepted as a text, before the choice that coercion would change is tried. -/
theorem coerce_valid_of_steady_digits :
    ∃ o c, Validator.validate ⟨textFirstSchema, .default, none⟩ (.string "5") .collectAll = .ok o ∧
      o.isValid = true ∧
      Validator.coerce ⟨textFirstSchema, .default, none⟩ (.string "5") .collectAll = .ok c ∧
      c.isValid = true ∧ c.value? = some (.string "5") := by
  have met (node t : Tree) (accepted : Accepted .default (.string "5") textFirstSchema node t) :
      node = .string "5" ∧ (t = textFirstSchema ∨ t = .object [("type", .string "string")]) := by
    induction accepted with
    | here => exact ⟨rfl, .inl rfl⟩
    | part _ applies _ ih =>
      -- Neither schema has a keyword that goes on to a part.
      obtain ⟨rfl, same | same⟩ := ih
      all_goals
        cases same
        cases applies with
        | branch combines found =>
          simp only [List.mem_cons, List.not_mem_nil, or_false] at combines
          rcases combines with rfl | rfl <;> cases found
        | property found | pattern found | additional found | dependency found | items found
        | place found | additionalItem found => cases found
    | chosen _ found first ih =>
      obtain ⟨rfl, same | same⟩ := ih
      · cases same
        cases found
        exact ⟨rfl, .inr (List.mem_singleton.1 first)⟩
      · cases same
        cases found
  have steady (node : Tree) (s : Members)
      (accepted : Accepted .default (.string "5") textFirstSchema node (.object s)) :
      Steady .default node s := by
    obtain ⟨rfl, same | same⟩ := met node _ accepted
    · cases same
      refine ⟨?_, nofun⟩
      rintro _ ⟨⟩ t mem
      cases List.mem_singleton.1 mem
      exact ⟨rfl, rfl⟩
    · cases same
      exact .of_absent .default _ rfl rfl
  have checked : Validator.validate ⟨textFirstSchema, .default, none⟩ (.string "5") .collectAll =
      .ok ⟨.collectAll, [], .string "5", false⟩ := rfl
  obtain ⟨c, coerced, accepted, same⟩ := coerce_valid_of_steady checked rfl steady
  exact ⟨_, c, checked, rfl, coerced, accepted, same⟩

/-- Numbers or texts, and not a number. -/
def unnumberedSchema : Tree :=
  .object [("anyOf", .array [.object [("type", .string "integer")],
    .object [("type", .string "string")]]), ("not", .object [("type", .string "integer")])]

/-- Large numbers, badly said, or texts. -/
def misstatedSchema : Tree :=
  .object [("anyOf", .array [.object [("type", .string "integer"), ("minimum", .string "x")],
    .object [("type", .string "string")]])]

/-- A text of digits conforms as a text. Coerced, it passes as a number, too, so that two branches
pass, or the number is adopted and prohibited, or the branch for numbers is read on to where it is
malformed. -/
theorem coerce_refuses_valid :
    (∃ o c, Validator.validate ⟨digitsSchema, .default, none⟩ (.string "5") .collectAll = .ok o ∧
      o.isValid = true ∧
      Validator.coerce ⟨digitsSchema, .default, none⟩ (.string "5") .collectAll = .ok c ∧
      c.codes = [.oneOfMultiple]) ∧
    (∃ o c, Validator.validate ⟨unnumberedSchema, .default, none⟩ (.string "5") .collectAll =
        .ok o ∧
      o.isValid = true ∧
      Validator.coerce ⟨unnumberedSchema, .default, none⟩ (.string "5") .collectAll = .ok c ∧
      c.codes = [.notPassed]) ∧
    ∃ o, Validator.validate ⟨misstatedSchema, .default, none⟩ (.string "5") .collectAll = .ok o ∧
      o.isValid = true ∧
      Validator.coerce ⟨misstatedSchema, .default, none⟩ (.string "5") .collectAll =
        .error (.fault ⟨.ofSegments [.key "anyOf", .index 0, .key "minimum"], .limit "minimum"⟩) :=
  ⟨⟨_, _, rfl, rfl, rfl, rfl⟩, ⟨_, _, rfl, rfl, rfl, rfl⟩, _, rfl, rfl, rfl⟩

/-- Coercion leaves conforming data alone under a schema without alternatives, what it prohibits
aside. -/
theorem coerce_eq_of_valid {schema data : Tree} {options : Options} {o : Outcome}
    (plain : ∀ s : Members, Affirmed schema (.object s) →
      s.get? "anyOf" = none ∧ s.get? "oneOf" = none)
    (fillsNone : options.setMissingToDefault = false)
    (countsAll : options.ignoreNullProperties = false)
    (checked : Validator.validate ⟨schema, options, none⟩ data .collectAll = .ok o)
    (valid : o.isValid = true) :
    ∃ c, Validator.coerce ⟨schema, options, none⟩ data .collectAll = .ok c ∧ c.isValid = true ∧
      c.value? = some data := by
  refine coerce_of_spared (run_spared fillsNone countsAll schema data fun node s accepted => ?_)
    checked valid
  obtain ⟨any, one⟩ := plain s accepted.affirmed
  exact .of_absent options node any one

/-- Objects with a number under a key, and other members as long as no choice of them is met. -/
def namedSchema : Tree :=
  .object [("allOf", .array [.object [("required", .array [.string "n"])],
      .object [("additionalProperties", .object [("type", .string "number")])]]),
    ("dependencies", .object [("m", .string "n")]),
    ("not", .object [("anyOf", .array [.object [("required", .array [.string "x"])]])])]

def named : Tree :=
  .object [("n", .number (.int 1)), ("m", .number (.int 2))]

/-- Members keep their order and their values. -/
theorem coerce_eq_of_valid_named :
    ∃ o c, Validator.validate ⟨namedSchema, ⟨true, false, false⟩, none⟩ named .collectAll = .ok o ∧
      o.isValid = true ∧
      Validator.coerce ⟨namedSchema, ⟨true, false, false⟩, none⟩ named .collectAll = .ok c ∧
      c.isValid = true ∧ c.value? = some named := by
  have leaf : ∀ s : Members, Affirmed (.object [("type", .string "number")]) (.object s) →
      s.get? "anyOf" = none ∧ s.get? "oneOf" = none :=
    Affirmed.forall_object_iff.2 ⟨⟨rfl, rfl⟩, nofun⟩
  have plain : ∀ s : Members, Affirmed namedSchema (.object s) →
      s.get? "anyOf" = none ∧ s.get? "oneOf" = none :=
    Affirmed.forall_object_iff.2 ⟨⟨rfl, rfl⟩, List.forall_mem_cons.2
      ⟨Affirmed.forall_object_iff.2 ⟨⟨rfl, rfl⟩, nofun⟩, List.forall_mem_singleton.2
        (Affirmed.forall_object_iff.2 ⟨⟨rfl, rfl⟩, List.forall_mem_singleton.2 leaf⟩)⟩⟩
  have checked : Validator.validate ⟨namedSchema, ⟨true, false, false⟩, none⟩ named .collectAll =
      .ok ⟨.collectAll, [], named, false⟩ := rfl
  obtain ⟨c, coerced, accepted, same⟩ := coerce_eq_of_valid plain rfl rfl checked rfl
  exact ⟨_, c, checked, rfl, coerced, accepted, same⟩

end TreeSchema
