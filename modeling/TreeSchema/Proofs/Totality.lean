import TreeSchema.Proofs.Account
import TreeSchema.Proofs.Writing
import TreeSchema.Validator

/-!
When checking ends with an outcome or a fault. Short of that it fails, and there
are three reasons for it: a message that would tell an integer too long to be
written, a quotient with a number that is not finite, and a pattern whose reading
fails in a way that is no verdict on the pattern. Where none of them is given,
every checking run, in any mode and with any cap, ends as it should. The first
two are not seen to by the checks themselves, so that there are documents on
which checking fails.
-/

namespace TreeSchema

/-- The keywords whose values are told in messages. -/
def toldKeywords : List String :=
  ["minLength", "maxLength", "multipleOf", "minimum", "maximum", "minItems", "maxItems",
    "minProperties", "maxProperties", "patternFlags"]

theorem Constraint.keyword_mem_toldKeywords {x : Constraint} {limit : Tree}
    (sets : x.limit? = some limit) : x.keyword ∈ toldKeywords := by
  cases x with
  | among | pattern | uniqueItems => cases sets
  | _ => simp [keyword, toldKeywords]

/-- Nothing about the schema makes checking the data fail: what is told is short, quotients are
taken of finite numbers, and patterns are read or refused. -/
structure Tractable (data : Tree) (s : Members) : Prop where
  told : ∀ keyword ∈ toldKeywords, ∀ t, s.get? keyword = some t → t.EachNumber Number.Short
  quotients : ∀ divisor, s.get? "multipleOf" = some (.number divisor) →
    divisor.isFinite = true ∧ data.EachNumber (·.isFinite = true)
  textPattern : ∀ text letters, s.get? "pattern" = some (.string text) →
    Constraint.patternLetters s = .ok letters → ∃ read, Pattern.compile text letters = .ok read
  memberPatterns : ∀ entries, s.get? "patternProperties" = some (.object entries) →
    ∀ m ∈ entries, ∃ read, Pattern.compile m.1 "" = .ok read

theorem Tractable.part {data u : Tree} {s : Members} (h : Tractable data s)
    (numbers : data.EachNumber (·.isFinite = true) → u.EachNumber (·.isFinite = true)) :
    Tractable u s :=
  { h with quotients := fun divisor found => (h.quotients divisor found).imp_right numbers }

theorem Tree.inherited_eachNumber (P : Number → Prop) : Inherited (EachNumber P) where
  item all mem := eachNumber_array_iff.1 all _ mem
  member all mem := eachNumber_object_iff.1 all _ mem
  filter _ all := eachNumber_object_iff.2 fun m mem =>
    eachNumber_object_iff.1 all m (List.mem_filter.1 mem).1

/-! ### Runs -/

section

variable {mode : Mode} {cap : Option Nat} {options : Options} {s : Members} {d n : Tree}

theorem Arises.finding_eq_ok {config : Config} {v : Violation} (h : Tractable d s)
    (arises : Arises config s n v) : ∃ f, v.finding = .ok f := by
  refine Violation.finding_eq_ok fun limit sets => ?_
  cases arises with
  | constraint stated judged =>
    rw [(Constraint.eq_of_judge judged).2.2.2] at sets
    rcases stated with ⟨choices, -, rfl⟩ | declared
    · cases sets
    · exact h.told _ (Constraint.keyword_mem_toldKeywords sets) limit (declared.get? sets)
  | _ => cases sets

theorem Tractable.judge_ne_error {x : Constraint} {cause : Failure} (h : Tractable d s)
    (met : Met options s d n) (stated : x.Stated s) : x.judge n ≠ .error cause := by
  intro fails
  obtain ⟨divisor, m, rfl, rfl, undecided⟩ := Constraint.eq_multipleOf_of_judge fails
  rcases stated with ⟨choices, -, eq⟩ | declared
  · cases eq
  · obtain ⟨finite, numbers⟩ := h.quotients divisor (declared.get? rfl)
    replace numbers := (Tree.inherited_eachNumber _).of_met numbers met
    obtain ⟨b, decided⟩ := Number.isMultiple_eq_ok numbers finite
    cases undecided.symm.trans decided

/-- Reading the schema ends with a fault at most. -/
theorem Tractable.exists_fault {i : Interruption} (h : Tractable d s) (misread : Misread s i) :
    ∃ f, i = .fault f := by
  cases misread with
  | keyword | entry => exact ⟨_, rfl⟩
  | memberPattern found mem fails =>
    obtain ⟨read, compiles⟩ := h.memberPatterns _ found _ mem
    cases compiles.symm.trans fails
  | textPattern found flags fails =>
    obtain ⟨read, compiles⟩ := h.textPattern _ _ found flags
    cases compiles.symm.trans fails
  | flags found fails =>
    obtain ⟨text, shows⟩ := Tree.shown_eq_ok _ (h.told "patternFlags" (by decide) _ found)
    cases shows.symm.trans fails

end

/-- A checking run is interrupted by faults only. -/
theorem exists_fault_of_run {mode : Mode} {cap : Option Nat} {options : Options} (schema : Tree) :
    ∀ {d : Tree}, Everywhere (Tractable d) schema → ∀ {i : Interruption},
      (run (.checking mode cap options) d schema).interruption? = some i → ∃ f, i = .fault f := by
  induction schema using schema_induction with
  | object s parts =>
    intro d tractable i stops
    have inherited := Tree.inherited_eachNumber (·.isFinite = true)
    -- A part is run on a smaller part of the data against a schema inside this one.
    have below {n u t : Tree} {j : Interruption} (met : Met options s d n) (sub : SubSchema s t)
        (numbers : n.EachNumber (·.isFinite = true) → u.EachNumber (·.isFinite = true))
        (stops : (run (.checking mode cap options) u t).interruption? = some j) :
        ∃ f, j = .fault f :=
      parts t sub (fun m pos => ((tractable.inside sub) m pos).part
        fun all => numbers (inherited.of_met all met)) stops
    cases (run_accounts (Met.upholds mode cap options s d) (.inl rfl)).2.2 i stops with
    | misread misread => exact tractable.here.exists_fault misread
    | unjudged met stated fails => exact absurd fails (tractable.here.judge_ne_error met stated)
    | untold met arises fails =>
      obtain ⟨f, told⟩ := arises.finding_eq_ok tractable.here
      cases told.symm.trans fails
    | unconverted coercing | unfilled coercing => cases coercing
    | part met applies ends =>
      obtain ⟨f, rfl⟩ := below met applies.subSchema
        (fun all => inherited.of_applies all applies) ends
      exact ⟨_, rfl⟩
    | negated met found ends =>
      obtain ⟨f, rfl⟩ := below met (.negated found) id ends
      exact ⟨_, rfl⟩
  | other t other =>
    intro d _ i stops
    rw [run_of_not_object other] at stops
    cases stops
    exact ⟨_, rfl⟩

/-- Checking ends with an outcome or with a fault in the schema. -/
theorem validate_ends {schema data : Tree} (tractable : Everywhere (Tractable data) schema)
    (options : Options) (cap : Option Nat) (mode : Mode) :
    (∃ o, Validator.validate ⟨schema, options, cap⟩ data mode = .ok o) ∨
      ∃ f, Validator.validate ⟨schema, options, cap⟩ data mode = .error (.fault f) := by
  cases ended : Validator.validate ⟨schema, options, cap⟩ data mode with
  | ok o => exact .inl ⟨o, rfl⟩
  | error i =>
    obtain ⟨f, rfl⟩ := exists_fault_of_run schema tractable (Validator.outcome_eq_error_iff.1 ended)
    exact .inr ⟨f, rfl⟩

/-- Multiples of one half that are not small, and texts with a letter. -/
def measureSchema : Tree :=
  .object [("items", .object [("multipleOf", .number (.double (.round false 1 2))),
    ("minimum", .number (.int 3)), ("pattern", .string "a+")])]

def measures : Tree :=
  .array [.number (.double (.round false 5 2)), .string "b"]

theorem validate_ends_measures :
    Everywhere (Tractable measures) measureSchema ∧
      ((∃ o, Validator.validate ⟨measureSchema, .default, none⟩ measures .collectAll = .ok o) ∨
        ∃ f, Validator.validate ⟨measureSchema, .default, none⟩ measures .collectAll =
          .error (.fault f)) := by
  have leaf : Tractable measures [("multipleOf", .number (.double (.round false 1 2))),
      ("minimum", .number (.int 3)), ("pattern", .string "a+")] := by
    have double : (Number.double (.round false 1 2)).Short := trivial
    have integer : (Number.int 3).Short := Nat.le_of_ble_eq_true rfl
    refine ⟨by simp [toldKeywords, Members.get?, Tree.EachNumber, double, integer], ?_, ?_,
      by simp [Members.get?]⟩
    · rintro _ ⟨⟩
      exact ⟨rfl, rfl, trivial, trivial⟩
    · rintro _ _ ⟨⟩ ⟨⟩
      exact ⟨_, rfl⟩
  have root : Tractable measures [("items", .object [
      ("multipleOf", .number (.double (.round false 1 2))), ("minimum", .number (.int 3)),
      ("pattern", .string "a+")])] :=
    ⟨by simp [toldKeywords, Members.get?], by simp [Members.get?], by simp [Members.get?],
      by simp [Members.get?]⟩
  have tractable : Everywhere (Tractable measures) measureSchema :=
    Everywhere.object_iff.2 ⟨root, List.forall_mem_singleton.2
      (Everywhere.object_iff.2 ⟨leaf, List.forall_mem_nil _⟩)⟩
  exact ⟨tractable, validate_ends tractable .default none .collectAll⟩

/-- There is no quotient of a number that is not finite, and nothing keeps it from being asked for,
in the data or in the schema. -/
theorem validate_fails :
    (∀ mode, Validator.validate ⟨.object [("multipleOf", .number (.int 1))], .default, none⟩
      (.number (.double (.infinite false))) mode = .error (.failure .infiniteRatio)) ∧
    (∀ mode, Validator.validate ⟨.object [("multipleOf", .number (.int 1))], .default, none⟩
      (.number (.double .nan)) mode = .error (.failure .undefinedRatio)) ∧
    ∀ mode, Validator.validate ⟨.object [("multipleOf", .number (.double .nan))], .default, none⟩
      (.number (.int 1)) mode = .error (.failure .undefinedRatio) :=
  ⟨fun mode => by cases mode <;> rfl, fun mode => by cases mode <;> rfl,
    fun mode => by cases mode <;> rfl⟩

end TreeSchema
