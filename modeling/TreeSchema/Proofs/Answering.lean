import TreeSchema.Proofs.Landing

/-!
When a conversion has an answer. A rule converts each of its candidates or refuses it, with one
exception. Separators count as blanks, so a numeral with separators in its margins is a candidate,
but readers do not skip them: a reading as an integer is refused, and a reading as a double fails.
No rule succeeds on such a numeral, so a list of types fails on it as soon as one of its rules
reads a double.
-/

namespace TreeSchema

open Text

/-! ### Readings as a double -/

/-- The rule reads the numeral as a double. -/
def Rule.readsDouble (n : Numeral) : Rule → Bool
  | .numericToBool => true
  | .numericTextToNumber => !n.isInteger
  | .numericTextToInteger => !n.isInteger
  | _ => false

/-- The type has a rule that reads the numeral as a double. -/
def TypeName.readsDouble (n : Numeral) : TypeName → Bool
  | .boolean => true
  | .number => !n.isInteger
  | .integer => !n.isInteger
  | _ => false

theorem TypeName.exists_rule_readsDouble_iff {n : Numeral} {type : TypeName} :
    (∃ rule ∈ type.rules, rule.readsDouble n = true) ↔ type.readsDouble n = true := by
  cases type <;> simp [TypeName.rules, TypeName.readsDouble, Rule.readsDouble]

theorem mem_rulesFor_iff {rule : Rule} {types : List String} :
    rule ∈ rulesFor types ↔ ∃ type : TypeName, type.name ∈ types ∧ rule ∈ type.rules := by
  rw [rulesFor, List.mem_flatMap]
  constructor
  · rintro ⟨name, mem, among⟩
    cases known : TypeName.ofName? name with
    | none =>
      rw [known] at among
      cases among
    | some type =>
      rw [known] at among
      have same : type.name = name := by simpa using List.find?_some known
      exact ⟨type, same ▸ mem, among⟩
  · rintro ⟨type, mem, among⟩
    exact ⟨type.name, mem, by rwa [TypeName.ofName?_name]⟩

theorem any_readsDouble_iff {n : Numeral} {types : List String} :
    (rulesFor types).any (·.readsDouble n) = true ↔
      ∃ type : TypeName, type.name ∈ types ∧ type.readsDouble n = true := by
  simp only [List.any_eq_true, mem_rulesFor_iff, ← TypeName.exists_rule_readsDouble_iff]
  constructor
  · rintro ⟨rule, ⟨type, named, mem⟩, reads⟩
    exact ⟨type, named, rule, mem, reads⟩
  · rintro ⟨type, named, rule, mem, reads⟩
    exact ⟨rule, ⟨type, named, mem⟩, reads⟩

/-! ### Numerals with separators -/

section

variable {s : String} {n : Numeral} (numeral : Numeral.ofString? s = some n)

include numeral

theorem Numeral.accepts_of_readsDouble {rule : Rule} (reads : rule.readsDouble n = true) :
    rule.accepts (.string s) = true := by
  refine (Numeral.accepts_iff numeral).2 ?_
  cases rule with
  | numericTextToNumber | numericTextToInteger | numericToBool => simp
  | _ => cases reads

variable (separated : n.isSeparated = true)

include separated

theorem readNumber_refuses_of_separated (plain : n.isInteger = true) :
    ∃ r, readNumber s = .ok (.error r) := by
  obtain ⟨cause, refuses⟩ := Numeral.readInteger_of_separated (s := s) separated
  rw [readNumber_of_isInteger numeral plain, refuses]
  exact ⟨_, rfl⟩

theorem readNumber_fails_of_separated (fractional : n.isInteger = false) :
    readNumber s = .error (.notADouble (quoted s)) := by
  rw [readNumber_of_fractional numeral fractional,
    Numeral.readDouble_of_separated numeral separated]
  rfl

variable {rule : Rule}

theorem Rule.convert_fails_of_separated (reads : rule.readsDouble n = true) :
    rule.convert (.string s) = .error (.notADouble (quoted s)) := by
  have fails := readNumber_fails_of_separated numeral separated
  have reader := @exists_convert_eq_map rule
  cases rule with
  | numericTextToNumber | numericTextToInteger =>
    obtain ⟨make, converts⟩ := reader (by simp) s
    rw [converts, fails (by simpa [readsDouble] using reads)]
    rfl
  | numericToBool =>
    show Rule.numberToBool (.string s) = _
    rw [numberToBool_string, Numeral.readDouble_of_separated numeral separated]
    rfl
  | _ => cases reads

theorem Rule.convert_refuses_of_separated (accepts : rule.accepts (.string s) = true)
    (reads : rule.readsDouble n = false) : ∃ r, rule.convert (.string s) = .ok (.error r) := by
  have numeric := (Numeral.accepts_iff numeral).1 accepts
  have refusal := readNumber_refuses_of_separated numeral separated
  have reader := @exists_convert_eq_map rule
  cases rule with
  | numericTextToNumber | numericTextToInteger =>
    obtain ⟨make, converts⟩ := reader (by simp) s
    obtain ⟨r, refuses⟩ := refusal (by simpa [readsDouble] using reads)
    rw [converts, refuses]
    exact ⟨r, rfl⟩
  | numericToBool => cases reads
  | _ => simp at numeric

theorem firstSuccess_of_separated (rules : List Rule) :
    firstSuccess (.string s) rules =
      if rules.any (·.readsDouble n) then .error (.notADouble (quoted s)) else .ok none := by
  induction rules with
  | nil => rfl
  | cons rule rest ih =>
    rw [firstSuccess, List.any_cons]
    cases reads : rule.readsDouble n with
    | true =>
      rw [if_pos (Numeral.accepts_of_readsDouble numeral reads),
        Rule.convert_fails_of_separated numeral separated reads]
      rfl
    | false =>
      rw [Bool.false_or, ← ih]
      split
      · next accepts =>
        obtain ⟨r, refuses⟩ := Rule.convert_refuses_of_separated numeral separated accepts reads
        rw [refuses]
      · rfl

end

/-! ### Answers -/

section

variable {t : Tree}

/-- The value is a numeral with a separator in its margins, and what is said of it holds; the cause
is that a reader of doubles does not take it. -/
def Tree.Unreadable (reads : Numeral → Prop) (t : Tree) (cause : Failure) : Prop :=
  ∃ s n, t = .string s ∧ Numeral.ofString? s = some n ∧ n.isSeparated = true ∧ reads n ∧
    cause = .notADouble (quoted s)

theorem Tree.exists_numeral (numeric : t.isNumericText = true) :
    ∃ s n, t = .string s ∧ Numeral.ofString? s = some n := by
  cases t with
  | string s =>
    obtain ⟨n, numeral⟩ := Option.isSome_iff_exists.1 numeric
    exact ⟨s, n, rfl, numeral⟩
  | _ => cases numeric

theorem readNumber_answers {s : String} {n : Numeral} (numeral : Numeral.ofString? s = some n)
    (joined : n.isSeparated = false) : ∃ result, readNumber s = .ok result := by
  cases plain : n.isInteger with
  | true => exact ⟨_, readNumber_of_isInteger numeral plain⟩
  | false =>
    rw [readNumber_of_fractional numeral plain, Numeral.readDouble_of_joined numeral joined]
    exact ⟨_, rfl⟩

/-- A rule answers each candidate without separators. -/
theorem Rule.answers_of_joined {rule : Rule} (accepts : rule.accepts t = true)
    (joined : ∀ s n, t = .string s → Numeral.ofString? s = some n → n.isSeparated = false) :
    ∃ result, rule.convert t = .ok result := by
  have reader := @exists_convert_eq_map rule
  cases rule with
  | numericTextToNumber | numericTextToInteger =>
    obtain ⟨s, n, rfl, numeral⟩ := Tree.exists_numeral accepts
    obtain ⟨result, read⟩ := readNumber_answers numeral (joined s n rfl numeral)
    obtain ⟨make, converts⟩ := reader (by simp) s
    rw [converts, read]
    exact ⟨_, rfl⟩
  | numericToBool =>
    cases t with
    | string s =>
      obtain ⟨n, numeral⟩ := Option.isSome_iff_exists.1 (show (Numeral.ofString? s).isSome from accepts)
      show ∃ result, numberToBool (.string s) = .ok result
      rw [numberToBool_string, Numeral.readDouble_of_joined numeral (joined s n rfl numeral)]
      exact ⟨_, rfl⟩
    | _ => exact ⟨_, rfl⟩
  | numberToText =>
    show ∃ result, toText t = .ok result
    unfold toText
    split
    · exact ⟨_, rfl⟩
    · split
      · exact ⟨_, rfl⟩
      · exact ⟨_, rfl⟩
  | wordToBool =>
    cases t with
    | string s =>
      show ∃ result, wordToTruth (.string s) = .ok result
      rw [wordToTruth]
      split
      · exact ⟨_, rfl⟩
      · split
        · exact ⟨_, rfl⟩
        · exact ⟨_, rfl⟩
    | _ => cases accepts
  | _ => exact ⟨_, rfl⟩

theorem Rule.answers {rule : Rule} (accepts : rule.accepts t = true)
    (unread : ∀ s n, t = .string s → Numeral.ofString? s = some n → n.isSeparated = true →
      rule.readsDouble n = false) : ∃ result, rule.convert t = .ok result := by
  by_cases separated : ∃ s n, t = .string s ∧ Numeral.ofString? s = some n ∧ n.isSeparated = true
  · obtain ⟨s, n, rfl, numeral, separated⟩ := separated
    obtain ⟨r, refuses⟩ := Rule.convert_refuses_of_separated numeral separated accepts
      (unread s n rfl numeral separated)
    exact ⟨_, refuses⟩
  · refine Rule.answers_of_joined accepts fun s n same numeral => ?_
    exact eq_false_of_ne_true fun parted => separated ⟨s, n, same, numeral, parted⟩

theorem firstSuccess_answers {rules : List Rule}
    (answers : ∀ rule ∈ rules, rule.accepts t = true → ∃ result, rule.convert t = .ok result) :
    ∃ found, firstSuccess t rules = .ok found := by
  induction rules with
  | nil => exact ⟨_, rfl⟩
  | cons rule rest ih =>
    obtain ⟨found, later⟩ := ih fun other mem => answers other (List.mem_cons_of_mem _ mem)
    rw [firstSuccess, later]
    split
    · next accepts =>
      obtain ⟨result, answer⟩ := answers rule List.mem_cons_self accepts
      rw [answer]
      cases result with
      | error r => exact ⟨_, rfl⟩
      | ok w => exact ⟨_, rfl⟩
    · exact ⟨_, rfl⟩

theorem convertTo_eq_error_iff {types : List String} {cause : Failure} :
    convertTo t types = .error cause ↔ firstSuccess t (rulesFor types) = .error cause := by
  rw [convertTo]
  cases firstSuccess t (rulesFor types) with
  | error other => simp [bind, Except.bind]
  | ok found => cases found <;> simp [bind, Except.bind, pure, Except.pure]

/-- What fails on the numerals it reads past separators, and answers otherwise. -/
theorem Tree.fails_iff_unreadable {α : Type} {reads : Numeral → Prop} {answer : Except Failure α}
    (fails : ∀ s n, t = .string s → Numeral.ofString? s = some n → n.isSeparated = true → reads n →
      answer = .error (.notADouble (quoted s)))
    (answers : (∀ s n, t = .string s → Numeral.ofString? s = some n → n.isSeparated = true →
      ¬ reads n) → ∃ result, answer = .ok result) (cause : Failure) :
    answer = .error cause ↔ t.Unreadable reads cause := by
  constructor
  · intro failed
    by_cases unread : ∃ s n, t = .string s ∧ Numeral.ofString? s = some n ∧
        n.isSeparated = true ∧ reads n
    · obtain ⟨s, n, same, numeral, separated, holds⟩ := unread
      cases failed.symm.trans (fails s n same numeral separated holds)
      exact ⟨s, n, same, numeral, separated, holds, rfl⟩
    · obtain ⟨result, answered⟩ := answers fun s n same numeral separated holds =>
        unread ⟨s, n, same, numeral, separated, holds⟩
      exact nomatch failed.symm.trans answered
  · rintro ⟨s, n, same, numeral, separated, holds, rfl⟩
    exact fails s n same numeral separated holds

end

/-- Rules answer their candidates, and lists of types answer all values, except for numerals with
separators in their margins: there a rule fails exactly if it reads the numeral as a double, and
a list of types fails exactly if it names a type with such a rule. -/
theorem conversion_fails_iff (t : Tree) :
    (∀ rule : Rule, rule.accepts t = true → ∀ cause, rule.convert t = .error cause ↔
      t.Unreadable (fun n => rule.readsDouble n = true) cause) ∧
    ∀ (types : List String) (cause : Failure), convertTo t types = .error cause ↔
      t.Unreadable (fun n => ∃ type : TypeName, type.name ∈ types ∧ type.readsDouble n = true)
        cause := by
  refine ⟨fun rule accepts => Tree.fails_iff_unreadable ?_ fun unread => ?_,
    fun types cause => convertTo_eq_error_iff.trans
      (Tree.fails_iff_unreadable ?_ (fun unread => ?_) cause)⟩
  · rintro s n rfl numeral separated reads
    exact Rule.convert_fails_of_separated numeral separated reads
  · exact Rule.answers accepts fun s n same numeral separated =>
      eq_false_of_ne_true (unread s n same numeral separated)
  · rintro s n rfl numeral separated reads
    rw [firstSuccess_of_separated numeral separated, if_pos (any_readsDouble_iff.2 reads)]
  · refine firstSuccess_answers fun rule mem accepts => Rule.answers accepts ?_
    intro s n same numeral separated
    refine eq_false_of_ne_true fun reads => unread s n same numeral separated ?_
    exact any_readsDouble_iff.1 (List.any_eq_true.2 ⟨rule, mem, reads⟩)

/-- Behind a separator, an integer is refused and any other number fails. -/
theorem conversion_fails_iff_separated :
    Rule.accepts .numericTextToInteger (.string "\x1c25") = true ∧
      (∀ cause, Rule.convert .numericTextToInteger (.string "\x1c25") ≠ .error cause) ∧
      Rule.accepts .numericTextToInteger (.string "\x1c2.5") = true ∧
      Rule.convert .numericTextToInteger (.string "\x1c2.5") =
        .error (.notADouble (quoted "\x1c2.5")) ∧
      convertTo (.string "\x1c2.5") ["null", "integer"] =
        .error (.notADouble (quoted "\x1c2.5")) := by
  have plain := (conversion_fails_iff (.string "\x1c25")).1 .numericTextToInteger rfl
  obtain ⟨rules, lists⟩ := conversion_fails_iff (.string "\x1c2.5")
  refine ⟨rfl, fun cause fails => ?_, rfl, ?_, ?_⟩
  · obtain ⟨s, n, same, numeral, -, reads, -⟩ := (plain cause).1 fails
    cases same
    cases numeral
    cases reads
  · exact (rules .numericTextToInteger rfl _).2 ⟨_, _, rfl, rfl, rfl, rfl, rfl⟩
  · exact (lists _ _).2 ⟨_, _, rfl, rfl, rfl, ⟨.integer, by decide, rfl⟩, rfl⟩

/-- There are candidates that a rule has no answer for, so a list of types may have none. -/
theorem not_conversion_answers :
    ¬ ((∀ (rule : Rule) (t : Tree), rule.accepts t = true → ∃ result, rule.convert t = .ok result) ∧
      ∀ (t : Tree) (types : List String), ∃ result, convertTo t types = .ok result) := by
  rintro ⟨-, answers⟩
  obtain ⟨result, answered⟩ := answers (.string "\x1c4\x1f") ["boolean"]
  have fails : convertTo (.string "\x1c4\x1f") ["boolean"] =
      .error (.notADouble (quoted "\x1c4\x1f")) := rfl
  exact nomatch fails.symm.trans answered

end TreeSchema
