import TreeSchema.Conversion

/-!
What the rules for text come to in terms of two readers, the one for numbers and the one for
doubles. A numeral with neither point nor power of ten is read as an integer, and a reader that
cannot do so refuses; any other text is read as a double, and a reader that cannot do that fails.
Both stumble over the separators, which are blanks that no reader skips.
-/

namespace TreeSchema

open Text

namespace Numeral

/-- A separator stands in the margins. -/
def isSeparated (n : Numeral) : Bool :=
  n.leading.any isSeparator || n.trailing.any isSeparator

variable {s : String} {n : Numeral}

theorem readDouble_of_separated (numeral : ofString? s = some n) (separated : n.isSeparated = true) :
    TreeSchema.readDouble s = .error (.notADouble (quoted s)) := by
  simp only [TreeSchema.readDouble, numeral, readDouble]
  exact if_pos separated

theorem readDouble_of_joined (numeral : ofString? s = some n) (joined : n.isSeparated = false) :
    TreeSchema.readDouble s = .ok n.decimal.toDouble := by
  simp only [TreeSchema.readDouble, numeral, readDouble]
  exact if_neg (ne_true_of_eq_false joined)

theorem readInteger_eq_ok_iff {i : Int} :
    n.readInteger s = .ok i ↔
      n.isSeparated = false ∧ n.whole.length ≤ digitLimit ∧ i = n.integer := by
  unfold readInteger isSeparated
  cases n.leading.any isSeparator with
  | true => simp
  | false =>
    by_cases long : digitLimit < n.whole.length
    · simp [long, Nat.not_le.2 long]
    · cases n.trailing.any isSeparator <;> simp [long, Nat.not_lt.1 long, eq_comm]

theorem readInteger_of_separated (separated : n.isSeparated = true) :
    ∃ cause, n.readInteger s = .error cause := by
  cases read : n.readInteger s with
  | error cause => exact ⟨cause, rfl⟩
  | ok i =>
    obtain ⟨joined, -⟩ := readInteger_eq_ok_iff.1 read
    exact absurd separated (ne_true_of_eq_false joined)

end Numeral

/-! ### Numbers in text -/

/-- A double as a number, unless it is not finite. -/
def finiteNumber (s : String) (x : Double) : Except Refusal Number :=
  if x.isFinite then .ok (.double x) else .error (.outOfRange (trimmed s))

theorem finiteNumber_eq_ok_iff {s : String} {x : Double} {y : Number} :
    finiteNumber s x = .ok y ↔ x.isFinite = true ∧ y = .double x := by
  unfold finiteNumber
  cases x.isFinite <;> simp [eq_comm]

variable {s : String}

theorem readNumber_of_isInteger {n : Numeral} (numeral : Numeral.ofString? s = some n)
    (plain : n.isInteger = true) :
    readNumber s = .ok (((n.readInteger s).mapError .unreadable).map .int) := by
  simp only [readNumber, numeral, if_pos plain]
  cases n.readInteger s <;> rfl

theorem readNumber_of_rounded
    (rounded : ∀ n, Numeral.ofString? s = some n → n.isInteger = false) :
    readNumber s = (readDouble s).map (finiteNumber s) := by
  have double : readNumber s = do
      let x ← readDouble s
      return if x.isFinite then .ok (.double x) else .error (.outOfRange (trimmed s)) := by
    cases numeral : Numeral.ofString? s with
    | none => simp only [readNumber, numeral]
    | some n => simp only [readNumber, numeral, rounded n numeral, Bool.false_eq_true, if_false]
  rw [double]
  cases readDouble s <;> rfl

theorem readNumber_of_fractional {n : Numeral} (numeral : Numeral.ofString? s = some n)
    (fractional : n.isInteger = false) : readNumber s = (readDouble s).map (finiteNumber s) := by
  refine readNumber_of_rounded fun m other => ?_
  obtain rfl : n = m := Option.some.inj (numeral.symm.trans other)
  exact fractional

/-- A number is read from text as the integer of a numeral, or as a finite double. -/
theorem readNumber_cases {x : Number} (read : readNumber s = .ok (.ok x)) :
    (∃ n, Numeral.ofString? s = some n ∧ n.isInteger = true ∧ n.isSeparated = false ∧
        x = .int n.integer) ∨
      ∃ y, readDouble s = .ok y ∧ y.isFinite = true ∧ x = .double y := by
  by_cases integer : ∃ n, Numeral.ofString? s = some n ∧ n.isInteger = true
  · obtain ⟨n, numeral, plain⟩ := integer
    rw [readNumber_of_isInteger numeral plain] at read
    cases known : n.readInteger s with
    | error cause =>
      rw [known] at read
      cases read
    | ok i =>
      rw [known] at read
      obtain ⟨joined, -, rfl⟩ := Numeral.readInteger_eq_ok_iff.1 known
      cases read
      exact .inl ⟨n, numeral, plain, joined, rfl⟩
  · have rounded (n : Numeral) (numeral : Numeral.ofString? s = some n) : n.isInteger = false :=
      eq_false_of_ne_true fun plain => integer ⟨n, numeral, plain⟩
    rw [readNumber_of_rounded rounded] at read
    cases known : readDouble s with
    | error cause =>
      rw [known] at read
      cases read
    | ok y =>
      rw [known] at read
      obtain ⟨finite, rfl⟩ := finiteNumber_eq_ok_iff.1 (Except.ok.inj read)
      exact .inr ⟨y, rfl, finite, rfl⟩

/-! ### Rules for text -/

namespace Rule

theorem toNumber_string : toNumber (.string s) = (readNumber s).map (·.map .number) := by
  rw [toNumber]
  cases readNumber s <;> rfl

theorem toNumber_eq_ok_iff {x : Number} :
    toNumber (.string s) = .ok (.ok (.number x)) ↔ readNumber s = .ok (.ok x) := by
  rw [toNumber_string]
  cases readNumber s with
  | error cause => simp [Except.map]
  | ok result => cases result <;> simp [Except.map]

/-- A number as an integer, if it is one. -/
def wholeNumber (s : String) (x : Number) : Except Refusal Tree :=
  if x.isIntegral then .ok (.number (.int x.toInt)) else .error (.notWhole (trimmed s))

theorem toInteger_string : toInteger (.string s) = (readNumber s).map (·.bind (wholeNumber s)) := by
  rw [toInteger]
  cases readNumber s with
  | error => rfl
  | ok r => cases r <;> rfl

/-- Both rules that make numbers of text go by the number the text stands for. -/
theorem exists_convert_eq_map {rule : Rule}
    (numeric : rule = .numericTextToNumber ∨ rule = .numericTextToInteger) (s : String) :
    ∃ make : Number → Except Refusal Tree,
      rule.convert (.string s) = (readNumber s).map (·.bind make) := by
  rcases numeric with rfl | rfl
  · refine ⟨fun x => .ok (.number x), toNumber_string.trans ?_⟩
    cases readNumber s with
    | error => rfl
    | ok result => cases result <;> rfl
  · exact ⟨wholeNumber s, toInteger_string⟩

theorem numberToBool_string :
    numberToBool (.string s) =
      (readDouble s).map fun x => .ok (.bool (!(Number.double x).isZero)) := by
  rw [numberToBool]
  cases readDouble s <;> rfl

end Rule

/-! ### Candidates among texts -/

/-- Words and the empty text are no numerals. -/
theorem Numeral.ofString?_word :
    ∀ s ∈ "" :: (Rule.trueWords ++ Rule.falseWords), Numeral.ofString? s = none := by
  decide

/-- A numeral is a candidate for the rules for numeric text, and for no others. -/
theorem Numeral.accepts_iff {n : Numeral} (numeral : Numeral.ofString? s = some n) {rule : Rule} :
    rule.accepts (.string s) = true ↔
      rule ∈ [Rule.numericTextToNumber, .numericTextToInteger, .numericToBool] := by
  have plain : s ∉ "" :: (Rule.trueWords ++ Rule.falseWords) := fun word =>
    nomatch (ofString?_word s word).symm.trans numeral
  simp only [List.mem_cons, List.mem_append, not_or] at plain
  obtain ⟨nonempty, notTrue, notFalse⟩ := plain
  cases rule <;>
    simp [Rule.accepts, Tree.isNumericText, Tree.isNumber, Tree.isNull, Tree.isEmptyText, Tree.kind,
      numeral, nonempty, notTrue, notFalse]

end TreeSchema
