import TreeSchema.Conversion.Reading
import TreeSchema.Proofs.Numerals

/-!
Numerals as they are written: a sign, digits, and perhaps more digits after a point and a power of
ten. Such a text is read back as the numeral, part by part, since what a part begins with is
never a digit. Both layouts of a decimal write a numeral of this form, one that has
the decimal's value.
-/

namespace TreeSchema

open Text

/-! ### Digits -/

def IsDecimal (cs : List Char) : Prop :=
  ∀ c ∈ cs, c.isDigit = true

namespace Text

variable {c : Char}

theorem digit?_of_isDigit (ascii : c.isDigit = true) : digit? c = some (c.toNat - '0'.toNat) := by
  obtain ⟨least, most⟩ := Char.isDigit_iff_toNat.1 ascii
  have row : digitZeros.find? (fun z => z ≤ c.toNat && c.toNat < z + 10) = some '0'.toNat := by
    refine List.find?_cons_of_pos ?_
    rw [Bool.and_eq_true, decide_eq_true_eq, decide_eq_true_eq]
    exact ⟨least, Nat.lt_succ_of_le most⟩
  rw [digit?, row, Option.map_some]

theorem isBlank_of_isDigit (ascii : c.isDigit = true) : isBlank c = false := by
  obtain ⟨least, most⟩ := Char.isDigit_iff_toNat.1 ascii
  have space : c ≠ ' ' := fun same => absurd ascii (by rw [same]; decide)
  simp only [Char.reduceToNat] at least most
  simp only [isBlank, isAsciiBlank, isSeparator, wideBlanks]
  simp [space]
  omega

theorem foldl_zeros (a k : ℕ) :
    (List.replicate k '0').foldl (fun n c => 10 * n + (digit? c).getD 0) a = a * 10 ^ k := by
  induction k generalizing a with
  | zero => simp
  | succ k ih =>
    rw [List.replicate_succ, List.foldl_cons, digit?_zero, ih, pow_succ']
    simp only [Option.getD_some, add_zero]
    ring

theorem digitsValue_append_zeros (cs : List Char) (k : ℕ) :
    digitsValue (cs ++ List.replicate k '0') = digitsValue cs * 10 ^ k := by
  rw [digitsValue, List.foldl_append, foldl_zeros, digitsValue]

theorem digitsValue_zeros_append (cs : List Char) (k : ℕ) :
    digitsValue (List.replicate k '0' ++ cs) = digitsValue cs := by
  rw [digitsValue, List.foldl_append, foldl_zeros, zero_mul, digitsValue]

end Text

theorem isDecimal_replicate (k : ℕ) : IsDecimal (List.replicate k '0') := by
  intro c mem
  rw [List.eq_of_mem_replicate mem]
  decide

theorem IsDecimal.append {xs ys : List Char} (left : IsDecimal xs) (right : IsDecimal ys) :
    IsDecimal (xs ++ ys) :=
  List.forall_mem_append.2 ⟨left, right⟩

theorem IsDecimal.take {cs : List Char} (decimal : IsDecimal cs) (k : ℕ) : IsDecimal (cs.take k) :=
  fun c mem => decimal c (List.mem_of_mem_take mem)

theorem IsDecimal.drop {cs : List Char} (decimal : IsDecimal cs) (k : ℕ) : IsDecimal (cs.drop k) :=
  fun c mem => decimal c (List.mem_of_mem_drop mem)

section

variable (n : ℕ)

theorem digitsOf_eq : digitsOf n = Nat.toDigits 10 n :=
  Nat.toList_repr

theorem isDecimal_digitsOf : IsDecimal (digitsOf n) := by
  rw [digitsOf_eq]
  exact fun c mem => Nat.isDigit_of_mem_toDigits (by decide) (by decide) mem

theorem digitsOf_ne_nil : digitsOf n ≠ [] := by
  rw [digitsOf_eq]
  exact List.ne_nil_of_length_pos Nat.length_toDigits_pos

theorem length_digitsOf : (digitsOf n).length = digitCount n :=
  String.length_toList

theorem digitsValue_digitsOf : digitsValue (digitsOf n) = n := by
  calc digitsValue (digitsOf n) = Nat.ofDigitChars 10 (digitsOf n) 0 := by
        refine List.foldl_ext _ _ _ fun a c mem => ?_
        rw [digit?_of_isDigit (isDecimal_digitsOf n c mem), Option.getD_some]
    _ = n := by rw [digitsOf_eq, Nat.ofDigitChars_ten_toDigits]

end

/-! ### Numerals without margins -/

namespace Numeral

def signText (negative : Bool) : List Char :=
  if negative then ['-'] else []

def fractionText : Option (List Char) → List Char
  | some digits => '.' :: digits
  | none => []

def powerText : Option (Bool × List Char) → List Char
  | some (negative, digits) => 'e' :: (if negative then '-' else '+') :: digits
  | none => []

/-- A numeral without its margins. -/
def written (n : Numeral) : List Char :=
  signText n.negative ++ (n.whole ++ (fractionText n.fraction ++ powerText n.power))

/-- There are no margins, and there are ASCII digits where digits have to be. -/
structure IsBare (n : Numeral) : Prop where
  leading : n.leading = []
  trailing : n.trailing = []
  whole : n.whole ≠ [] ∧ IsDecimal n.whole
  fraction : ∀ digits ∈ n.fraction, IsDecimal digits
  power : ∀ power ∈ n.power, power.2 ≠ [] ∧ IsDecimal power.2

theorem IsBare.joined {n : Numeral} (bare : n.IsBare) : n.isSeparated = false := by
  rw [isSeparated, bare.leading, bare.trailing]
  rfl

theorem span_digits {digits rest : List Char} (decimal : IsDecimal digits)
    (stops : ∀ c ∈ rest.head?, isDigit c = false) :
    (digits ++ rest).takeWhile isDigit = digits ∧ (digits ++ rest).dropWhile isDigit = rest := by
  have own : ∀ c ∈ digits, isDigit c = true := fun c mem => by
    rw [isDigit, digit?_of_isDigit (decimal c mem), Option.isSome_some]
  rw [List.takeWhile_append_of_pos own, List.dropWhile_append_of_pos own]
  cases rest with
  | nil => exact ⟨List.append_nil _, rfl⟩
  | cons c rest =>
    have other := ne_true_of_eq_false (stops c rfl)
    rw [List.takeWhile_cons_of_neg other, List.dropWhile_cons_of_neg other]
    exact ⟨List.append_nil _, rfl⟩

theorem takeSign_written {c : Char} (ascii : c.isDigit = true) (negative : Bool) (rest : List Char) :
    takeSign (signText negative ++ c :: rest) = (negative, c :: rest) := by
  cases negative with
  | true => rfl
  | false =>
    change takeSign (c :: rest) = _
    unfold takeSign
    split
    · next same =>
      cases same
      cases ascii
    · next same =>
      cases same
      cases ascii
    · rfl

variable {fraction : Option (List Char)} {power : Option (Bool × List Char)}

theorem powerText_stops : ∀ c ∈ (powerText power).head?, isDigit c = false := by
  cases power with
  | none => nofun
  | some =>
    rintro c ⟨⟩
    decide

theorem fractionText_stops :
    ∀ c ∈ (fractionText fraction ++ powerText power).head?, isDigit c = false := by
  cases fraction with
  | none => exact powerText_stops
  | some =>
    rintro c ⟨⟩
    decide

theorem takeFraction_written (decimal : ∀ digits ∈ fraction, IsDecimal digits) :
    takeFraction (fractionText fraction ++ powerText power) = (fraction, powerText power) := by
  cases fraction with
  | none => cases power <;> rfl
  | some digits =>
    obtain ⟨taken, left⟩ := span_digits (decimal digits rfl) (@powerText_stops power)
    show (some ((digits ++ powerText power).takeWhile isDigit),
      (digits ++ powerText power).dropWhile isDigit) = _
    rw [taken, left]

theorem takePower_written (decimal : ∀ p ∈ power, p.2 ≠ [] ∧ IsDecimal p.2) :
    takePower (powerText power) = (power, []) := by
  cases power with
  | none => rfl
  | some p =>
    obtain ⟨negative, digits⟩ := p
    obtain ⟨nonempty, decimal⟩ := decimal _ rfl
    have stops : ∀ c ∈ ([] : List Char).head?, isDigit c = false := nofun
    obtain ⟨taken, left⟩ := span_digits decimal stops
    rw [List.append_nil] at taken left
    have sign : takeSign ((if negative then '-' else '+') :: digits) = (negative, digits) := by
      cases negative <;> rfl
    simp [powerText, takePower, sign, taken, left, nonempty]

/-- What is written is read back. -/
theorem ofChars?_written {n : Numeral} (bare : n.IsBare) : ofChars? n.written = some n := by
  obtain ⟨leading, negative, whole, fraction, power, trailing⟩ := n
  obtain ⟨rfl, rfl, ⟨nonempty, decimal⟩, fractional, powered⟩ := bare
  dsimp only at nonempty decimal fractional powered
  obtain ⟨c, digits, rfl⟩ := List.exists_cons_of_ne_nil nonempty
  have ascii : c.isDigit = true := decimal c List.mem_cons_self
  have blank : isBlank c = false := isBlank_of_isDigit ascii
  obtain ⟨taken, left⟩ := span_digits decimal (@fractionText_stops fraction power)
  have margin (rest : List Char) : (signText negative ++ c :: rest).takeWhile isBlank = [] ∧
      (signText negative ++ c :: rest).dropWhile isBlank = signText negative ++ c :: rest := by
    cases negative with
    | true => exact ⟨rfl, rfl⟩
    | false => simp [signText, blank]
  obtain ⟨none, all⟩ := margin (digits ++ (fractionText fraction ++ powerText power))
  rw [List.cons_append] at taken left
  simp only [written, ofChars?, List.cons_append, none, all, takeSign_written ascii, taken, left,
    takeFraction_written fractional, takePower_written powered]
  rfl

/-! ### The two layouts -/

section

variable (negative : Bool) (digits : List Char)

def ofPositional (point : ℤ) : Numeral :=
  { leading := [], negative, power := none, trailing := []
    whole :=
      if point ≤ 0 then ['0']
      else digits.take point.toNat ++ List.replicate (point.toNat - digits.length) '0'
    fraction := some <|
      if point ≤ 0 then List.replicate (-point).toNat '0' ++ digits
      else if (digits.drop point.toNat).isEmpty then ['0'] else digits.drop point.toNat }

def ofScientific (power : ℤ) : Numeral :=
  { leading := [], negative, trailing := []
    whole := digits.take 1
    fraction := if (digits.drop 1).isEmpty then none else some (digits.drop 1)
    power := some (power < 0,
      List.replicate (2 - (digitsOf power.natAbs).length) '0' ++ digitsOf power.natAbs) }

theorem written_ofPositional (point : ℤ) :
    (ofPositional negative digits point).written = signText negative ++ positional digits point := by
  unfold ofPositional positional written
  by_cases small : point ≤ 0
  · simp [small, fractionText, powerText]
  · simp [small, fractionText, powerText]

theorem written_ofScientific (power : ℤ) :
    (ofScientific negative digits power).written = signText negative ++ scientific digits power := by
  unfold ofScientific scientific written
  dsimp only
  cases (digits.drop 1).isEmpty <;> simp [fractionText, powerText]

variable {negative digits} (nonempty : digits ≠ []) (decimal : IsDecimal digits)

include nonempty decimal

theorem isBare_ofPositional (point : ℤ) : (ofPositional negative digits point).IsBare := by
  have zero : IsDecimal ['0'] := isDecimal_replicate 1
  refine ⟨rfl, rfl, ?_, ?_, nofun⟩
  · unfold ofPositional
    dsimp only
    split
    · exact ⟨List.cons_ne_nil _ _, zero⟩
    · next large =>
      refine ⟨?_, (decimal.take _).append (isDecimal_replicate _)⟩
      have some : digits.take point.toNat ≠ [] := by
        rw [Ne, List.take_eq_nil_iff]
        exact not_or.2 ⟨by omega, nonempty⟩
      exact List.append_ne_nil_of_left_ne_nil some _
  · rintro _ ⟨⟩
    split
    · exact (isDecimal_replicate _).append decimal
    · split
      · exact zero
      · exact decimal.drop _

theorem isBare_ofScientific (power : ℤ) : (ofScientific negative digits power).IsBare := by
  refine ⟨rfl, rfl, ⟨?_, decimal.take 1⟩, ?_, ?_⟩
  · show digits.take 1 ≠ []
    rw [Ne, List.take_eq_nil_iff]
    exact not_or.2 ⟨one_ne_zero, nonempty⟩
  · intro fraction mem
    unfold ofScientific at mem
    dsimp only at mem
    split at mem
    · cases mem
    · cases mem
      exact decimal.drop 1
  · rintro _ ⟨⟩
    exact ⟨List.append_ne_nil_of_right_ne_nil _ (digitsOf_ne_nil _),
      (isDecimal_replicate _).append (isDecimal_digitsOf _)⟩

end

section

def powerValue : Option (Bool × List Char) → ℤ
  | some (negative, digits) => if negative then -(digitsValue digits : ℤ) else digitsValue digits
  | none => 0

theorem toRat_of_padded {n : Numeral} {digits : List Char} {j k : ℕ}
    (padded : n.whole ++ n.fraction.getD [] =
      List.replicate j '0' ++ (digits ++ List.replicate k '0')) :
    n.decimal.toRat = Double.signed n.negative
      (digitsValue digits * 10 ^ (powerValue n.power + k - (n.fraction.getD []).length)) := by
  have parts : n.decimal = ⟨n.negative, digitsValue (n.whole ++ n.fraction.getD []),
      powerValue n.power - (n.fraction.getD []).length⟩ := rfl
  rw [Decimal.toRat_eq, parts, padded, digitsValue_zeros_append, digitsValue_append_zeros]
  refine congrArg (Double.signed n.negative) ?_
  push_cast
  rw [mul_assoc, Decimal.pow_mul_zpow]
  congr 2
  ring

theorem powerValue_signed (power : ℤ) (k : ℕ) :
    powerValue (some (power < 0, List.replicate k '0' ++ digitsOf power.natAbs)) = power := by
  simp only [powerValue, digitsValue_zeros_append, digitsValue_digitsOf, decide_eq_true_eq]
  omega

variable (negative : Bool) (digits : List Char)

/-- The digits of a positional numeral are the given ones among zeros, and the point stands where
it should. -/
theorem exists_padding (point : ℤ) : ∃ j k : ℕ,
    (ofPositional negative digits point).whole ++
        (ofPositional negative digits point).fraction.getD [] =
      List.replicate j '0' ++ (digits ++ List.replicate k '0') ∧
    k - ((ofPositional negative digits point).fraction.getD []).length =
      point - digits.length := by
  unfold ofPositional
  dsimp only [Option.getD_some]
  by_cases small : point ≤ 0
  · refine ⟨(-point).toNat + 1, 0, ?_, ?_⟩
    · simp [small, List.replicate_succ]
    · simp [small]
      omega
  · rw [if_neg small, if_neg small]
    rcases Nat.lt_or_ge point.toNat digits.length with within | beyond
    · have rest : (digits.drop point.toNat).isEmpty = false := by
        rw [List.isEmpty_eq_false_iff, Ne, List.drop_eq_nil_iff]
        omega
      rw [rest, if_neg Bool.false_ne_true, Nat.sub_eq_zero_of_le within.le]
      refine ⟨0, 0, ?_, ?_⟩
      · simp
      · rw [List.length_drop]
        omega
    · rw [List.drop_of_length_le beyond, List.take_of_length_le beyond]
      refine ⟨0, point.toNat - digits.length + 1, ?_, ?_⟩
      · simp [List.replicate_succ']
      · simp
        omega

theorem toRat_ofPositional (point : ℤ) :
    (ofPositional negative digits point).decimal.toRat =
      Double.signed negative (digitsValue digits * 10 ^ (point - digits.length)) := by
  obtain ⟨j, k, padded, place⟩ := exists_padding negative digits point
  have power : powerValue (ofPositional negative digits point).power = 0 := rfl
  rw [toRat_of_padded padded, power, zero_add, place]
  rfl

theorem toRat_ofScientific (nonempty : digits ≠ []) (power : ℤ) :
    (ofScientific negative digits power).decimal.toRat =
      Double.signed negative (digitsValue digits * 10 ^ (power + 1 - digits.length)) := by
  have fraction : (ofScientific negative digits power).fraction.getD [] = digits.drop 1 := by
    show (if (digits.drop 1).isEmpty then none else some (digits.drop 1)).getD [] = _
    cases digits.drop 1 <;> rfl
  have padded : (ofScientific negative digits power).whole ++
      (ofScientific negative digits power).fraction.getD [] =
        List.replicate 0 '0' ++ (digits ++ List.replicate 0 '0') := by
    rw [fraction]
    exact (List.take_append_drop 1 digits).trans (List.append_nil digits).symm
  have exponent : powerValue (ofScientific negative digits power).power = power :=
    powerValue_signed power _
  have length : 1 ≤ digits.length := List.length_pos_of_ne_nil nonempty
  rw [toRat_of_padded padded, exponent, fraction, List.length_drop]
  show Double.signed negative _ = _
  congr 3
  omega

end

end Numeral

/-! ### Texts of numbers -/

section

variable (d : Decimal) (layout : DoubleLayout)

/-- The numeral that a decimal is written as. -/
def Decimal.numeral : Numeral :=
  let digits := digitsOf d.coefficient
  let power := d.exponent + digits.length - 1
  if layout.leastPositional ≤ power ∧ power ≤ layout.mostPositional then
    .ofPositional d.negative digits (power + 1)
  else .ofScientific d.negative digits power

theorem Decimal.written_numeral : (d.numeral layout).written = d.text layout := by
  unfold numeral text
  dsimp only
  split
  · rw [Numeral.written_ofPositional]
    cases d.negative <;> rfl
  · rw [Numeral.written_ofScientific]
    cases d.negative <;> rfl

theorem Decimal.isBare_numeral : (d.numeral layout).IsBare := by
  unfold numeral
  dsimp only
  split
  · exact Numeral.isBare_ofPositional (digitsOf_ne_nil _) (isDecimal_digitsOf _) _
  · exact Numeral.isBare_ofScientific (digitsOf_ne_nil _) (isDecimal_digitsOf _) _

theorem Decimal.isInteger_numeral : (d.numeral layout).isInteger = false := by
  unfold numeral
  dsimp only
  split
  · rfl
  · exact Bool.and_false _

theorem Decimal.toRat_numeral : (d.numeral layout).decimal.toRat = d.toRat := by
  rw [d.toRat_eq]
  unfold numeral
  dsimp only
  split
  · rw [Numeral.toRat_ofPositional, digitsValue_digitsOf]
    congr 3
    ring
  · rw [Numeral.toRat_ofScientific _ _ (digitsOf_ne_nil _), digitsValue_digitsOf]
    congr 3
    ring

theorem Decimal.ofString?_text :
    Numeral.ofString? (String.ofList (d.text layout)) = some (d.numeral layout) := by
  rw [Numeral.ofString?, String.toList_ofList, ← d.written_numeral]
  exact Numeral.ofChars?_written (d.isBare_numeral layout)

example : String.ofList (Decimal.text .plain ⟨true, 25, -9⟩) = "-2.5e-08" := rfl

end

namespace Numeral

variable (n : ℤ)

def ofInt : Numeral :=
  ⟨[], n < 0, digitsOf n.natAbs, none, none, []⟩

theorem written_ofInt : (ofInt n).written = (toString n).toList := by
  rw [Int.toString_eq_repr, Int.repr_eq_if]
  unfold ofInt written
  by_cases nonneg : 0 ≤ n
  · have magnitude : n.natAbs = n.toNat := by omega
    simp [nonneg, not_lt.2 nonneg, magnitude, signText, fractionText, powerText, digitsOf]
  · have magnitude : n.natAbs = (-n).toNat := by omega
    simp [nonneg, not_le.1 nonneg, magnitude, signText, fractionText, powerText, digitsOf]

theorem ofString?_toString : ofString? (toString n) = some (ofInt n) := by
  rw [ofString?, ← written_ofInt]
  exact ofChars?_written ⟨rfl, rfl, ⟨digitsOf_ne_nil _, isDecimal_digitsOf _⟩, nofun, nofun⟩

theorem integer_ofInt : (ofInt n).integer = n := by
  unfold ofInt integer
  dsimp only
  rw [digitsValue_digitsOf]
  simp only [decide_eq_true_eq]
  omega

end Numeral

end TreeSchema
