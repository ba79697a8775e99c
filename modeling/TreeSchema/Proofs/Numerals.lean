import TreeSchema.Conversion
import TreeSchema.Proofs.Nearest
import Mathlib.Data.Nat.Digits.Defs

/-!
What becomes of numerals. A numeral with a point or a power of ten is read as the
nearest double, and what is asked of the number afterwards, whether it is an integer or zero, is
asked of that double. Other numerals are read exactly.
-/

namespace TreeSchema

open Text

/-! ### Magnitudes -/

theorem lt_pow_digitCount (n : ℕ) : n < 10 ^ digitCount n := by
  have same : digitCount n = (Nat.toDigits 10 n).length := by
    rw [digitCount, Nat.repr_eq_ofList_toDigits, String.length_ofList]
  rw [same]
  exact (Nat.length_toDigits_le_iff (by decide) Nat.length_toDigits_pos).1 le_rfl

theorem pow_le_of_lt_digitCount {n k : ℕ} (pos : 0 < n) (more : k < digitCount n) : 10 ^ k ≤ n := by
  rcases Nat.eq_zero_or_pos k with rfl | positive
  · exact pos
  · exact not_lt.1 fun less => absurd (Nat.repr_length n k positive less) (not_le.2 more)

namespace Decimal

variable (d : Decimal)

theorem ten_zpow (e : ℤ) : (10 : ℚ) ^ e = 10 ^ e.toNat / 10 ^ (-e).toNat := by
  obtain ⟨n, rfl | rfl⟩ := e.eq_nat_or_neg <;> simp

theorem toRat_eq : d.toRat = Double.signed d.negative (d.coefficient * 10 ^ d.exponent) := by
  obtain ⟨negative, c, e⟩ := d
  rw [ten_zpow]
  cases negative <;> simp [toRat, Double.signed, Rat.mkRat_eq_div, mul_div_assoc, neg_div]

theorem pow_mul_zpow (k : ℕ) (e : ℤ) : (10 : ℚ) ^ k * 10 ^ e = 10 ^ (e + k) := by
  rw [zpow_add₀ (by norm_num), zpow_natCast, mul_comm]

theorem small_of_magnitude {c : ℕ} {e : ℤ} (small : e + digitCount c < -330) :
    (c * 10 ^ e : ℚ) ≤ 2 ^ (-1075 : ℤ) := by
  have less : (c : ℚ) ≤ 10 ^ digitCount c := by exact_mod_cast (lt_pow_digitCount c).le
  calc (c * 10 ^ e : ℚ) ≤ 10 ^ digitCount c * 10 ^ e :=
        mul_le_mul_of_nonneg_right less (zpow_pos (by norm_num) e).le
    _ = 10 ^ (e + digitCount c) := pow_mul_zpow ..
    _ ≤ 10 ^ (-331 : ℤ) := zpow_le_zpow_right₀ (by norm_num) (by omega)
    _ ≤ 2 ^ (-1075 : ℤ) := by
      have wide : ((2 ^ 1075 : ℕ) : ℚ) ≤ (10 ^ 331 : ℕ) := Nat.cast_le.2 (by decide +kernel)
      rw [Nat.cast_pow, Nat.cast_pow] at wide
      exact inv_anti₀ (by positivity) wide

theorem large_of_magnitude {c : ℕ} {e : ℤ} (nonzero : c ≠ 0) (large : 310 < e + digitCount c) :
    Double.overflow ≤ (c * 10 ^ e : ℚ) := by
  have digits : 0 < digitCount c := by
    by_contra none
    have := lt_pow_digitCount c
    rw [Nat.eq_zero_of_not_pos none] at this
    omega
  have more : ((10 ^ (digitCount c - 1) : ℕ) : ℚ) ≤ c :=
    Nat.cast_le.2 (pow_le_of_lt_digitCount (Nat.pos_of_ne_zero nonzero) (by omega))
  rw [Nat.cast_pow] at more
  calc Double.overflow ≤ 2 ^ 53 * 2 ^ (971 : ℤ) :=
        mul_le_mul_of_nonneg_right (by norm_num) (Double.two_zpow_pos 971).le
    _ ≤ 10 ^ (310 : ℤ) := by
      have wide : ((2 ^ 53 * 2 ^ 971 : ℕ) : ℚ) ≤ (10 ^ 310 : ℕ) := Nat.cast_le.2 (by decide +kernel)
      rw [Nat.cast_mul, Nat.cast_pow, Nat.cast_pow, Nat.cast_pow] at wide
      exact wide
    _ ≤ 10 ^ (e + (digitCount c - 1 : ℕ)) := zpow_le_zpow_right₀ (by norm_num) (by omega)
    _ = 10 ^ (digitCount c - 1) * 10 ^ e := (pow_mul_zpow ..).symm
    _ ≤ c * 10 ^ e := mul_le_mul_of_nonneg_right more (zpow_pos (by norm_num) e).le

/-- Reading a numeral gives the nearest double. -/
theorem isNearest_toDouble : Double.IsNearest d.toRat d.toDouble := by
  rw [toRat_eq]
  obtain ⟨negative, c, e⟩ := d
  unfold toDouble
  dsimp only
  split
  · next small =>
    refine Double.isNearest_zero ?_ negative
    rw [Double.abs_signed, abs_of_nonneg (by positivity)]
    rcases small with rfl | small
    · rw [Nat.cast_zero, zero_mul]
      positivity
    · exact small_of_magnitude small
  · next visible =>
    obtain ⟨nonzero, -⟩ := not_or.1 visible
    split
    · next large =>
      change Double.overflow ≤ Double.signed negative (Double.signed negative _)
      rw [Double.signed_signed]
      exact large_of_magnitude nonzero large
    · have same : (c * 10 ^ e : ℚ) =
          (c * Nat.pow 10 e.toNat : ℕ) / (Nat.pow 10 (-e).toNat : ℕ) := by
        rw [ten_zpow, ← mul_div_assoc]
        simp
      rw [same]
      exact Double.isNearest_round (Nat.pow_pos (by decide)) negative

end Decimal

/-! ### Doubles that are integers -/

namespace Double

variable {x : Double}

theorem toInt_of_toRat? {i : ℤ} (value : x.toRat? = some (i : ℚ)) : x.toInt = i := by
  cases x with
  | nan | infinite => cases value
  | finite negative m e canonical =>
    have pos : 0 < Nat.pow 2 (-e).toNat := Nat.pow_pos two_pos
    simp only [toRat?, fraction?, Option.map_some, Option.some.injEq] at value
    rw [← Rat.mkRat_one, Rat.mkRat_eq_iff pos.ne' one_ne_zero] at value
    have divide {j : ℤ} (product : ((m * 2 ^ e.toNat : ℕ) : ℤ) = j * (2 ^ (-e).toNat : ℕ)) :
        ((m * 2 ^ e.toNat : ℕ) : ℤ) / (2 ^ (-e).toNat : ℕ) = j :=
      Int.ediv_eq_of_eq_mul_left (by positivity) product
    cases negative with
    | false => exact divide ((mul_one _).symm.trans value)
    | true =>
      refine neg_eq_iff_eq_neg.2 (divide ?_)
      rw [neg_mul, ← neg_eq_iff_eq_neg]
      exact (mul_one _).symm.trans value

theorem isZero_iff : (Number.double x).isZero = true ↔ x.toRat? = some 0 :=
  Number.isZero_iff

end Double

/-! ### Conversions of numerals -/

namespace Numeral

variable {s : String} {n : Numeral}

theorem toRat_decimal (plain : n.isInteger = true) : n.decimal.toRat = n.integer := by
  obtain ⟨leading, negative, whole, fraction, power, trailing⟩ := n
  rw [isInteger, Bool.and_eq_true, Option.isNone_iff_eq_none, Option.isNone_iff_eq_none] at plain
  obtain ⟨rfl, rfl⟩ := plain
  cases negative <;> simp [Decimal.toRat_eq, decimal, integer, Double.signed]

variable (numeral : ofString? s = some n) (leading : n.leading.any isSeparator = false)
  (trailing : n.trailing.any isSeparator = false)

include numeral leading trailing

theorem readDouble_eq : TreeSchema.readDouble s = .ok n.decimal.toDouble := by
  simp [TreeSchema.readDouble, numeral, readDouble, leading, trailing]

theorem convert_numericToBool : Rule.convert .numericToBool (.string s) =
    .ok (.ok (.bool (!(Number.double n.decimal.toDouble).isZero))) := by
  simp only [Rule.convert, Rule.numberToBool, readDouble_eq numeral leading trailing]
  rfl

theorem convert_numericTextToInteger_of_isInteger (plain : n.isInteger = true)
    (short : n.whole.length ≤ digitLimit) : Rule.convert .numericTextToInteger (.string s) =
      .ok (.ok (.number (.int n.integer))) := by
  have read : n.readInteger s = .ok n.integer := by
    simp [readInteger, leading, trailing, not_lt.2 short]
  simp only [Rule.convert, Rule.toInteger, readNumber, numeral, plain, read, if_true]
  rfl

theorem convert_numericTextToInteger_iff (rounded : n.isInteger = false) {i : ℤ} :
    Rule.convert .numericTextToInteger (.string s) = .ok (.ok (.number (.int i))) ↔
      n.decimal.toDouble.toRat? = some (i : ℚ) := by
  generalize known : n.decimal.toDouble = x
  have read : readNumber s =
      .ok (if x.isFinite then .ok (.double x) else .error (.outOfRange (trimmed s))) := by
    simp only [readNumber, numeral, rounded, readDouble_eq numeral leading trailing, known]
    rfl
  have answer : Rule.convert .numericTextToInteger (.string s) =
      .ok (if x.isFinite then
          if x.isWhole then .ok (.number (.int x.toInt)) else .error (.notWhole (trimmed s))
        else .error (.outOfRange (trimmed s))) := by
    rw [Rule.convert, Rule.toInteger, read]
    cases x.isFinite
    · rfl
    · rfl
  rw [answer, Except.ok.injEq]
  constructor
  · intro result
    split at result
    · split at result
      · next whole =>
        obtain ⟨j, value⟩ := Double.isWhole_iff_exists.1 whole
        rw [Double.toInt_of_toRat? value] at result
        cases result
        exact value
      · cases result
    · cases result
  · intro value
    rw [if_pos (Double.isFinite_of_toRat? value), if_pos (Double.isWhole_iff_exists.2 ⟨i, value⟩),
      Double.toInt_of_toRat? value]

end Numeral

/-- An integer numeral is converted by its own value, any other one by the nearest double. This
makes no difference for numbers that the nearest double tells apart from integers. -/
theorem convert_numeral {s : String} {n : Numeral} (numeral : Numeral.ofString? s = some n)
    (leading : n.leading.any isSeparator = false) (trailing : n.trailing.any isSeparator = false)
    (short : n.whole.length ≤ digitLimit) :
    ∃ x, Double.IsNearest n.decimal.toRat x ∧
      (∀ i : ℤ, Rule.convert .numericTextToInteger (.string s) = .ok (.ok (.number (.int i))) ↔
        if n.isInteger then n.decimal.toRat = i else x.toRat? = some (i : ℚ)) ∧
      (∀ b : Bool, Rule.convert .numericToBool (.string s) = .ok (.ok (.bool b)) ↔
        (b = true ↔ 2 ^ (-1075 : ℤ) < |n.decimal.toRat|)) ∧
      (Double.IsDiscerned n.decimal.toRat →
        (∀ i : ℤ, Rule.convert .numericTextToInteger (.string s) = .ok (.ok (.number (.int i))) ↔
          n.decimal.toRat = i) ∧
        (Rule.convert .numericToBool (.string s) = .ok (.ok (.bool true)) ↔
          n.decimal.toRat ≠ 0)) := by
  let x := n.decimal.toDouble
  have near : Double.IsNearest n.decimal.toRat x := n.decimal.isNearest_toDouble
  have integer (i : ℤ) : Rule.convert .numericTextToInteger (.string s) =
      .ok (.ok (.number (.int i))) ↔
        if n.isInteger then n.decimal.toRat = i else x.toRat? = some (i : ℚ) := by
    cases plain : n.isInteger with
    | true =>
      rw [Numeral.convert_numericTextToInteger_of_isInteger numeral leading trailing plain short,
        if_pos rfl, Numeral.toRat_decimal plain, Int.cast_inj]
      simp
    | false =>
      rw [if_neg Bool.false_ne_true]
      exact Numeral.convert_numericTextToInteger_iff numeral leading trailing plain
  have truth (b : Bool) : Rule.convert .numericToBool (.string s) = .ok (.ok (.bool b)) ↔
      (b = true ↔ 2 ^ (-1075 : ℤ) < |n.decimal.toRat|) := by
    have zero : (Number.double x).isZero = true ↔ ¬ 2 ^ (-1075 : ℤ) < |n.decimal.toRat| := by
      rw [Double.isZero_iff, near.toRat?_eq_zero_iff, not_lt]
    rw [Numeral.convert_numericToBool numeral leading trailing]
    simp only [Except.ok.injEq, Tree.bool.injEq]
    cases b <;> cases known : (Number.double x).isZero <;> simp_all [x]
  refine ⟨x, near, integer, truth, fun discerned => ⟨fun i => ?_, ?_⟩⟩
  · rw [integer, discerned.intCast_iff near, ite_self]
  · rw [truth, discerned.visible_iff]
    simp

theorem convert_numeral_spaced :
    Rule.convert .numericTextToInteger (.string " 2.5e1 ") = .ok (.ok (.number (.int 25))) ∧
      Rule.convert .numericToBool (.string " 2.5e1 ") = .ok (.ok (.bool true)) := by
  let n : Numeral := ⟨[' '], false, ['2'], some ['5'], some (false, ['1']), [' ']⟩
  have value : n.decimal.toRat = (25 : ℤ) := by decide +kernel
  have discerned : Double.IsDiscerned n.decimal.toRat :=
    value ▸ .inl (Double.isValue_intCast (by decide))
  obtain ⟨-, -, -, -, answers⟩ := @convert_numeral " 2.5e1 " n rfl rfl rfl (by decide)
  obtain ⟨integer, truth⟩ := answers discerned
  exact ⟨(integer 25).2 value, truth.2 (by rw [value]; decide)⟩

/-- The integer and the truth that a numeral is converted to need not be those of its exact
value: this one is one more than what it is converted to, and the other one is not zero. -/
theorem convert_numeral_rounded :
    (∃ n, Numeral.ofString? "9007199254740993.0" = some n ∧
      n.decimal.toRat = (9007199254740993 : ℤ) ∧
      Rule.convert .numericTextToInteger (.string "9007199254740993.0") =
        .ok (.ok (.number (.int 9007199254740992)))) ∧
    ∃ n, Numeral.ofString? "1e-400" = some n ∧ n.decimal.toRat ≠ 0 ∧
      Rule.convert .numericToBool (.string "1e-400") = .ok (.ok (.bool false)) := by
  let tiny : Numeral := ⟨[], false, ['1'], none, some (true, ['4', '0', '0']), []⟩
  have zero : (Number.double tiny.decimal.toDouble).isZero = true := by decide +kernel
  refine ⟨⟨_, rfl, by decide +kernel, rfl⟩, ⟨tiny, rfl, by decide +kernel, ?_⟩⟩
  rw [@Numeral.convert_numericToBool _ tiny rfl rfl rfl, zero]
  rfl

end TreeSchema
