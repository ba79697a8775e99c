import TreeSchema.Proofs.Rounding
import Mathlib.Algebra.Order.Archimedean.Basic
import Mathlib.Algebra.Order.Round
import Mathlib.Data.Rat.Floor

/-!
What is known of a nearest double by its being nearest. Its value is determined, since
of two neighbours only one has an even significand. It is the number itself where that is the
value of a double, it is zero only for numbers of at most half the least magnitude, and it
is an integer only for numbers that are integers, as long as these have a numerator of at most 53
binary digits.
-/

namespace TreeSchema

theorem exists_int_within_half (q : ℚ) : ∃ c : ℤ, |q - c| ≤ 1 / 2 :=
  ⟨round q, abs_sub_round q⟩

namespace Double

theorem toRat?_of_isFinite {x : Double} (finite : x.isFinite = true) : ∃ v, x.toRat? = some v := by
  cases x with
  | nan | infinite => cases finite
  | finite negative m e canonical => exact ⟨_, toRat?_finite canonical⟩

theorem isFinite_of_toRat? {x : Double} {v : ℚ} (value : x.toRat? = some v) :
    x.isFinite = true := by
  cases x with
  | nan | infinite => cases value
  | finite => rfl

theorem isWhole_iff_exists {x : Double} : x.isWhole = true ↔ ∃ i : ℤ, x.toRat? = some (i : ℚ) := by
  cases x with
  | nan | infinite => exact iff_of_false nofun fun ⟨_, value⟩ => nomatch value
  | finite => exact isWhole_iff

theorem isValue_mul {j e : ℤ} (short : |j| ≤ 2 ^ 53) (low : -1074 ≤ e) (high : e ≤ 971)
    (room : e < 971 ∨ |j| < 2 ^ 53) : IsValue (j * 2 ^ e) := by
  rcases short.lt_or_eq with less | full
  · exact ⟨j, e, less, low, high, rfl⟩
  · obtain ⟨i, rfl⟩ : (2 : ℤ) ∣ j := (dvd_abs 2 j).1 (full ▸ by decide)
    refine ⟨i, e + 1, ?_, by omega, by omega, ?_⟩
    · rw [abs_mul, abs_two] at full
      omega
    · rw [zpow_add_one₀ two_ne_zero]
      push_cast
      ring

theorem isValue_intCast {n : ℤ} (short : |n| ≤ 2 ^ 53) : IsValue n := by
  simpa using isValue_mul (e := 0) short (by decide) (by decide) (.inl (by decide))

theorem two_zpow_le_abs {j e l : ℤ} (nonzero : (j * 2 ^ e : ℚ) ≠ 0) (low : l ≤ e) :
    (2 : ℚ) ^ l ≤ |(j * 2 ^ e : ℚ)| := by
  have some : (1 : ℚ) ≤ |(j : ℚ)| := by
    exact_mod_cast Int.one_le_abs fun none => nonzero (by simp [none])
  rw [abs_mul, abs_of_pos (two_zpow_pos e)]
  calc (2 : ℚ) ^ l ≤ 2 ^ e := zpow_le_zpow_right₀ one_le_two low
    _ ≤ |(j : ℚ)| * 2 ^ e := le_mul_of_one_le_left (two_zpow_pos e).le some

theorem abs_lt_overflow {r : ℚ} (value : IsValue r) : |r| < overflow := by
  obtain ⟨j, e, short, -, high, rfl⟩ := value
  have digits : |(j : ℚ)| ≤ 2 ^ 53 - 1 := by exact_mod_cast Int.le_sub_one_of_lt short
  rw [abs_mul, abs_of_pos (two_zpow_pos e), overflow]
  calc |(j : ℚ)| * 2 ^ e ≤ (2 ^ 53 - 1) * 2 ^ (971 : ℤ) :=
        mul_le_mul digits (zpow_le_zpow_right₀ one_le_two high) (two_zpow_pos e).le (by linarith)
    _ < (2 ^ 53 - 1 / 2) * 2 ^ (971 : ℤ) :=
        mul_lt_mul_of_pos_right (by norm_num) (two_zpow_pos 971)

/-- The values with an even significand. -/
def IsEvenValue (v : ℚ) : Prop :=
  ∃ negative m e, Canonical m e ∧ m % 2 = 0 ∧ v = signed negative (m * 2 ^ e)

theorem IsEvenValue.exists_even_multiple {v : ℚ} (value : IsEvenValue v) :
    ∃ a e : ℤ, |2 * a + 1| < 2 ^ 53 ∧ |2 * a - 1| < 2 ^ 53 ∧ -1074 ≤ e ∧ e ≤ 971 ∧
      v = (2 * a : ℤ) * 2 ^ e := by
  obtain ⟨negative, m, e, ⟨short, low, high, -⟩, even, rfl⟩ := value
  obtain ⟨k, rfl⟩ := Nat.dvd_of_mod_eq_zero even
  rw [Nat.pow_eq] at short
  cases negative
  · refine ⟨k, e, abs_lt.2 ⟨by omega, by omega⟩, abs_lt.2 ⟨by omega, by omega⟩, low, high, ?_⟩
    simp [signed]
  · refine ⟨-k, e, abs_lt.2 ⟨by omega, by omega⟩, abs_lt.2 ⟨by omega, by omega⟩, low, high, ?_⟩
    simp [signed]

/-- Between two values with even significands there is another one: next to the one with the finer
unit there is a value with an odd significand. -/
theorem IsEvenValue.exists_between {v w : ℚ} (value : IsEvenValue v) (value' : IsEvenValue w)
    (other : v ≠ w) : ∃ r, IsValue r ∧ (v < r ∧ r < w ∨ w < r ∧ r < v) := by
  obtain ⟨a, e, up, down, low, high, multiple⟩ := value.exists_even_multiple
  obtain ⟨b, f, up', down', low', high', multiple'⟩ := value'.exists_even_multiple
  wlog finer : e ≤ f generalizing v w a b e f
  · obtain ⟨r, known, between⟩ := this value' value other.symm b f up' down' low' high' multiple'
      a e up down low high multiple (le_of_not_ge finer)
    exact ⟨r, known, between.symm⟩
  obtain ⟨c, lifted⟩ : ∃ c : ℤ, w = (2 * c : ℤ) * 2 ^ e := by
    obtain ⟨n, rfl⟩ := Int.le.dest finer
    refine ⟨b * 2 ^ n, ?_⟩
    rw [multiple', zpow_add₀ two_ne_zero, zpow_natCast]
    push_cast
    ring
  have mono {i j : ℤ} (less : i < j) : (i * 2 ^ e : ℚ) < j * 2 ^ e :=
    mul_lt_mul_of_pos_right (Int.cast_lt.2 less) (two_zpow_pos e)
  rw [multiple, lifted] at other ⊢
  rcases lt_trichotomy a c with less | rfl | more
  · exact ⟨_, ⟨2 * a + 1, e, up, low, high, rfl⟩, .inl ⟨mono (by omega), mono (by omega)⟩⟩
  · exact absurd rfl other
  · exact ⟨_, ⟨2 * a - 1, e, down, low, high, rfl⟩, .inr ⟨mono (by omega), mono (by omega)⟩⟩

theorem abs_sub_lt_of_between {q v w r : ℚ} (middle : |q - v| = |q - w|)
    (between : v < r ∧ r < w ∨ w < r ∧ r < v) : |q - r| < |q - v| := by
  have half : q - v = w - q := by
    rcases abs_eq_abs.1 middle with same | opposite
    · rcases between with ⟨left, right⟩ | ⟨left, right⟩ <;> linarith
    · linarith
  rcases between with ⟨left, right⟩ | ⟨left, right⟩
  · rw [abs_of_pos (by linarith : 0 < q - v), abs_lt]
    constructor <;> linarith
  · rw [abs_of_neg (by linarith : q - v < 0), abs_lt]
    constructor <;> linarith

theorem exists_unit {q : ℚ} (normal : 2 ^ (-1022 : ℤ) ≤ |q|) (within : |q| < overflow) :
    ∃ e : ℤ, -1074 ≤ e ∧ e ≤ 971 ∧ 2 ^ 52 * 2 ^ e ≤ |q| ∧ |q| < 2 ^ 53 * 2 ^ e := by
  obtain ⟨n, least, most⟩ := exists_mem_Ico_zpow ((two_zpow_pos _).trans_le normal) one_lt_two
  have digits (k : ℕ) (e : ℤ) : (2 : ℚ) ^ (e + k) = 2 ^ k * 2 ^ e := by
    rw [zpow_add₀ two_ne_zero, zpow_natCast, mul_comm]
  have low : -1022 < n + 1 := (zpow_lt_zpow_iff_right₀ one_lt_two).1 (normal.trans_lt most)
  have high : n < 971 + (53 : ℕ) := by
    refine (zpow_lt_zpow_iff_right₀ (one_lt_two (α := ℚ))).1 ((least.trans_lt within).trans ?_)
    rw [digits, overflow]
    exact mul_lt_mul_of_pos_right (by norm_num) (two_zpow_pos 971)
  refine ⟨n - 52, by omega, by omega, ?_, ?_⟩
  · rw [← Int.sub_add_cancel n 52] at least
    exact (digits 52 (n - 52)).symm.trans_le least
  · rw [show n + 1 = n - 52 + 53 by ring] at most
    exact most.trans_eq (digits 53 (n - 52))

theorem exists_isValue_near {q : ℚ} {e : ℤ} (low : -1074 ≤ e) (high : e ≤ 971)
    (fits : |q| < 2 ^ 53 * 2 ^ e) (within : |q| < overflow) :
    ∃ r, IsValue r ∧ |q - r| ≤ 2 ^ e / 2 := by
  have unit : (0 : ℚ) < 2 ^ e := two_zpow_pos e
  obtain ⟨c, half⟩ := exists_int_within_half (q / 2 ^ e)
  have size : |(c : ℚ)| ≤ |q| / 2 ^ e + 1 / 2 := by
    have sum : |(c : ℚ)| ≤ |q / 2 ^ e| + |q / 2 ^ e - c| := by
      simpa using abs_sub (q / 2 ^ e) (q / 2 ^ e - c)
    rw [abs_div, abs_of_pos unit] at sum
    linarith
  have short : |c| ≤ 2 ^ 53 := by
    have digits : |q| / 2 ^ e < 2 ^ 53 := (div_lt_iff₀ unit).2 fits
    have : ((|c| : ℤ) : ℚ) < (2 ^ 53 + 1 : ℤ) := by push_cast; linarith
    exact Int.lt_add_one_iff.1 (Int.cast_lt.1 this)
  have room : e < 971 ∨ |c| < 2 ^ 53 := by
    refine high.lt_or_eq.imp_right ?_
    rintro rfl
    have digits : |q| / 2 ^ (971 : ℤ) < 2 ^ 53 - 1 / 2 := (div_lt_iff₀ unit).2 within
    have : ((|c| : ℤ) : ℚ) < (2 ^ 53 : ℤ) := by push_cast; linarith
    exact Int.cast_lt.1 this
  refine ⟨c * 2 ^ e, isValue_mul short low high room, ?_⟩
  calc |q - c * 2 ^ e| = |q / 2 ^ e - c| * 2 ^ e := by
        rw [← abs_of_pos unit, ← abs_mul, abs_of_pos unit, sub_mul, div_mul_cancel₀ _ unit.ne']
    _ ≤ 1 / 2 * 2 ^ e := mul_le_mul_of_nonneg_right half unit.le
    _ = 2 ^ e / 2 := by ring

theorem toRat?_zero (negative : Bool) : (zero negative).toRat? = some 0 := by
  cases negative <;> simp [zero, toRat?_finite, signed]

theorem isNearest_zero {q : ℚ} (small : |q| ≤ 2 ^ (-1075 : ℤ)) (negative : Bool) :
    IsNearest q (zero negative) := by
  have none : signed negative ((0 : ℕ) * 2 ^ (-1074 : ℤ)) = 0 := by cases negative <;> simp [signed]
  have half : (2 : ℚ) ^ (-1075 : ℤ) = 2 ^ (-1074 : ℤ) / 2 := zpow_sub_one₀ two_ne_zero (-1074)
  have least : IsValue (1 * 2 ^ (-1074 : ℤ)) :=
    ⟨1, -1074, by decide, by decide, by decide, by rw [Int.cast_one]⟩
  rw [half] at small
  refine ⟨?_, fun y r value => ?_⟩
  · have within := abs_lt_overflow least
    have pos := two_zpow_pos (-1074)
    rw [one_mul, abs_of_pos pos] at within
    linarith
  · rw [none, sub_zero]
    refine ⟨?_, fun _ => .inr rfl⟩
    rcases eq_or_ne r 0 with rfl | nonzero
    · rw [sub_zero]
    · obtain ⟨j, e, -, low, -, rfl⟩ := isValue_of_toRat? value
      have far := two_zpow_le_abs nonzero low
      have sum : |(j * 2 ^ e : ℚ)| ≤ |q| + |q - j * 2 ^ e| := by
        simpa using abs_sub q (q - j * 2 ^ e)
      linarith

theorem isNearest_self {x : Double} {v : ℚ} (value : x.toRat? = some v) : IsNearest v x := by
  have within := abs_lt_overflow (isValue_of_toRat? value)
  cases x with
  | nan | infinite => cases value
  | finite negative m e canonical =>
    rw [toRat?_finite, Option.some.injEq] at value
    subst value
    refine ⟨within, fun y r _ => ?_⟩
    rw [sub_self, abs_zero]
    exact ⟨abs_nonneg _, fun same => .inl (sub_eq_zero.1 (abs_eq_zero.1 same.symm)).symm⟩

namespace IsNearest

variable {q v : ℚ} {x y : Double}

theorem isFinite_iff (near : IsNearest q x) : x.isFinite = true ↔ |q| < overflow := by
  cases x with
  | nan => exact near.elim
  | infinite negative =>
    refine iff_of_false nofun (not_lt.2 ?_)
    calc overflow ≤ signed negative q := near
      _ ≤ |signed negative q| := le_abs_self _
      _ = |q| := abs_signed ..
  | finite => exact iff_of_true rfl near.1

theorem closest (near : IsNearest q x) (value : x.toRat? = some v) {r : ℚ} (other : IsValue r) :
    |q - v| ≤ |q - r| ∧ (|q - v| = |q - r| → r = v ∨ IsEvenValue v) := by
  obtain ⟨y, known⟩ := exists_toRat? other
  cases x with
  | nan | infinite => cases value
  | finite negative m e canonical =>
    rw [toRat?_finite, Option.some.injEq] at value
    subst value
    obtain ⟨least, tie⟩ := near.2 y r known
    exact ⟨least, fun same => (tie same).imp_right fun even => ⟨_, m, e, canonical, even, rfl⟩⟩

theorem toRat?_self (near : IsNearest q x) (value : IsValue q) : x.toRat? = some q := by
  obtain ⟨v, known⟩ := toRat?_of_isFinite (near.isFinite_iff.2 (abs_lt_overflow value))
  have least := (near.closest known value).1
  rw [sub_self, abs_zero, abs_nonpos_iff, sub_eq_zero] at least
  rw [known, least]

theorem value_unique {w : ℚ} (near : IsNearest q x) (near' : IsNearest q y)
    (value : x.toRat? = some v) (value' : y.toRat? = some w) : v = w := by
  by_contra other
  obtain ⟨least, tie⟩ := near.closest value (isValue_of_toRat? value')
  obtain ⟨least', tie'⟩ := near'.closest value' (isValue_of_toRat? value)
  have middle : |q - v| = |q - w| := le_antisymm least least'
  have even := (tie middle).resolve_left (Ne.symm other)
  have even' := (tie' middle.symm).resolve_left other
  obtain ⟨r, known, between⟩ := even.exists_between even' other
  exact absurd (near.closest value known).1 (not_le.2 (abs_sub_lt_of_between middle between))

theorem toRat?_unique (near : IsNearest q x) (near' : IsNearest q y) : x.toRat? = y.toRat? := by
  have same : x.isFinite = y.isFinite := by
    rw [Bool.eq_iff_iff, near.isFinite_iff, near'.isFinite_iff]
  cases value : x.toRat? with
  | some v =>
    obtain ⟨w, value'⟩ := toRat?_of_isFinite (same ▸ isFinite_of_toRat? value)
    rw [value', near.value_unique near' value value']
  | none =>
    cases value' : y.toRat? with
    | none => rfl
    | some w =>
      obtain ⟨v, known⟩ := toRat?_of_isFinite (same ▸ isFinite_of_toRat? value')
      cases value.symm.trans known

/-! ### Zero -/

/-- A number is rounded to zero when its magnitude is at most half of the least one. -/
theorem toRat?_eq_zero_iff (near : IsNearest q x) :
    x.toRat? = some 0 ↔ |q| ≤ 2 ^ (-1075 : ℤ) := by
  constructor
  · intro zero
    let least : ℚ := 2 ^ (-1074 : ℤ)
    have pos : 0 < least := two_zpow_pos _
    have half : (2 : ℚ) ^ (-1075 : ℤ) = least / 2 := zpow_sub_one₀ two_ne_zero (-1074)
    have value : IsValue least := ⟨1, -1074, by decide, by decide, by decide, by simp [least]⟩
    have right := sq_le_sq.2 (near.closest zero value).1
    have left : (q - 0) ^ 2 ≤ (q - -least) ^ 2 :=
      sq_le_sq.2 (near.closest zero (@isValue_signed true _ value)).1
    rw [half, abs_le]
    constructor <;> nlinarith
  · intro small
    rw [near.toRat?_unique (isNearest_zero small false), toRat?_zero]

/-! ### Integers -/

/-- A number with room for 53 binary digits is moved by less than one part in `2 ^ 53`. -/
theorem relative_error (near : IsNearest q x) (value : x.toRat? = some v)
    (normal : 2 ^ (-1022 : ℤ) ≤ |q|) : v = q ∨ |q - v| < |q| / 2 ^ 53 := by
  have within := near.isFinite_iff.1 (isFinite_of_toRat? value)
  obtain ⟨e, low, high, full, fits⟩ := exists_unit normal within
  obtain ⟨r, grid, close⟩ := exists_isValue_near low high fits within
  rcases full.eq_or_lt with power | more
  -- At a power of two the next value may be half a unit away, but the power itself is a value.
  · left
    have exact_ : IsValue q := by
      have value : IsValue ((2 ^ 52 : ℤ) * 2 ^ e) := ⟨2 ^ 52, e, by decide, low, high, rfl⟩
      rw [Int.cast_pow, Int.cast_ofNat, power] at value
      rcases abs_choice q with same | opposite
      · rwa [same] at value
      · rw [opposite] at value
        simpa [signed] using @isValue_signed true _ value
    have known := near.toRat?_self exact_
    rw [value] at known
    exact Option.some.inj known
  · right
    have least := (near.closest value grid).1
    linarith

/-- A number with a short numerator is rounded to an integer only if it is one, or if it is too
small to be told from zero. -/
theorem eq_of_intCast {n : ℤ} (near : IsNearest q x) (value : x.toRat? = some (n : ℚ))
    (short : |q.num| ≤ 2 ^ 53) (visible : q = 0 ∨ 2 ^ (-1075 : ℤ) < |q|) : q = n := by
  rcases lt_or_ge |q| (2 ^ (-1022 : ℤ)) with subnormal | normal
  -- Below the normal range, zero is the only integer near enough.
  · have zeroValue : IsValue 0 := by simpa using isValue_intCast (n := 0) (by decide)
    have closer := (near.closest value zeroValue).1
    have sum : |(n : ℚ)| ≤ |q| + |q - n| := by simpa using abs_sub q (q - n)
    have tiny : (2 : ℚ) ^ (-1022 : ℤ) ≤ 2 ^ (-1 : ℤ) := zpow_le_zpow_right₀ one_le_two (by decide)
    rw [sub_zero] at closer
    rw [zpow_neg_one] at tiny
    have below : |(n : ℚ)| < 1 := by linarith
    obtain rfl : n = 0 := Int.abs_lt_one_iff.1 (by exact_mod_cast below)
    rw [Int.cast_zero] at value ⊢
    exact visible.resolve_right (not_lt.2 (near.toRat?_eq_zero_iff.1 value))
  · rcases near.relative_error value normal with same | close
    · exact same.symm
    have den : (0 : ℚ) < q.den := by exact_mod_cast q.den_pos
    have parts : (q.num : ℚ) = q * q.den := (Rat.mul_den_eq_num q).symm
    have numerator : |q| * q.den ≤ 2 ^ 53 := by
      rw [← abs_of_pos den, ← abs_mul, ← parts]
      exact_mod_cast short
    have apart : |((q.num - n * q.den : ℤ) : ℚ)| < 1 := by
      push_cast
      calc |(q.num : ℚ) - n * q.den| = |q - n| * q.den := by
            rw [parts, ← sub_mul, abs_mul, abs_of_pos den]
        _ < |q| / 2 ^ 53 * q.den := mul_lt_mul_of_pos_right close den
        _ = |q| * q.den / 2 ^ 53 := by ring
        _ ≤ 1 := (div_le_one (by positivity)).2 numerator
    have whole : q.num = n * q.den := sub_eq_zero.1 (Int.abs_lt_one_iff.1 (by exact_mod_cast apart))
    refine mul_right_cancel₀ den.ne' (parts.symm.trans ?_)
    exact_mod_cast whole

/-- An integer is rounded to an integer, since the large values are integers. -/
theorem exists_intCast {n : ℤ} (near : IsNearest (n : ℚ) x) (value : x.toRat? = some v) :
    ∃ i : ℤ, v = i := by
  rcases le_or_gt |n| (2 ^ 53) with short | long
  · exact ⟨n, Option.some.inj (value.symm.trans (near.toRat?_self (isValue_intCast short)))⟩
  obtain ⟨j, e, digits, -, -, rfl⟩ := isValue_of_toRat? value
  rcases le_or_gt 0 e with up | down
  · obtain ⟨k, rfl⟩ := Int.eq_ofNat_of_zero_le up
    exact ⟨j * 2 ^ k, by push_cast; rfl⟩
  -- Of the values that may be no integers, none is as near as the first beyond them.
  · exfalso
    have less : |(j * 2 ^ e : ℚ)| < 2 ^ 53 := by
      have digits' : |(j : ℚ)| < 2 ^ 53 := by exact_mod_cast digits
      rw [abs_mul, abs_of_pos (two_zpow_pos e)]
      calc |(j : ℚ)| * 2 ^ e ≤ |(j : ℚ)| * 1 :=
            mul_le_mul_of_nonneg_left (zpow_le_one_of_nonpos₀ one_le_two down.le) (abs_nonneg _)
        _ < 2 ^ 53 := by rwa [mul_one]
    obtain ⟨w, known, distance⟩ : ∃ w : ℤ, |w| ≤ 2 ^ 53 ∧ |n - w| = |n| - 2 ^ 53 := by
      rcases abs_cases n with ⟨same, -⟩ | ⟨same, -⟩
      · exact ⟨2 ^ 53, by decide, by rw [same, abs_of_pos (by omega)]⟩
      · exact ⟨-2 ^ 53, by decide, by rw [same, abs_of_neg (by omega)]; ring⟩
    have least := (near.closest value (isValue_intCast known)).1
    have distance' : |(n : ℚ) - w| = |(n : ℚ)| - 2 ^ 53 := by exact_mod_cast distance
    have sum : |(n : ℚ)| ≤ |(j * 2 ^ e : ℚ)| + |(n : ℚ) - j * 2 ^ e| := by
      simpa using abs_add_le (j * 2 ^ e : ℚ) (n - j * 2 ^ e)
    linarith

end IsNearest

/-- The numbers whose nearest double tells which integer they are, if they are one: the values of
doubles, and what has a short numerator and is not lost to zero. -/
def IsDiscerned (q : ℚ) : Prop :=
  IsValue q ∨ |q.num| ≤ 2 ^ 53 ∧ (q = 0 ∨ 2 ^ (-1075 : ℤ) < |q|)

theorem IsDiscerned.intCast_iff {q : ℚ} {x : Double} (discerned : IsDiscerned q)
    (near : IsNearest q x) {n : ℤ} : x.toRat? = some (n : ℚ) ↔ q = n := by
  rcases discerned with value | ⟨short, visible⟩
  · rw [near.toRat?_self value, Option.some.injEq]
  · refine ⟨fun value => near.eq_of_intCast value short visible, ?_⟩
    rintro rfl
    exact near.toRat?_self (isValue_intCast (by simpa using short))

theorem IsDiscerned.visible_iff {q : ℚ} (discerned : IsDiscerned q) :
    2 ^ (-1075 : ℤ) < |q| ↔ q ≠ 0 := by
  constructor
  · rintro visible rfl
    rw [abs_zero] at visible
    exact absurd visible (not_lt.2 (two_zpow_pos _).le)
  · intro nonzero
    rcases discerned with ⟨j, e, -, low, -, rfl⟩ | ⟨-, visible⟩
    · exact (zpow_lt_zpow_right₀ one_lt_two (by decide)).trans_le (two_zpow_le_abs nonzero low)
    · exact visible.resolve_left nonzero

end Double

end TreeSchema
