import TreeSchema.Number.Basic
import Mathlib.Algebra.Order.Field.Basic
import Mathlib.Algebra.Order.Field.Power
import Mathlib.Tactic.FieldSimp
import Mathlib.Tactic.Linarith
import Mathlib.Tactic.Ring

/-!
Rounding to doubles. The values of doubles are the multiples of a power of two
by integers of 53 binary digits, no power below `2 ^ (-1074)` and none above `2 ^ 971`.
-/

namespace TreeSchema

namespace Double

/-! ### Values -/

/-- A magnitude with a sign. -/
def signed (negative : Bool) (q : ℚ) : ℚ :=
  if negative then -q else q

theorem signed_signed (negative : Bool) (q : ℚ) : signed negative (signed negative q) = q := by
  cases negative
  · rfl
  · exact neg_neg q

theorem abs_signed (negative : Bool) (q : ℚ) : |signed negative q| = |q| := by
  cases negative
  · rfl
  · exact abs_neg q

theorem abs_signed_sub (negative : Bool) (q r : ℚ) :
    |signed negative q - r| = |q - signed negative r| := by
  cases negative
  · rfl
  · change |-q - r| = |q - -r|
    rw [← abs_neg]
    ring_nf

theorem two_zpow (e : ℤ) : (2 : ℚ) ^ e = 2 ^ e.toNat / 2 ^ (-e).toNat := by
  obtain ⟨n, rfl | rfl⟩ := e.eq_nat_or_neg <;> simp

theorem two_zpow_pos (e : ℤ) : (0 : ℚ) < 2 ^ e :=
  zpow_pos two_pos e

variable {negative : Bool} {m : ℕ} {e : ℤ}

theorem toRat?_finite (canonical : Canonical m e) :
    (finite negative m e canonical).toRat? = some (signed negative (m * 2 ^ e)) := by
  rw [two_zpow]
  cases negative <;> simp [toRat?, fraction?, signed, Rat.mkRat_eq_div, mul_div_assoc, neg_div]

/-- The values of doubles. -/
def IsValue (r : ℚ) : Prop :=
  ∃ j e : ℤ, |j| < 2 ^ 53 ∧ -1074 ≤ e ∧ e ≤ 971 ∧ r = j * 2 ^ e

theorem isValue_signed {r : ℚ} (value : IsValue r) : IsValue (signed negative r) := by
  obtain ⟨j, e, short, low, high, rfl⟩ := value
  cases negative
  · exact ⟨j, e, short, low, high, rfl⟩
  · refine ⟨-j, e, by rwa [abs_neg], low, high, ?_⟩
    simp [signed]

theorem isValue_of_toRat? {y : Double} {r : ℚ} (value : y.toRat? = some r) : IsValue r := by
  cases y with
  | nan | infinite => cases value
  | finite negative m e canonical =>
    rw [toRat?_finite, Option.some.injEq] at value
    subst value
    obtain ⟨short, low, high, -⟩ := canonical
    exact isValue_signed ⟨m, e, by rw [Nat.abs_cast]; exact_mod_cast short, low, high, rfl⟩

/-- Every value is brought to canonical form by doubling the significand. -/
theorem exists_toRat? {r : ℚ} (value : IsValue r) : ∃ y : Double, y.toRat? = some r := by
  have magnitude (n : ℕ) : ∀ (m : ℕ) (e : ℤ), m < 2 ^ 53 → e = -1074 + n → e ≤ 971 →
      ∀ negative, ∃ y : Double, y.toRat? = some (signed negative (m * 2 ^ e)) := by
    induction n with
    | zero =>
      intro m e short least high negative
      have canonical : Canonical m e := ⟨short, by omega, high, .inr (by omega)⟩
      exact ⟨_, toRat?_finite canonical⟩
    | succ n ih =>
      intro m e short exponent high negative
      rcases Nat.lt_or_ge m (2 ^ 52) with fewer | full
      · obtain ⟨y, value⟩ := ih (2 * m) (e - 1) (by omega) (by omega) (by omega) negative
        refine ⟨y, value.trans (congrArg (some ∘ signed negative) ?_)⟩
        rw [zpow_sub_one₀ two_ne_zero]
        push_cast
        ring
      · have canonical : Canonical m e := ⟨short, by omega, high, .inl full⟩
        exact ⟨_, toRat?_finite canonical⟩
  obtain ⟨j, e, short, low, high, rfl⟩ := value
  rw [Int.abs_eq_natAbs] at short
  obtain ⟨y, value⟩ := magnitude (e + 1074).toNat j.natAbs e (by omega) (by omega) high (j < 0)
  refine ⟨y, value.trans (congrArg some ?_)⟩
  rw [Nat.cast_natAbs]
  rcases lt_or_ge j 0 with below | above
  · simp [signed, below, abs_of_neg below]
  · simp [signed, above, abs_of_nonneg above]

/-! ### Units in the last place -/

theorem inUnits_ratio (n d : ℕ) (e : ℤ) :
    ((inUnits n d e).1 : ℚ) / (inUnits n d e).2 = n / d / 2 ^ e := by
  simp only [inUnits, two_zpow, Nat.pow_eq]
  push_cast
  field_simp

theorem inUnits_pos {n d : ℕ} (pos : 0 < d) (e : ℤ) : 0 < (inUnits n d e).2 :=
  Nat.mul_pos pos (Nat.pow_pos two_pos)

theorem log2_window {n : ℕ} (pos : 0 < n) :
    (2 : ℚ) ^ (n.log2 : ℤ) ≤ n ∧ (n : ℚ) < 2 ^ ((n.log2 : ℤ) + 1) := by
  constructor
  · exact_mod_cast Nat.log2_self_le pos.ne'
  · exact_mod_cast Nat.lt_log2_self (n := n)

/-- A quotient has 53 binary digits before the point in its unit, or fewer if the unit is the
least one. -/
theorem unitExponent_spec {n d : ℕ} (pos : 0 < n) (pos' : 0 < d) :
    -1074 ≤ unitExponent n d ∧ (n / d : ℚ) < 2 ^ 53 * 2 ^ unitExponent n d ∧
      (2 ^ 52 * 2 ^ unitExponent n d ≤ (n / d : ℚ) ∨ unitExponent n d = -1074) := by
  let low : ℤ := (n.log2 : ℤ) - d.log2 - 53
  have scale (k e : ℤ) : (2 : ℚ) ^ (k + e) = 2 ^ k * 2 ^ e := zpow_add₀ two_ne_zero k e
  have above : (2 : ℚ) ^ (52 + low) ≤ n / d := by
    obtain ⟨least, -⟩ := log2_window pos
    obtain ⟨-, most⟩ := log2_window pos'
    rw [le_div_iff₀ (by exact_mod_cast pos')]
    calc (2 : ℚ) ^ (52 + low) * d ≤ 2 ^ (52 + low) * 2 ^ ((d.log2 : ℤ) + 1) := by gcongr
      _ = 2 ^ (n.log2 : ℤ) := by rw [← scale]; congr 1; omega
      _ ≤ n := least
  have below : (n / d : ℚ) < 2 ^ (54 + low) := by
    obtain ⟨-, most⟩ := log2_window pos
    obtain ⟨least, -⟩ := log2_window pos'
    rw [div_lt_iff₀ (by exact_mod_cast pos')]
    calc (n : ℚ) < 2 ^ ((n.log2 : ℤ) + 1) := most
      _ = 2 ^ (54 + low) * 2 ^ (d.log2 : ℤ) := by rw [← scale]; congr 1; omega
      _ ≤ 2 ^ (54 + low) * d := by gcongr
  -- The candidate that the comparison picks has 53 digits; the least exponent only cuts it.
  obtain ⟨best, exponent, full, fits⟩ : ∃ best : ℤ, unitExponent n d = max best (-1074) ∧
      (2 : ℚ) ^ (52 + best) ≤ n / d ∧ (n / d : ℚ) < 2 ^ (53 + best) := by
    have picked : (inUnits n d low).1 < (inUnits n d low).2 * Nat.pow 2 53 ↔
        (n / d : ℚ) < 2 ^ (53 + low) := by
      rw [scale, ← div_lt_iff₀ (two_zpow_pos low), ← inUnits_ratio,
        div_lt_iff₀ (by exact_mod_cast inUnits_pos pos' low), mul_comm, Nat.pow_eq]
      norm_cast
    by_cases short : (n / d : ℚ) < 2 ^ (53 + low)
    · exact ⟨low, congrArg (max · _) (if_pos (picked.2 short)), above, short⟩
    · refine ⟨low + 1, congrArg (max · _) (if_neg (picked.not.2 short)), ?_, ?_⟩
      · rw [show 52 + (low + 1) = 53 + low by ring]
        exact not_lt.1 short
      · rwa [show 53 + (low + 1) = 54 + low by ring]
  have cast (k : ℕ) (e : ℤ) : (2 : ℚ) ^ k * 2 ^ e = 2 ^ (k + e) := by rw [scale, zpow_natCast]
  rw [exponent, cast, cast]
  refine ⟨le_max_right .., fits.trans_le ?_, ?_⟩
  · exact zpow_le_zpow_right₀ one_le_two (by push_cast; omega)
  · rcases max_choice best (-1074) with same | same
    · rw [same]
      exact .inl full
    · exact .inr same

/-- Rounding a quotient moves it by a half at most, and by a half only to an even number. -/
theorem roundHalfEven_spec {n d : ℕ} (pos : 0 < d) :
    |(n / d : ℚ) - roundHalfEven n d| ≤ 1 / 2 ∧
      (|(n / d : ℚ) - roundHalfEven n d| = 1 / 2 → roundHalfEven n d % 2 = 0) := by
  have pos' : (0 : ℚ) < d := by exact_mod_cast pos
  let part : ℚ := (n % d : ℕ) / d
  have ratio : (n / d : ℚ) = (n / d : ℕ) + part := by
    have whole : (n : ℚ) = d * (n / d : ℕ) + (n % d : ℕ) := by
      exact_mod_cast (Nat.div_add_mod n d).symm
    dsimp only [part]
    rw [whole]
    field_simp
  have low : 0 ≤ part := div_nonneg (Nat.cast_nonneg _) pos'.le
  have high : part < 1 := (div_lt_one pos').2 (by exact_mod_cast Nat.mod_lt n pos)
  have less : 2 * (n % d) < d ↔ part < 1 / 2 := by
    rw [div_lt_div_iff₀ pos' two_pos, one_mul, mul_comm]
    norm_cast
  have more : d < 2 * (n % d) ↔ 1 / 2 < part := by
    rw [div_lt_div_iff₀ two_pos pos', one_mul, mul_comm 2]
    norm_cast
  rw [ratio]
  unfold roundHalfEven
  dsimp only
  by_cases down : 2 * (n % d) < d
  · rw [if_pos down, add_sub_cancel_left, abs_of_nonneg low]
    exact ⟨(less.1 down).le, fun tie => absurd tie (less.1 down).ne⟩
  by_cases up : d < 2 * (n % d)
  · have short : |(n / d : ℕ) + part - (n / d + 1 : ℕ)| < 1 / 2 := by
      have := more.1 up
      rw [abs_lt]
      push_cast
      constructor <;> linarith
    rw [if_neg down, if_pos up]
    exact ⟨short.le, fun tie => absurd tie short.ne⟩
  · have half : part = 1 / 2 := le_antisymm (not_lt.1 (more.not.1 up)) (not_lt.1 (less.not.1 down))
    rw [if_neg down, if_neg up, half]
    rcases Nat.mod_two_eq_zero_or_one (n / d) with even | odd
    · refine ⟨?_, fun _ => by omega⟩
      rw [even, add_zero, add_sub_cancel_left, abs_of_pos one_half_pos]
    · refine ⟨?_, fun _ => by omega⟩
      rw [odd]
      push_cast
      rw [add_sub_add_left_eq_sub]
      norm_num

/-- What a rounded significand becomes: the double of its value, or an infinite one when there is
no room left. -/
theorem ofParts_cases {k : ℕ} {e : ℤ} (short : k ≤ 2 ^ 53) (low : -1074 ≤ e)
    (full : 2 ^ 52 ≤ k ∨ e = -1074) (negative : Bool) :
    (∃ m f canonical, ofParts negative k e = finite negative m f canonical ∧
        (m * 2 ^ f : ℚ) = k * 2 ^ e ∧ (k % 2 = 0 → m % 2 = 0) ∧ (e < 971 ∨ e = 971 ∧ k < 2 ^ 53)) ∨
      ofParts negative k e = infinite negative ∧ (971 < e ∨ e = 971 ∧ k = 2 ^ 53) := by
  unfold ofParts
  by_cases canonical : Canonical k e
  · obtain ⟨fits, -, high, -⟩ := id canonical
    rw [Nat.pow_eq] at fits
    refine .inl ⟨k, e, canonical, dif_pos canonical, rfl, id, ?_⟩
    exact high.lt_or_eq.imp_right fun last => ⟨last, fits⟩
  rw [dif_neg canonical]
  have beyond : 971 < e ∨ k = 2 ^ 53 := by
    simp only [Canonical, Nat.pow_eq] at canonical
    omega
  by_cases carried : k = Nat.pow 2 53 ∧ Canonical (Nat.pow 2 52) (e + 1)
  · obtain ⟨same, -, -, high, -⟩ := id carried
    rw [Nat.pow_eq] at same
    refine .inl ⟨_, _, carried.2, dif_pos carried, ?_, fun _ => by decide, .inl (by omega)⟩
    rw [same, zpow_add_one₀ two_ne_zero, Nat.pow_eq]
    push_cast
    ring
  · refine .inr ⟨dif_neg carried, ?_⟩
    simp only [Canonical, Nat.pow_eq] at carried
    omega

/-! ### The nearest double -/

/-- The magnitude halfway between the greatest finite double and the power of two after it. -/
def overflow : ℚ :=
  (2 ^ 53 - 1 / 2) * 2 ^ (971 : ℤ)

/-- The double is nearest to `q`: none is nearer, and one as near has the odd significand. What is
too large for the finite doubles is taken to be infinite. -/
def IsNearest (q : ℚ) : Double → Prop
  | .nan => False
  | .infinite negative => overflow ≤ signed negative q
  | .finite negative m e _ =>
    let v := signed negative (m * 2 ^ e)
    |q| < overflow ∧ ∀ y r, Double.toRat? y = some r →
      |q - v| ≤ |q - r| ∧ (|q - v| = |q - r| → r = v ∨ m % 2 = 0)

theorem nearest_of_half {x : ℚ} {k j : ℤ} (near : |x - k| ≤ 1 / 2) :
    |x - k| ≤ |x - j| ∧ (|x - k| = |x - j| → j = k ∨ |x - k| = 1 / 2) := by
  rcases eq_or_ne j k with rfl | other
  · exact ⟨le_rfl, fun _ => .inl rfl⟩
  have apart : (1 : ℚ) ≤ |x - k| + |x - j| := by
    calc (1 : ℚ) ≤ |(j - k : ℤ)| := by exact_mod_cast Int.one_le_abs (sub_ne_zero.2 other)
      _ = |(x - k) - (x - j)| := by push_cast; ring_nf
      _ ≤ |x - k| + |x - j| := abs_sub _ _
  exact ⟨by linarith, fun same => .inr (by linarith)⟩

/-- The multiple of the unit of `q` nearest to it is nearest among all values. -/
theorem nearest_of_unit {q : ℚ} {e : ℤ} {k : ℕ} (full : 2 ^ 52 * 2 ^ e ≤ q ∨ e = -1074)
    (near : |q / 2 ^ e - k| ≤ 1 / 2) (tie : |q / 2 ^ e - k| = 1 / 2 → k % 2 = 0) {r : ℚ}
    (value : IsValue r) :
    |q - k * 2 ^ e| ≤ |q - r| ∧ (|q - k * 2 ^ e| = |q - r| → r = k * 2 ^ e ∨ k % 2 = 0) := by
  obtain ⟨j, f, short, low, -, rfl⟩ := value
  have unit : (0 : ℚ) < 2 ^ e := two_zpow_pos e
  have scaled (i : ℤ) : |q - i * 2 ^ e| = |q / 2 ^ e - i| * 2 ^ e := by
    rw [← abs_of_pos unit, ← abs_mul, abs_of_pos unit, sub_mul, div_mul_cancel₀ _ unit.ne']
  have among (i : ℤ) : |q - k * 2 ^ e| ≤ |q - i * 2 ^ e| ∧
      (|q - k * 2 ^ e| = |q - i * 2 ^ e| → (i * 2 ^ e : ℚ) = k * 2 ^ e ∨ k % 2 = 0) := by
    obtain ⟨less, same⟩ := nearest_of_half (j := i) (k := k) near
    have left := scaled k
    rw [Int.cast_natCast] at left
    rw [left, scaled]
    refine ⟨mul_le_mul_of_nonneg_right less unit.le, fun equal => ?_⟩
    rcases same (mul_right_cancel₀ unit.ne' equal) with rfl | half
    · exact .inl rfl
    · exact .inr (tie half)
  by_cases coarse : e ≤ f
  · have lifted : (j * 2 ^ f : ℚ) = (j * 2 ^ (f - e).toNat : ℤ) * 2 ^ e := by
      obtain ⟨n, rfl⟩ := Int.le.dest coarse
      rw [zpow_add₀ two_ne_zero]
      simp
      ring
    rw [lifted]
    exact among _
  -- A value on a finer grid lies below the digits of `q`, and the first of these is nearer.
  · replace full := full.resolve_right (by omega)
    have fine : |(j * 2 ^ f : ℚ)| < 2 ^ 52 * 2 ^ e := by
      have step : (2 : ℚ) ^ f ≤ 2 ^ (e - 1) := zpow_le_zpow_right₀ one_le_two (by omega)
      rw [abs_mul, abs_of_pos (two_zpow_pos f)]
      calc |(j : ℚ)| * 2 ^ f < 2 ^ 53 * 2 ^ f :=
            mul_lt_mul_of_pos_right (by exact_mod_cast short) (two_zpow_pos f)
        _ ≤ 2 ^ 53 * 2 ^ (e - 1) := by gcongr
        _ = 2 ^ 52 * 2 ^ e := by rw [zpow_sub_one₀ two_ne_zero]; ring
    have first := (among (2 ^ 52)).1
    have farther : |q - k * 2 ^ e| < |q - j * 2 ^ f| := by
      have := (abs_lt.1 fine).2
      rw [Int.cast_pow, Int.cast_ofNat,
        abs_of_nonneg (by linarith : 0 ≤ q - 2 ^ 52 * 2 ^ e)] at first
      rw [abs_of_pos (by linarith : 0 < q - j * 2 ^ f)]
      linarith
    exact ⟨farther.le, fun same => absurd same farther.ne⟩

section

variable {q : ℚ} {e : ℤ} {k : ℕ} (fits : q < 2 ^ 53 * 2 ^ e)
  (full : 2 ^ 52 * 2 ^ e ≤ q ∨ e = -1074) (near : |q / 2 ^ e - k| ≤ 1 / 2)
  (tie : |q / 2 ^ e - k| = 1 / 2 → k % 2 = 0)

include fits near tie in
theorem lt_overflow (room : e < 971 ∨ e = 971 ∧ k < 2 ^ 53) : q < overflow := by
  rcases room with room | ⟨rfl, room⟩
  · calc q < 2 ^ 53 * 2 ^ e := fits
      _ ≤ 2 ^ 53 * 2 ^ (971 - 1 : ℤ) :=
        mul_le_mul_of_nonneg_left (zpow_le_zpow_right₀ one_le_two (by omega)) (by positivity)
      _ < overflow := by
        have unit := two_zpow_pos 971
        rw [overflow, zpow_sub_one₀ two_ne_zero]
        generalize (2 : ℚ) ^ (971 : ℤ) = u at *
        linarith
  -- Halfway past the greatest significand, which is odd, rounding goes up.
  · have less : q / 2 ^ (971 : ℤ) < 2 ^ 53 - 1 / 2 := by
      have above := (abs_le.1 near).2
      rcases Nat.lt_or_ge (k + 1) (2 ^ 53) with smaller | greatest
      · have : (k + 2 : ℚ) ≤ 2 ^ 53 := by exact_mod_cast smaller
        linarith
      · have apart : |q / 2 ^ (971 : ℤ) - k| < 1 / 2 := lt_of_le_of_ne near fun half => by
          have := tie half
          omega
        have : (k + 1 : ℚ) = 2 ^ 53 := by exact_mod_cast (by omega : k + 1 = 2 ^ 53)
        have := (abs_lt.1 apart).2
        linarith
    exact (div_lt_iff₀ (two_zpow_pos 971)).1 less

include full near in
theorem overflow_le (spent : 971 < e ∨ e = 971 ∧ k = 2 ^ 53) : overflow ≤ q := by
  rcases spent with beyond | ⟨rfl, rfl⟩
  · calc overflow ≤ 2 ^ 52 * 2 ^ (971 + 1 : ℤ) := by
          have unit := two_zpow_pos 971
          rw [overflow, zpow_add_one₀ two_ne_zero]
          generalize (2 : ℚ) ^ (971 : ℤ) = u at *
          linarith
      _ ≤ 2 ^ 52 * 2 ^ e :=
          mul_le_mul_of_nonneg_left (zpow_le_zpow_right₀ one_le_two (by omega)) (by positivity)
      _ ≤ q := full.resolve_right (by omega)
  · have below := (abs_le.1 near).1
    rw [Nat.cast_pow, Nat.cast_ofNat] at below
    exact (le_div_iff₀ (two_zpow_pos 971)).1 (by linarith)

/-- The multiple of its unit that a magnitude is rounded to makes the nearest double. -/
theorem isNearest_ofParts (nonneg : 0 ≤ q) (low : -1074 ≤ e) (fits : q < 2 ^ 53 * 2 ^ e)
    (full : 2 ^ 52 * 2 ^ e ≤ q ∨ e = -1074) (near : |q / 2 ^ e - k| ≤ 1 / 2)
    (tie : |q / 2 ^ e - k| = 1 / 2 → k % 2 = 0) (negative : Bool) :
    IsNearest (signed negative q) (ofParts negative k e) := by
  have unit : (0 : ℚ) < 2 ^ e := two_zpow_pos e
  obtain ⟨least, most⟩ := abs_le.1 near
  have short : k ≤ 2 ^ 53 := by
    have digits : q / 2 ^ e < 2 ^ 53 := (div_lt_iff₀ unit).2 fits
    have : (k : ℚ) < (2 ^ 53 + 1 : ℕ) := by push_cast; linarith
    exact Nat.lt_succ_iff.1 (by exact_mod_cast this)
  have full' : 2 ^ 52 ≤ k ∨ e = -1074 := by
    refine full.imp_left fun digits => ?_
    replace digits : 2 ^ 52 ≤ q / 2 ^ e := (le_div_iff₀ unit).2 digits
    have : ((2 ^ 52 : ℕ) : ℚ) < (k + 1 : ℕ) := by push_cast; linarith
    exact Nat.lt_succ_iff.1 (by exact_mod_cast this)
  rcases ofParts_cases short low full' negative with
    ⟨m, f, canonical, parts, value, even, room⟩ | ⟨parts, spent⟩
  · rw [parts]
    refine ⟨?_, fun y r known => ?_⟩
    · rw [abs_signed, abs_of_nonneg nonneg]
      exact lt_overflow fits near tie room
    · rw [value, abs_signed_sub, abs_signed_sub, signed_signed]
      obtain ⟨least, same⟩ :=
        nearest_of_unit full near tie (isValue_signed (isValue_of_toRat? known))
      refine ⟨least, fun equal => (same equal).imp (fun own => ?_) even⟩
      rw [← own, signed_signed]
  · rw [parts, IsNearest, signed_signed]
    exact overflow_le full near spent

end

/-- Rounding gives the nearest double. -/
theorem isNearest_round {n d : ℕ} (pos : 0 < d) (negative : Bool) :
    IsNearest (signed negative (n / d)) (round negative n d) := by
  rcases Nat.eq_zero_or_pos n with rfl | pos'
  · have zero : IsNearest (signed negative 0) (ofParts negative 0 (-1074)) :=
      isNearest_ofParts le_rfl le_rfl (by positivity) (.inr rfl) (by simp) (by simp) negative
    rw [Nat.cast_zero, zero_div]
    exact zero
  obtain ⟨low, fits, full⟩ := unitExponent_spec pos' pos
  obtain ⟨near, tie⟩ := roundHalfEven_spec (n := (inUnits n d (unitExponent n d)).1)
    (inUnits_pos (n := n) pos (unitExponent n d))
  rw [inUnits_ratio] at near tie
  rw [round, if_neg pos'.ne']
  exact isNearest_ofParts (by positivity) low fits full near tie negative

end Double

end TreeSchema
