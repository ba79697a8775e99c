import TreeSchema.Proofs.Nearest
import TreeSchema.Proofs.Writing

/-!
Divisibility. Two integers are divided exactly. Any other two numbers are divided as
doubles: both are rounded and then their quotient is, and what is asked is whether the outcome is
whole. Only where it is not finite the numbers themselves are divided.
-/

namespace TreeSchema

namespace Double

/-- A quotient of doubles is the nearest double to the quotient of their values. -/
theorem isNearest_div {a b : Double} {r t : ℚ} (value : a.toRat? = some r)
    (value' : b.toRat? = some t) (nonzero : t ≠ 0) : IsNearest (r / t) (a.div b) := by
  cases a with
  | nan | infinite => cases value
  | finite negative m e canonical =>
  cases b with
  | nan | infinite => cases value'
  | finite negative' k f canonical' =>
    rw [toRat?_finite, Option.some.injEq] at value value'
    have pos : 0 < k := Nat.pos_of_ne_zero fun none => nonzero (by simp [← value', none, signed])
    have quotient : r / t = signed (negative != negative')
        ((m * Nat.pow 2 e.toNat * Nat.pow 2 (-f).toNat : ℕ) /
          (Nat.pow 2 (-e).toNat * (k * Nat.pow 2 f.toNat) : ℕ)) := by
      have magnitude : ((m * Nat.pow 2 e.toNat * Nat.pow 2 (-f).toNat : ℕ) /
          (Nat.pow 2 (-e).toNat * (k * Nat.pow 2 f.toNat) : ℕ) : ℚ) = m * 2 ^ e / (k * 2 ^ f) := by
        rw [two_zpow, two_zpow]
        simp only [Nat.pow_eq]
        push_cast
        field_simp
      rw [← value, ← value', magnitude]
      cases negative <;> cases negative' <;> simp [signed, neg_div, div_neg]
    rw [quotient, div, if_neg pos.ne']
    exact isNearest_round (Nat.mul_pos (Nat.pow_pos two_pos)
      (Nat.mul_pos pos (Nat.pow_pos two_pos))) _

theorem isNearest_ofInt (n : ℤ) : IsNearest n (ofInt n) := by
  have same : (n : ℚ) = signed (n < 0) ((n.natAbs : ℕ) / (1 : ℕ)) := by
    rw [Nat.cast_one, div_one, Nat.cast_natAbs]
    rcases lt_or_ge n 0 with below | above
    · simp [signed, below, abs_of_neg below]
    · simp [signed, above, abs_of_nonneg above]
  rw [same]
  exact isNearest_round one_pos _

/-- A double is what the division of two numbers by doubles comes to. -/
def IsQuotient (v w : ℚ) (q : Double) : Prop :=
  ∃ a b r t, IsNearest v a ∧ a.toRat? = some r ∧ IsNearest w b ∧ b.toRat? = some t ∧
    IsNearest (r / t) q

theorem IsQuotient.toRat?_unique {v w : ℚ} {p q : Double} (quotient : IsQuotient v w p)
    (quotient' : IsQuotient v w q) : p.toRat? = q.toRat? := by
  obtain ⟨a, b, r, t, near, value, near', value', last⟩ := quotient
  obtain ⟨a₂, b₂, r₂, t₂, near₂, value₂, near₂', value₂', last₂⟩ := quotient'
  obtain rfl := near.value_unique near₂ value value₂
  obtain rfl := near'.value_unique near₂' value' value₂'
  exact last.toRat?_unique last₂

/-- Numbers that are values of doubles are divided with one rounding. -/
theorem IsQuotient.isNearest {v w : ℚ} {q : Double} (quotient : IsQuotient v w q)
    (value : IsValue v) (value' : IsValue w) : IsNearest (v / w) q := by
  obtain ⟨a, b, r, t, near, known, near', known', last⟩ := quotient
  obtain rfl : v = r := Option.some.inj ((near.toRat?_self value).symm.trans known)
  obtain rfl : w = t := Option.some.inj ((near'.toRat?_self value').symm.trans known')
  exact last

section

variable {v w : ℚ} {q : Double} (quotient : IsQuotient v w q) (value : IsValue v)
  (value' : IsValue w) (pos : 0 < w)

include quotient value value' pos

theorem IsQuotient.exists_intCast {k : ℤ} (multiple : v = k * w) {r : ℚ}
    (known : q.toRat? = some r) : ∃ i : ℤ, r = i := by
  have near := quotient.isNearest value value'
  rw [(div_eq_iff pos.ne').2 multiple] at near
  exact near.exists_intCast known

theorem IsQuotient.eq_of_intCast (discerned : IsDiscerned (v / w)) {k : ℤ}
    (whole : q.toRat? = some (k : ℚ)) : v = k * w := by
  have near := quotient.isNearest value value'
  exact (div_eq_iff pos.ne').1 ((discerned.intCast_iff near).1 whole)

end

theorem isDiscerned_div {m n : ℤ} (short : |m| ≤ 2 ^ 53) (pos : 0 < n) (short' : n ≤ 2 ^ 53) :
    IsDiscerned (m / n) := by
  have pos' : (0 : ℚ) < n := by exact_mod_cast pos
  rcases eq_or_ne m 0 with rfl | nonzero
  · exact .inl (by simpa using isValue_intCast (n := 0) (by decide))
  refine .inr ⟨?_, .inr ?_⟩
  · have divides : (m / n : ℚ).num ∣ m := by
      rw [← Rat.divInt_eq_div]
      exact Rat.num_dvd m pos.ne'
    have less := Int.natAbs_le_of_dvd_ne_zero divides nonzero
    rw [Int.abs_eq_natAbs] at short ⊢
    omega
  · have large : (1 : ℚ) ≤ |(m : ℚ)| := by exact_mod_cast Int.one_le_abs nonzero
    have small : (n : ℚ) ≤ 2 ^ 53 := by exact_mod_cast short'
    rw [abs_div, abs_of_pos pos', lt_div_iff₀ pos']
    calc (2 : ℚ) ^ (-1075 : ℤ) * n ≤ 2 ^ (-1075 : ℤ) * 2 ^ 53 :=
          mul_le_mul_of_nonneg_left small (two_zpow_pos _).le
      _ = 2 ^ (-1022 : ℤ) := by rw [← zpow_natCast, ← zpow_add₀ two_ne_zero]; rfl
      _ < 1 := zpow_lt_one_of_neg₀ one_lt_two (by decide)
      _ ≤ |(m : ℚ)| := large

end Double

namespace Number

variable {x y : Number} {v w : ℚ}

theorem isNearest_toDouble (value : x.toRat? = some v) : Double.IsNearest v x.toDouble := by
  cases x with
  | int n =>
    cases value
    exact Double.isNearest_ofInt n
  | double x => exact Double.isNearest_self value

theorem ratio_of_toRat? (value : x.toRat? = some v) : x.ratio = .ok v := by
  match x with
  | .int n =>
    cases value
    rfl
  | .double .nan | .double (.infinite _) => cases value
  | .double (.finite ..) => exact congrArg (fun q => Except.ok (Option.getD q 0)) value

theorem toDouble_ne_zero (value : y.toRat? = some w) (pos : 0 < w) {t : ℚ}
    (value' : y.toDouble.toRat? = some t) : t ≠ 0 := by
  rintro rfl
  cases y with
  | double y => exact pos.ne (Option.some.inj (value'.symm.trans value))
  | int n =>
    have small := (isNearest_toDouble value).toRat?_eq_zero_iff.1 value'
    cases value
    have one : (1 : ℚ) ≤ n := by exact_mod_cast (by exact_mod_cast pos : (0 : ℤ) < n)
    rw [abs_of_pos pos] at small
    exact absurd (one.trans small) (not_le.2 (zpow_lt_one_of_neg₀ one_lt_two (by decide)))

theorem quotient_of_isFinite (finite : x.toDouble.isFinite = true)
    (finite' : y.toDouble.isFinite = true) : x.quotient y = x.toDouble.div y.toDouble := by
  cases x <;> cases y <;> simp_all [quotient]

theorem quotient_of_infinite (value : x.toRat? = some v) (value' : y.toRat? = some w)
    (large : x.toDouble.isFinite = false ∨ y.toDouble.isFinite = false) :
    x.quotient y = .infinite false := by
  have finite {z : Double} {u : ℚ} (value : (Number.double z).toRat? = some u) :
      z.isFinite ≠ false := by simp [Double.isFinite_of_toRat? value]
  refine if_pos ?_
  rw [Bool.or_eq_true]
  refine large.imp (fun large => ?_) (fun large => ?_)
  · cases x with
    | int n => exact congrArg (!·) large
    | double x => exact absurd large (finite value)
  · cases y with
    | int n => exact congrArg (!·) large
    | double y => exact absurd large (finite value')

theorem isQuotient_quotient (value : x.toRat? = some v) (value' : y.toRat? = some w) (pos : 0 < w)
    (finite : x.toDouble.isFinite = true) (finite' : y.toDouble.isFinite = true) :
    Double.IsQuotient v w (x.quotient y) := by
  obtain ⟨r, known⟩ := Double.toRat?_of_isFinite finite
  obtain ⟨t, known'⟩ := Double.toRat?_of_isFinite finite'
  rw [quotient_of_isFinite finite finite']
  exact ⟨_, _, r, t, isNearest_toDouble value, known, isNearest_toDouble value', known',
    Double.isNearest_div known known' (toDouble_ne_zero value' pos known')⟩

theorem toRat?_of_isQuotient (value : x.toRat? = some v) (value' : y.toRat? = some w)
    (pos : 0 < w) {q : Double} (quotient : Double.IsQuotient v w q) :
    q.toRat? = (x.quotient y).toRat? := by
  refine quotient.toRat?_unique (isQuotient_quotient value value' pos ?_ ?_)
  · obtain ⟨a, b, r, t, near, known, -⟩ := quotient
    exact Double.isFinite_of_toRat? ((isNearest_toDouble value).toRat?_unique near ▸ known)
  · obtain ⟨a, b, r, t, -, -, near, known, -⟩ := quotient
    exact Double.isFinite_of_toRat? ((isNearest_toDouble value').toRat?_unique near ▸ known)

theorem isQuotient_of_isFinite (value : x.toRat? = some v) (value' : y.toRat? = some w)
    (pos : 0 < w) (finite : (x.quotient y).isFinite = true) :
    Double.IsQuotient v w (x.quotient y) := by
  by_cases large : x.toDouble.isFinite = false ∨ y.toDouble.isFinite = false
  · rw [quotient_of_infinite value value' large] at finite
    cases finite
  · rw [not_or, Bool.not_eq_false, Bool.not_eq_false] at large
    exact isQuotient_quotient value value' pos large.1 large.2

theorem isMultiple_int {m n : ℤ} :
    (int m).isMultiple (int n) = .ok true ↔ ∃ k : ℤ, (m : ℚ) = k * n := by
  have divides : m % n = 0 ↔ ∃ k : ℤ, m = k * n := by
    rw [← Int.dvd_iff_emod_eq_zero, dvd_iff_exists_eq_mul_left]
  change Except.ok (m % n == 0) = .ok true ↔ _
  rw [Except.ok.injEq, beq_iff_eq, divides]
  exact exists_congr fun k => by norm_cast

theorem isMultiple_of_quotient (mixed : ¬ ∃ m n, x = int m ∧ y = int n)
    (finite : (x.quotient y).isFinite = true) :
    x.isMultiple y = .ok (x.quotient y).isWhole := by
  unfold isMultiple
  split
  · exact absurd ⟨_, _, rfl, rfl⟩ mixed
  · exact if_pos finite

theorem isMultiple_of_ratio (value : x.toRat? = some v) (value' : y.toRat? = some w)
    (pos : 0 < w) (mixed : ¬ ∃ m n, x = int m ∧ y = int n)
    (infinite : (x.quotient y).isFinite = false) :
    x.isMultiple y = .ok true ↔ ∃ k : ℤ, v = k * w := by
  have exact_ : x.isMultiple y = .ok ((v / w).den == 1) := by
    unfold isMultiple
    split
    · exact absurd ⟨_, _, rfl, rfl⟩ mixed
    · dsimp only
      rw [infinite, ratio_of_toRat? value, ratio_of_toRat? value']
      rfl
  rw [exact_, Except.ok.injEq, beq_iff_eq]
  constructor
  · intro whole
    refine ⟨(v / w).num, ?_⟩
    rw [Rat.coe_int_num_of_den_eq_one whole, div_mul_cancel₀ _ pos.ne']
  · rintro ⟨k, rfl⟩
    rw [mul_div_cancel_right₀ _ pos.ne', Rat.den_intCast]

/-- Unless both are integers, the verdict is a matter of the values alone. -/
theorem isMultiple_mixed (value : x.toRat? = some v) (value' : y.toRat? = some w) (pos : 0 < w)
    (mixed : ¬ ∃ m n, x = int m ∧ y = int n) :
    x.isMultiple y = .ok true ↔
      (∃ q, ∃ k : ℤ, Double.IsQuotient v w q ∧ q.toRat? = some (k : ℚ)) ∨
        (∀ q, Double.IsQuotient v w q → q.isFinite = false) ∧ ∃ k : ℤ, v = k * w := by
  cases finite : (x.quotient y).isFinite with
  | true =>
    have quotient := isQuotient_of_isFinite value value' pos finite
    rw [isMultiple_of_quotient mixed finite, Except.ok.injEq, Double.isWhole_iff_exists]
    constructor
    · rintro ⟨k, whole⟩
      exact .inl ⟨_, k, quotient, whole⟩
    · rintro (⟨q, k, quotient', whole⟩ | ⟨infinite, -⟩)
      · exact ⟨k, (toRat?_of_isQuotient value value' pos quotient').symm.trans whole⟩
      · cases finite.symm.trans (infinite _ quotient)
  | false =>
    have infinite {q : Double} (quotient : Double.IsQuotient v w q) : q.isFinite = false := by
      by_contra finite'
      obtain ⟨r, known⟩ := Double.toRat?_of_isFinite ((Bool.not_eq_false _).mp finite')
      rw [toRat?_of_isQuotient value value' pos quotient] at known
      cases finite.symm.trans (Double.isFinite_of_toRat? known)
    rw [isMultiple_of_ratio value value' pos mixed finite]
    constructor
    · exact fun multiple => .inr ⟨fun q => infinite, multiple⟩
    · rintro (⟨q, k, quotient, whole⟩ | ⟨-, multiple⟩)
      · cases (infinite quotient).symm.trans (Double.isFinite_of_toRat? whole)
      · exact multiple

end Number

theorem judge_multipleOf_eq_none_iff {x y : Number} :
    (Constraint.multipleOf y).judge (.number x) = .ok none ↔ x.isMultiple y = .ok true := by
  cases decided : x.isMultiple y with
  | error cause =>
    have fails : (Constraint.multipleOf y).judge (.number x) = .error cause := by
      simp only [Constraint.judge, decided]
      rfl
    rw [fails]
    constructor
    · intro accepted
      cases accepted
    · intro multiple
      cases multiple
  | ok multiple =>
    have verdict : (Constraint.multipleOf y).judge (.number x) =
        Constraint.refuseIf (!multiple) (.notMultipleOf (.number y)) := by
      simp only [Constraint.judge, decided]
      rfl
    rw [verdict]
    cases multiple <;> simp [Constraint.refuseIf]

/-- What is accepted as a multiple. Two integers are divided exactly, and so are other numbers
where doubles have no finite quotient; else that quotient has to be an integer. So the verdict is a
matter of the values alone, but for integers, and a divisor is never denied a multiple if both are
values of doubles, nor is it given another one if the quotient can be told from integers. -/
theorem judge_multipleOf_iff {x y : Number} {v w : ℚ} (value : x.toRat? = some v)
    (value' : y.toRat? = some w) (pos : 0 < w) :
    let accepted := (Constraint.multipleOf y).judge (.number x) = .ok none
    ((∃ m n, x = .int m ∧ y = .int n) → (accepted ↔ ∃ k : ℤ, v = k * w)) ∧
    ((¬ ∃ m n, x = .int m ∧ y = .int n) → (accepted ↔
      (∃ q, ∃ k : ℤ, Double.IsQuotient v w q ∧ q.toRat? = some (k : ℚ)) ∨
        (∀ q, Double.IsQuotient v w q → q.isFinite = false) ∧ ∃ k : ℤ, v = k * w)) ∧
    (Double.IsValue v → Double.IsValue w →
      ((∃ k : ℤ, v = k * w) → accepted) ∧
        (Double.IsDiscerned (v / w) → (accepted ↔ ∃ k : ℤ, v = k * w))) ∧
    ∀ m n : ℤ, v = m → w = n → |m| ≤ 2 ^ 53 → n ≤ 2 ^ 53 → (accepted ↔ n ∣ m) := by
  intro accepted
  have judged : accepted ↔ x.isMultiple y = .ok true := judge_multipleOf_eq_none_iff
  have integers (both : ∃ m n, x = .int m ∧ y = .int n) : accepted ↔ ∃ k : ℤ, v = k * w := by
    obtain ⟨m, n, rfl, rfl⟩ := both
    cases value
    cases value'
    exact judged.trans Number.isMultiple_int
  have others (mixed : ¬ ∃ m n, x = .int m ∧ y = .int n) : accepted ↔
      (∃ q, ∃ k : ℤ, Double.IsQuotient v w q ∧ q.toRat? = some (k : ℚ)) ∨
        (∀ q, Double.IsQuotient v w q → q.isFinite = false) ∧ ∃ k : ℤ, v = k * w :=
    judged.trans (Number.isMultiple_mixed value value' pos mixed)
  have accepts (known : Double.IsValue v) (known' : Double.IsValue w)
      (divides : ∃ k : ℤ, v = k * w) : accepted := by
    by_cases both : ∃ m n, x = .int m ∧ y = .int n
    · exact (integers both).2 divides
    refine (others both).2 ?_
    by_cases found : ∃ q, Double.IsQuotient v w q ∧ q.isFinite = true
    · obtain ⟨q, quotient, finite⟩ := found
      obtain ⟨r, rounded⟩ := Double.toRat?_of_isFinite finite
      obtain ⟨k, multiple⟩ := divides
      obtain ⟨i, rfl⟩ := quotient.exists_intCast known known' pos multiple rounded
      exact .inl ⟨q, i, quotient, rounded⟩
    · refine .inr ⟨fun q quotient => ?_, divides⟩
      exact Bool.eq_false_of_not_eq_true fun finite => found ⟨q, quotient, finite⟩
  have exactly (known : Double.IsValue v) (known' : Double.IsValue w)
      (discerned : Double.IsDiscerned (v / w)) : accepted ↔ ∃ k : ℤ, v = k * w := by
    refine ⟨fun verdict => ?_, accepts known known'⟩
    by_cases both : ∃ m n, x = .int m ∧ y = .int n
    · exact (integers both).1 verdict
    rcases (others both).1 verdict with ⟨q, k, quotient, whole⟩ | ⟨-, divides⟩
    · exact ⟨k, quotient.eq_of_intCast known known' pos discerned whole⟩
    · exact divides
  refine ⟨integers, others, fun known known' => ⟨accepts known known', exactly known known'⟩, ?_⟩
  rintro m n rfl rfl short short'
  have positive : 0 < n := by exact_mod_cast pos
  have known' : Double.IsValue n := Double.isValue_intCast ((abs_of_pos positive).trans_le short')
  rw [exactly (Double.isValue_intCast short) known' (Double.isDiscerned_div short positive short'),
    dvd_iff_exists_eq_mul_left]
  exact exists_congr fun k => by norm_cast

theorem judge_multipleOf_whole :
    (Constraint.multipleOf (.int 3)).judge (.number (.double (.ofInt 6))) = .ok none := by
  obtain ⟨-, -, -, verdict⟩ := @judge_multipleOf_iff (.double (.ofInt 6)) (.int 3) 6 3
    (by decide +kernel) rfl (by norm_num)
  exact (verdict 6 3 rfl rfl (by decide) (by decide)).2 (by decide)

/-- Where a number is rounded first, others than multiples are accepted, and multiples refused. -/
theorem judge_multipleOf_rounded :
    ((Constraint.multipleOf (.double (.ofInt 2))).judge (.number (.int 9007199254740993)) =
        .ok none ∧
      (Double.ofInt 2).toRat? = some 2 ∧ ¬ ∃ k : ℤ, ((9007199254740993 : ℤ) : ℚ) = k * 2) ∧
    (Constraint.multipleOf (.double (.ofInt 3002399751580331))).judge
        (.number (.int 9007199254740993)) ≠ .ok none ∧
      (Double.ofInt 3002399751580331).toRat? = some 3002399751580331 ∧
      ((9007199254740993 : ℤ) : ℚ) = (3 : ℤ) * 3002399751580331 := by
  refine ⟨⟨?_, by decide +kernel, ?_⟩, ?_, by decide +kernel, by norm_num⟩
  · rw [judge_multipleOf_eq_none_iff, Number.isMultiple_of_quotient (by simp) (by decide +kernel)]
    decide +kernel
  · rintro ⟨k, same⟩
    have : (9007199254740993 : ℤ) = k * 2 := by exact_mod_cast same
    omega
  · rw [Ne, judge_multipleOf_eq_none_iff,
      Number.isMultiple_of_quotient (by simp) (by decide +kernel)]
    decide +kernel

end TreeSchema
