import TreeSchema.Proofs.Agreement
import TreeSchema.Proofs.Layout
import TreeSchema.Proofs.Writing

/-!
From a number to text and back. A number with an integer value is written as that integer, which is
read exactly. Any other finite double is written as a decimal that it is the nearest double to;
the text is read as a nearest double, too, and those have one value. This is true of the
decimal with the fewest digits, and of the exact one that it would give way to.
-/

namespace TreeSchema

/-! ### Shortest decimals -/

theorem Decimal.toRat_stripZerosWithin (fuel : ℕ) (d : Decimal) :
    (stripZerosWithin fuel d).toRat = d.toRat := by
  induction fuel generalizing d with
  | zero => rfl
  | succ fuel ih =>
    unfold stripZerosWithin
    split
    · next trailing =>
      obtain ⟨c, multiple⟩ := Nat.dvd_of_mod_eq_zero trailing.1
      rw [ih, toRat_eq, toRat_eq, multiple, Nat.mul_div_cancel_left c (by decide),
        zpow_add_one₀ (by norm_num)]
      refine congrArg (Double.signed d.negative) ?_
      push_cast
      ring
    · rfl

namespace Double

theorem toRat_exactDecimal (negative : Bool) (m : ℕ) (e : ℤ) :
    (exactDecimal negative m e).toRat = signed negative (m * 2 ^ e) := by
  unfold exactDecimal
  split
  · next whole =>
    obtain ⟨k, rfl⟩ := Int.eq_ofNat_of_zero_le whole
    simp [Decimal.toRat_eq]
  · next below =>
    obtain ⟨k, rfl⟩ : ∃ k : ℕ, e = -k := ⟨e.natAbs, by omega⟩
    rw [Decimal.toRat_eq]
    refine congrArg (signed negative) ?_
    have parts : (10 : ℚ) ^ k = 2 ^ k * 5 ^ k := by rw [← mul_pow]; norm_num
    simp only [neg_neg, Int.toNat_natCast, Nat.pow_eq, zpow_neg, zpow_natCast]
    push_cast
    rw [parts]
    field_simp

variable {x : Double}

theorem toDouble_of_readBack? {negative : Bool} {n d digits : ℕ} {c : Decimal}
    (found : readBack? x negative n d digits = some c) : c.toDouble = x :=
  of_decide_eq_true (List.find?_some (p := fun c : Decimal => decide (c.toDouble = x)) found)

/-- A decimal that reads back is as good as the exact one. -/
theorem isNearest_getD {found : Option Decimal} {exact_ : Decimal}
    (back : ∀ d ∈ found, d.toDouble = x) (own : IsNearest exact_.toRat x) :
    IsNearest (found.getD exact_).toRat x := by
  cases found with
  | none => exact own
  | some d =>
    have near := d.isNearest_toDouble
    rwa [back d rfl] at near

/-- A finite double is nearest to the decimal that it is written as. -/
theorem exists_shortest? (finite : x.isFinite = true) :
    ∃ d, x.shortest? = some d ∧ IsNearest d.toRat x := by
  cases x with
  | nan | infinite => cases finite
  | finite negative m e canonical =>
    have own : IsNearest (signed negative (m * 2 ^ e)) (.finite negative m e canonical) :=
      isNearest_self (toRat?_finite canonical)
    cases m with
    | zero =>
      refine ⟨⟨negative, 0, 0⟩, rfl, ?_⟩
      rw [Decimal.toRat_eq]
      simpa using own
    | succ m =>
      refine ⟨_, rfl, ?_⟩
      rw [Decimal.stripZeros, Decimal.toRat_stripZerosWithin]
      refine isNearest_getD (fun d found => ?_) ?_
      · obtain ⟨i, -, back⟩ := List.exists_of_findSome?_eq_some found
        exact toDouble_of_readBack? back
      · rw [toRat_exactDecimal]
        exact own

end Double

/-! ### Reading back -/

/-- The text of a finite double is read as a double of the same value. -/
theorem readNumber_text {x : Double} {q : ℚ} (value : x.toRat? = some q) (layout : DoubleLayout) :
    (Numeral.ofString? (x.text layout)).isSome = true ∧
      ∃ y, readNumber (x.text layout) = .ok (.ok y) ∧ y.toRat? = some q := by
  have finite := Double.isFinite_of_toRat? value
  obtain ⟨d, shortest, near⟩ := Double.exists_shortest? finite
  have text : x.text layout = String.ofList (d.text layout) := by
    cases x with
    | nan | infinite => cases finite
    | finite =>
      show String.ofList ((Option.map _ _).getD []) = _
      rw [shortest]
      rfl
  have numeral := d.ofString?_text layout
  rw [← text] at numeral
  have bare := d.isBare_numeral layout
  let y := (d.numeral layout).decimal.toDouble
  have near' : Double.IsNearest d.toRat y := by
    rw [← d.toRat_numeral layout]
    exact Decimal.isNearest_toDouble _
  have value' : y.toRat? = some q := (near'.toRat?_unique near).trans value
  refine ⟨by rw [numeral]; rfl, .double y, ?_, value'⟩
  rw [readNumber_of_fractional numeral (d.isInteger_numeral layout),
    Numeral.readDouble_of_joined numeral bare.joined]
  have number := finiteNumber_eq_ok_iff (s := x.text layout).2
    ⟨Double.isFinite_of_toRat? value', rfl⟩
  exact congrArg Except.ok number

theorem readNumber_toString {n : ℤ} (short : digitCount n.natAbs ≤ digitLimit) :
    readNumber (toString n) = .ok (.ok (.int n)) := by
  have numeral := Numeral.ofString?_toString n
  have read : (Numeral.ofInt n).readInteger (toString n) = .ok n := by
    refine Numeral.readInteger_eq_ok_iff.2 ⟨rfl, ?_, (Numeral.integer_ofInt n).symm⟩
    exact (length_digitsOf _).trans_le short
  rw [readNumber_of_isInteger numeral rfl, read]
  rfl

/-- A finite number is written as a numeral that is read as a number of the same value. -/
theorem exists_text {x : Number} {q : ℚ} (value : x.toRat? = some q) (short : x.Short) :
    ∃ s, Rule.Succeeds .numberToText (.number x) (.string s) ∧
      (Numeral.ofString? s).isSome = true ∧
      ∃ y, readNumber s = .ok (.ok y) ∧ y.toRat? = some q := by
  have ofInt {n : ℤ} (short : digitCount n.natAbs ≤ digitLimit) :
      (Numeral.ofString? (toString n)).isSome = true ∧
        ∃ y, readNumber (toString n) = .ok (.ok y) ∧ y.toRat? = some (n : ℚ) :=
    ⟨by rw [Numeral.ofString?_toString]; rfl, _, readNumber_toString short, rfl⟩
  cases x with
  | int n =>
    cases value
    refine ⟨toString n, ⟨rfl, ?_⟩, ofInt short⟩
    have written : (Tree.number (.int n)).plainText = .ok (toString n) := integerText_eq_ok short
    simp only [Rule.convert, Rule.toText, written]
  | double x =>
    cases whole : x.isWhole with
    | true =>
      obtain ⟨n, known⟩ := Double.isWhole_iff_exists.1 whole
      obtain rfl : q = n := Option.some.inj (value.symm.trans known)
      have part : x.toInt = n := Double.toInt_of_toRat? known
      have few : digitCount n.natAbs ≤ digitLimit := by
        rw [← part]
        exact x.digitCount_toInt_le.trans (by decide)
      refine ⟨toString n, ⟨rfl, ?_⟩, ofInt few⟩
      simp only [Rule.convert, Rule.toText, if_pos whole, part]
    | false =>
      refine ⟨x.text .plain, ⟨rfl, ?_⟩, readNumber_text value .plain⟩
      simp only [Rule.convert, Rule.toText, if_neg (ne_true_of_eq_false whole)]

/-- A finite number that can be written is written as a numeral, which as a number is converted to
one that is equal to it. If the number stands for an integer, the numeral is converted to that very
integer. -/
theorem convert_written {x : Number} {q : ℚ} (value : x.toRat? = some q) (short : x.Short) :
    ∃ s, convertTo (.number x) ["string"] = .ok (.ok (.string s)) ∧
      (Numeral.ofString? s).isSome = true ∧
      (∃ y, convertTo (.string s) ["number"] = .ok (.ok (.number y)) ∧
        (Tree.number y).equal (.number x) = true) ∧
      (x.isIntegral = true → ∃ n : ℤ,
        convertTo (.string s) ["integer"] = .ok (.ok (.number (.int n))) ∧ q = n) := by
  obtain ⟨s, writes, numeric, y, read, value'⟩ := exists_text value short
  have same : y.equal x = true := Number.equal_of_toRat? value' value
  refine ⟨s, convertTo_of_succeeds .string rfl writes, numeric, ⟨y, ?_, same⟩, fun integral => ?_⟩
  · exact convertTo_of_succeeds .number rfl ⟨numeric, Rule.toNumber_eq_ok_iff.2 read⟩
  · have whole : y.isIntegral = true := (Number.isIntegral_eq_of_equal same).trans integral
    have reads := (Rule.convert_numericTextToInteger_eq_ok_iff read).2 ⟨whole, rfl⟩
    refine ⟨y.toInt, convertTo_of_succeeds .integer rfl ⟨numeric, reads⟩, ?_⟩
    exact Option.some.inj (value'.symm.trans (Number.toRat?_of_isIntegral whole))

theorem convert_written_whole :
    ∃ s, convertTo (.number (.double (.ofInt (-3)))) ["string"] = .ok (.ok (.string s)) ∧
      convertTo (.string s) ["integer"] = .ok (.ok (.number (.int (-3)))) := by
  have value : (Number.double (.ofInt (-3))).toRat? = some (-3) := by decide +kernel
  have whole : (Number.double (.ofInt (-3))).isIntegral = true := by decide +kernel
  obtain ⟨s, writes, -, -, integer⟩ := convert_written value trivial
  obtain ⟨n, reads, same⟩ := integer whole
  obtain rfl : -3 = n := by exact_mod_cast same
  exact ⟨s, writes, reads⟩

end TreeSchema
