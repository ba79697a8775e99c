import TreeSchema.Proofs.Landing
import TreeSchema.Proofs.Numerals

/-!
The rules for numeric text agree on the number they read. Two of them read a number and the third
one a double, which is the same reading except for numerals of integers. Such an integer may be
rounded as a double, or be past all finite ones, but it does not become zero, and that is all the
third rule asks.
-/

namespace TreeSchema

namespace Number

variable {x : Number}

theorem toInt_of_toRat? {n : ℤ} (value : x.toRat? = some (n : ℚ)) : x.toInt = n := by
  cases x with
  | int m => exact Int.cast_injective (Option.some.inj value)
  | double x => exact Double.toInt_of_toRat? value

theorem toRat?_of_isIntegral (whole : x.isIntegral = true) : x.toRat? = some (x.toInt : ℚ) := by
  obtain ⟨n, point⟩ := isIntegral_iff.1 whole
  have value := extended?_eq_value_iff.1 point
  rw [value, toInt_of_toRat? value]

end Number

variable {s : String} {x : Number}

theorem exists_readDouble_of_readNumber (read : readNumber s = .ok (.ok x)) :
    ∃ y, readDouble s = .ok y ∧ (Number.double y).isZero = x.isZero := by
  rcases readNumber_cases read with ⟨n, numeral, plain, joined, rfl⟩ | ⟨y, double, -, rfl⟩
  · refine ⟨_, Numeral.readDouble_of_joined numeral joined, ?_⟩
    have near := n.decimal.isNearest_toDouble
    rw [Numeral.toRat_decimal plain] at near
    -- An integer other than zero is too large to be rounded to zero.
    have visible : |(n.integer : ℚ)| ≤ 2 ^ (-1075 : ℤ) ↔ n.integer = 0 := by
      constructor
      · intro small
        have tiny : (2 : ℚ) ^ (-1075 : ℤ) < 1 := zpow_lt_one_of_neg₀ one_lt_two (by decide)
        have below : |(n.integer : ℚ)| < 1 := small.trans_lt tiny
        exact Int.abs_lt_one_iff.1 (by exact_mod_cast below)
      · intro zero
        rw [zero, Int.cast_zero, abs_zero]
        exact (Double.two_zpow_pos _).le
    have zero : (Number.int n.integer).toRat? = some 0 ↔ n.integer = 0 := by
      rw [Number.toRat?, Option.some.injEq, Int.cast_eq_zero]
    rw [Bool.eq_iff_iff, Double.isZero_iff, near.toRat?_eq_zero_iff, visible, Number.isZero_iff,
      zero]
  · exact ⟨y, double, rfl⟩

section

variable (read : readNumber s = .ok (.ok x))

include read

theorem Rule.convert_numericToBool_of_readNumber :
    Rule.convert .numericToBool (.string s) = .ok (.ok (.bool (!x.isZero))) := by
  obtain ⟨y, double, zero⟩ := exists_readDouble_of_readNumber read
  show Rule.numberToBool (.string s) = _
  rw [Rule.numberToBool_string, double, ← zero]
  rfl

theorem Rule.convert_numericTextToInteger_of_readNumber :
    Rule.convert .numericTextToInteger (.string s) = .ok (Rule.wholeNumber s x) := by
  show Rule.toInteger (.string s) = _
  rw [Rule.toInteger_string, read]
  rfl

theorem Rule.convert_numericTextToInteger_eq_ok_iff {w : Tree} :
    Rule.convert .numericTextToInteger (.string s) = .ok (.ok w) ↔
      x.isIntegral = true ∧ w = .number (.int x.toInt) := by
  rw [Rule.convert_numericTextToInteger_of_readNumber read, Except.ok.injEq, Rule.wholeNumber]
  cases x.isIntegral <;> simp [eq_comm]

end

/-- A number that comes of a text, or whether it is zero. -/
def Tree.Renders (x : Number) : Tree → Prop
  | .number y => y.equal x = true
  | .bool b => b = !x.isZero
  | _ => False

/-- Whatever types are declared, a numeral is converted to the number it is read as. -/
theorem Tree.renders_of_convertTo (read : readNumber s = .ok (.ok x))
    (numeric : (Numeral.ofString? s).isSome = true) {types : List String} {w : Tree}
    (converts : convertTo (.string s) types = .ok (.ok w)) : w.Renders x := by
  obtain ⟨n, numeral⟩ := Option.isSome_iff_exists.1 numeric
  obtain ⟨rule, -, accepts, makes⟩ := exists_rule_of_convertTo converts
  have among := (Numeral.accepts_iff numeral).1 accepts
  simp only [List.mem_cons, List.not_mem_nil, or_false] at among
  rcases among with rfl | rfl | rfl
  · have reads : Rule.convert .numericTextToNumber (.string s) = .ok (.ok (.number x)) :=
      Rule.toNumber_eq_ok_iff.2 read
    cases reads.symm.trans makes
    obtain ⟨q, value⟩ := Rule.exists_toRat?_of_convert reads
    exact Number.equal_of_toRat? value value
  · obtain ⟨integral, rfl⟩ := (Rule.convert_numericTextToInteger_eq_ok_iff read).1 makes
    exact Number.equal_of_toRat? rfl (Number.toRat?_of_isIntegral integral)
  · cases (Rule.convert_numericToBool_of_readNumber read).symm.trans makes
    rfl

/-- The rules for numeric text agree. Of a text that one of them reads as a number, another one
makes whether that number is zero, and the third one an integer equal to it, or nothing if there is
none. So what a numeral is converted to is the same number, or whether it is zero, no
matter which types are declared. -/
theorem conversions_agree
    (reads : Rule.convert .numericTextToNumber (.string s) = .ok (.ok (.number x))) :
    Rule.convert .numericToBool (.string s) = .ok (.ok (.bool (!x.isZero))) ∧
    (x.isIntegral = true → ∃ n, (Number.int n).equal x = true ∧
      Rule.convert .numericTextToInteger (.string s) = .ok (.ok (.number (.int n)))) ∧
    (x.isIntegral = false → ∃ r,
      Rule.convert .numericTextToInteger (.string s) = .ok (.error r)) ∧
    ((Numeral.ofString? s).isSome = true →
      convertTo (.string s) ["number"] = .ok (.ok (.number x)) ∧
      convertTo (.string s) ["boolean"] = .ok (.ok (.bool (!x.isZero))) ∧
      (x.isIntegral = true → ∃ w, convertTo (.string s) ["integer"] = .ok (.ok w)) ∧
      ∀ types w, convertTo (.string s) types = .ok (.ok w) → w.Renders x) := by
  have read : readNumber s = .ok (.ok x) := Rule.toNumber_eq_ok_iff.1 reads
  have truth := Rule.convert_numericToBool_of_readNumber read
  have integer (integral : x.isIntegral = true) :
      Rule.convert .numericTextToInteger (.string s) = .ok (.ok (.number (.int x.toInt))) :=
    (Rule.convert_numericTextToInteger_eq_ok_iff read).2 ⟨integral, rfl⟩
  refine ⟨truth, fun integral => ⟨x.toInt, ?_, integer integral⟩, fun fractional => ?_,
    fun numeric => ⟨?_, ?_, fun integral => ?_, ?_⟩⟩
  · exact Number.equal_of_toRat? rfl (Number.toRat?_of_isIntegral integral)
  · rw [Rule.convert_numericTextToInteger_of_readNumber read, Rule.wholeNumber,
      if_neg (ne_true_of_eq_false fractional)]
    exact ⟨_, rfl⟩
  · exact convertTo_of_succeeds .number rfl ⟨numeric, reads⟩
  · exact convertTo_of_succeeds .boolean rfl ⟨numeric, truth⟩
  · exact ⟨_, convertTo_of_succeeds .integer rfl ⟨numeric, integer integral⟩⟩
  · exact fun types w => Tree.renders_of_convertTo read numeric

/-- An integer that is rounded as a double, and a fraction that is rounded to zero. -/
theorem conversions_agree_rounded :
    Rule.convert .numericToBool (.string " 9007199254740993") = .ok (.ok (.bool true)) ∧
      (∃ n, (Number.int n).equal (.int 9007199254740993) = true ∧
        Rule.convert .numericTextToInteger (.string " 9007199254740993") =
          .ok (.ok (.number (.int n)))) ∧
      convertTo (.string "-1e-400") ["boolean"] = .ok (.ok (.bool false)) := by
  have large : Rule.convert .numericTextToNumber (.string " 9007199254740993") =
      .ok (.ok (.number (.int 9007199254740993))) := rfl
  have tiny : Rule.convert .numericTextToNumber (.string "-1e-400") =
      .ok (.ok (.number (.double (.zero true)))) := rfl
  obtain ⟨truth, integer, -, -⟩ := conversions_agree large
  obtain ⟨-, -, -, declared⟩ := conversions_agree tiny
  obtain ⟨-, zero, -, -⟩ := declared rfl
  rw [Double.isZero_iff.2 (Double.toRat?_zero true)] at zero
  exact ⟨truth, integer rfl, zero⟩

end TreeSchema
