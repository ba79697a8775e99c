/-!
Double precision numbers as exact mathematics. A finite double is a sign and a
significand times a power of two in lowest form, so that equal doubles are
equal terms. `Double.round` is the nearest double to a quotient of naturals,
the even significand winning a tie, and every operation below is an exact
rational computation followed by one rounding.
-/

namespace TreeSchema

/-- The form in which each magnitude is written once: a full significand, or the least exponent. -/
def Double.Canonical (significand : Nat) (exponent : Int) : Prop :=
  significand < Nat.pow 2 53 ∧ -1074 ≤ exponent ∧ exponent ≤ 971 ∧
    (Nat.pow 2 52 ≤ significand ∨ exponent = -1074)

instance (significand : Nat) (exponent : Int) :
    Decidable (Double.Canonical significand exponent) :=
  inferInstanceAs (Decidable (_ ∧ _))

inductive Double where
  | nan
  | infinite (negative : Bool)
  | finite (negative : Bool) (significand : Nat) (exponent : Int)
      (canonical : Double.Canonical significand exponent)
  deriving DecidableEq

/-- The natural number nearest to `n / d`, the even one of two. -/
def roundHalfEven (n d : Nat) : Nat :=
  let q := n / d
  let r := n % d
  if 2 * r < d then q
  else if d < 2 * r then q + 1
  else q + q % 2

namespace Double

def zero (negative : Bool) : Double :=
  .finite negative 0 (-1074) (by decide)

def isFinite : Double → Bool
  | .finite .. => true
  | _ => false

/-- The double of a significand that rounding has brought to at most `2 ^ 53`;
a magnitude with no room left is infinite. -/
def ofParts (negative : Bool) (significand : Nat) (exponent : Int) : Double :=
  if h : Canonical significand exponent then .finite negative significand exponent h
  else if h : significand = Nat.pow 2 53 ∧ Canonical (Nat.pow 2 52) (exponent + 1) then
    .finite negative (Nat.pow 2 52) (exponent + 1) h.2
  else .infinite negative

/-- Numerator and denominator of `n / d` in units of `2 ^ exponent`. -/
def inUnits (n d : Nat) (exponent : Int) : Nat × Nat :=
  (n * Nat.pow 2 (-exponent).toNat, d * Nat.pow 2 exponent.toNat)

/-- The exponent at which `n / d` has 53 binary digits before the point, or the least one. -/
def unitExponent (n d : Nat) : Int :=
  let low : Int := (n.log2 : Int) - d.log2 - 53
  let (a, b) := inUnits n d low
  max (if a < b * Nat.pow 2 53 then low else low + 1) (-1074)

/-- The double nearest to `n / d`, with the given sign. -/
def round (negative : Bool) (n d : Nat) : Double :=
  if n = 0 then zero negative
  else
    let exponent := unitExponent n d
    let (a, b) := inUnits n d exponent
    ofParts negative (roundHalfEven a b) exponent

def ofInt (n : Int) : Double :=
  round (n < 0) n.natAbs 1

/-- Sign, numerator and denominator of a finite double. -/
def fraction? : Double → Option (Bool × Nat × Nat)
  | .finite negative m e _ => some (negative, m * Nat.pow 2 e.toNat, Nat.pow 2 (-e).toNat)
  | _ => none

/-- The exact value of a finite double. -/
def toRat? (x : Double) : Option Rat :=
  x.fraction?.map fun (negative, n, d) => mkRat (if negative then -(n : Int) else n) d

/-- The quotient of two doubles, rounded once. -/
def div : Double → Double → Double
  | .nan, _ => .nan
  | _, .nan => .nan
  | .infinite _, .infinite _ => .nan
  | .infinite a, .finite b _ _ _ => .infinite (a != b)
  | .finite a _ _ _, .infinite b => zero (a != b)
  | .finite a m e _, .finite b k f _ =>
    if k = 0 then
      if m = 0 then .nan else .infinite (a != b)
    else
      round (a != b) (m * Nat.pow 2 e.toNat * Nat.pow 2 (-f).toNat)
        (Nat.pow 2 (-e).toNat * (k * Nat.pow 2 f.toNat))

/-- Whether the value is a whole number. -/
def isWhole : Double → Bool
  | .finite _ m e _ => 0 ≤ e || m % Nat.pow 2 (-e).toNat == 0
  | _ => false

/-- The integer part, which is the value itself when it is whole. -/
def toInt : Double → Int
  | .finite negative m e _ =>
    let n : Int := (m * Nat.pow 2 e.toNat / Nat.pow 2 (-e).toNat : Nat)
    if negative then -n else n
  | _ => 0

/-- A finite double is whole when its exact value is an integer. -/
theorem isWhole_iff {negative : Bool} {m : Nat} {e : Int} {canonical : Canonical m e} :
    (Double.finite negative m e canonical).isWhole = true ↔
      ∃ n : Int, (Double.finite negative m e canonical).toRat? = some (n : Rat) := by
  let d : Nat := Nat.pow 2 (-e).toNat
  have pos : d ≠ 0 := Nat.ne_of_gt (Nat.pow_pos (by decide))
  have integral (a : Int) : (∃ n : Int, mkRat a d = (n : Rat)) ↔ (d : Int) ∣ a := by
    refine exists_congr fun n => ?_
    rw [← Rat.mkRat_one, Rat.mkRat_eq_iff pos Nat.one_ne_zero, Int.natCast_one, Int.mul_one,
      Int.mul_comm]
  have value : (∃ n : Int, (Double.finite negative m e canonical).toRat? = some (n : Rat)) ↔
      d ∣ m * Nat.pow 2 e.toNat := by
    simp only [toRat?, fraction?, Option.map_some, Option.some.injEq]
    rw [integral, ← Int.natCast_dvd_natCast]
    split
    · rw [Int.dvd_neg]
    · rfl
  rw [value, isWhole]
  rcases Int.le_total 0 e with up | down
  · have one : d = 1 := by
      have : (-e).toNat = 0 := by omega
      simp only [d, this]
    simp [one, up]
  · have zero : e.toNat = 0 := by omega
    have same : d ∣ m * Nat.pow 2 e.toNat ↔ m % d = 0 := by
      rw [zero, Nat.dvd_iff_mod_eq_zero]
      simp
    rw [same, Bool.or_eq_true, decide_eq_true_eq, beq_iff_eq]
    refine or_iff_right_of_imp fun up => ?_
    have : (-e).toNat = 0 := by omega
    rw [this]
    exact Nat.mod_one m

end Double

end TreeSchema
