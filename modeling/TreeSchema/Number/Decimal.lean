import TreeSchema.Number.Double

/-!
Decimal numerals: a sign, a coefficient and a power of ten. Reading one as a
double rounds its exact value once. `Double.shortest` goes the other way: the
fewest digits that read back as the same double, and the nearest to it of
those. It is found by trying the neighbours of the value on ever finer decimal
grids and keeping the first that reads back.
-/

namespace TreeSchema

structure Decimal where
  negative : Bool
  coefficient : Nat
  exponent : Int
  deriving DecidableEq

/-- The number of decimal digits of `n`, one for zero. -/
def digitCount (n : Nat) : Nat :=
  (Nat.repr n).length

namespace Decimal

/-- The exact value of a numeral. -/
def toRat (d : Decimal) : Rat :=
  let n : Int := if d.negative then -(d.coefficient : Int) else d.coefficient
  mkRat (n * Nat.pow 10 d.exponent.toNat) (Nat.pow 10 (-d.exponent).toNat)

/-- The double nearest to a numeral. Values from `10 ^ 310` on are past every
finite double, and values below `10 ^ (-330)` are nearest to zero. -/
def toDouble (d : Decimal) : Double :=
  let magnitude := d.exponent + digitCount d.coefficient
  if d.coefficient = 0 ∨ magnitude < -330 then .zero d.negative
  else if 310 < magnitude then .infinite d.negative
  else
    .round d.negative (d.coefficient * Nat.pow 10 d.exponent.toNat)
      (Nat.pow 10 (-d.exponent).toNat)

/-- The same value without trailing zeros in the coefficient; `fuel` bounds their number. -/
def stripZerosWithin : Nat → Decimal → Decimal
  | 0, d => d
  | fuel + 1, d =>
    if d.coefficient % 10 = 0 ∧ d.coefficient ≠ 0 then
      stripZerosWithin fuel { d with coefficient := d.coefficient / 10, exponent := d.exponent + 1 }
    else d

def stripZeros (d : Decimal) : Decimal :=
  stripZerosWithin (digitCount d.coefficient) d

end Decimal

namespace Double

/-- The power of ten of the leading digit of `n / d`. -/
def leadingPower (n d : Nat) : Int :=
  if d ≤ n then digitCount (n / d) - 1
  else
    let digits := digitCount (d / n)
    if d ≤ n * Nat.pow 10 (digits - 1) then 1 - digits else -digits

/-- The neighbours of `n / d` on the grid of multiples of `10 ^ exponent`, the
nearer first and the even one first when both are as near. -/
def gridNeighbours (n d : Nat) (exponent : Int) : List Nat :=
  let a := n * Nat.pow 10 (-exponent).toNat
  let b := d * Nat.pow 10 exponent.toNat
  let q := a / b
  let r := a % b
  if r = 0 then [q]
  else if 2 * r < b ∨ (2 * r = b ∧ q % 2 = 0) then [q, q + 1]
  else [q + 1, q]

/-- A numeral of `digits` digits that reads back as the double of magnitude `n / d`, the nearest
one. -/
def readBack? (x : Double) (negative : Bool) (n d digits : Nat) : Option Decimal :=
  let exponent := leadingPower n d - digits + 1
  (gridNeighbours n d exponent).map (fun c => (⟨negative, c, exponent⟩ : Decimal))
    |>.find? (·.toDouble = x)

/-- The numeral of a finite double's exact value. -/
def exactDecimal (negative : Bool) (significand : Nat) (exponent : Int) : Decimal :=
  if 0 ≤ exponent then ⟨negative, significand * Nat.pow 2 exponent.toNat, 0⟩
  else ⟨negative, significand * Nat.pow 5 (-exponent).toNat, exponent⟩

/-- The shortest numeral of a finite double. Seventeen digits always suffice. -/
def shortest? (x : Double) : Option Decimal :=
  match x with
  | .finite negative 0 _ _ => some ⟨negative, 0, 0⟩
  | .finite negative m e _ =>
    let n := m * Nat.pow 2 e.toNat
    let d := Nat.pow 2 (-e).toNat
    let found := (List.range 17).findSome? fun i => readBack? x negative n d (i + 1)
    some (found.getD (exactDecimal negative m e)).stripZeros
  | _ => none

end Double

end TreeSchema
