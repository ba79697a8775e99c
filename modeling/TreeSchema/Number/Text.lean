import TreeSchema.Failure
import TreeSchema.Number.Basic
import TreeSchema.Number.Decimal

/-!
The written form of numbers. Integers are written in decimal within a limit on
their length; doubles with the fewest digits that read back, laid out as
`DoubleLayout` says.
-/

namespace TreeSchema

/-- The decisions on the written form of a double: the powers of ten of the leading digit
that are written positionally, and the words for the values that are not finite. -/
structure DoubleLayout where
  leastPositional : Int
  mostPositional : Int
  nan : String
  infinity : String

/-- A point always stands in positional form; the exponent has a sign and at least two digits. -/
def DoubleLayout.plain : DoubleLayout :=
  { leastPositional := -4, mostPositional := 15, nan := "nan", infinity := "inf" }

/-- The layout of documents, which differs in its words only. -/
def DoubleLayout.document : DoubleLayout :=
  { DoubleLayout.plain with nan := "NaN", infinity := "Infinity" }

def digitsOf (n : Nat) : List Char :=
  (Nat.repr n).toList

/-- Digits with the point after the `point`-th of them, zeros filling the gaps. -/
def positional (digits : List Char) (point : Int) : List Char :=
  if point ≤ 0 then
    '0' :: '.' :: List.replicate (-point).toNat '0' ++ digits
  else
    let whole := digits.take point.toNat
    let fraction := digits.drop point.toNat
    whole ++ List.replicate (point.toNat - digits.length) '0' ++
      '.' :: (if fraction.isEmpty then ['0'] else fraction)

/-- Digits with the point after the first of them, and a power of ten. -/
def scientific (digits : List Char) (power : Int) : List Char :=
  let exponent := digitsOf power.natAbs
  let fraction := digits.drop 1
  digits.take 1 ++ (if fraction.isEmpty then [] else '.' :: fraction) ++
    'e' :: (if power < 0 then '-' else '+') ::
    List.replicate (2 - exponent.length) '0' ++ exponent

def Decimal.text (layout : DoubleLayout) (d : Decimal) : List Char :=
  let digits := digitsOf d.coefficient
  let power := d.exponent + digits.length - 1
  let body :=
    if layout.leastPositional ≤ power ∧ power ≤ layout.mostPositional then
      positional digits (power + 1)
    else scientific digits power
  if d.negative then '-' :: body else body

def Double.text (layout : DoubleLayout) (x : Double) : String :=
  match x with
  | .nan => layout.nan
  | .infinite true => "-" ++ layout.infinity
  | .infinite false => layout.infinity
  | .finite .. => String.ofList ((x.shortest?.map (·.text layout)).getD [])

/-- An integer in decimal. -/
def integerText (n : Int) : Except Failure String :=
  if digitCount n.natAbs ≤ digitLimit then .ok (toString n) else .error .tooLongToWrite

def Number.text (layout : DoubleLayout) : Number → Except Failure String
  | .int n => integerText n
  | .double x => .ok (x.text layout)

end TreeSchema
