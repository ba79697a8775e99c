import TreeSchema.Number.Text
import TreeSchema.Text.Blank
import TreeSchema.Text.Digit
import TreeSchema.Text.Quoted

/-!
Numerals in text: an optional sign, digits of any script with an optional point
among them, an optional power of ten, and blanks around it all. A numeral with
neither point nor power is read as an exact integer, any other as a double.
The readers skip white space but no separators, so a numeral with separators in
its margins is recognised and then fails.
-/

namespace TreeSchema

open Text

structure Numeral where
  leading : List Char
  negative : Bool
  whole : List Char
  fraction : Option (List Char)
  power : Option (Bool × List Char)
  trailing : List Char

namespace Numeral

/-- A sign, if there is one, and what follows it. -/
def takeSign : List Char → Bool × List Char
  | '-' :: rest => (true, rest)
  | '+' :: rest => (false, rest)
  | cs => (false, cs)

/-- The digits after a point. -/
def takeFraction : List Char → Option (List Char) × List Char
  | '.' :: rest => (some (rest.takeWhile isDigit), rest.dropWhile isDigit)
  | cs => (none, cs)

/-- The sign and digits of a power of ten; a mark without digits is none. -/
def takePower (cs : List Char) : Option (Bool × List Char) × List Char :=
  match cs with
  | c :: rest =>
    if c == 'e' || c == 'E' then
      let (negative, rest) := takeSign rest
      let digits := rest.takeWhile isDigit
      if digits.isEmpty then (none, cs) else (some (negative, digits), rest.dropWhile isDigit)
    else (none, cs)
  | [] => (none, cs)

def ofChars? (cs : List Char) : Option Numeral :=
  let leading := cs.takeWhile isBlank
  let (negative, rest) := takeSign (cs.dropWhile isBlank)
  let whole := rest.takeWhile isDigit
  let (fraction, rest) := takeFraction (rest.dropWhile isDigit)
  let (power, trailing) := takePower rest
  if (whole.isEmpty && (fraction.getD []).isEmpty) || !trailing.all isBlank then none
  else some { leading, negative, whole, fraction, power, trailing }

def ofString? (s : String) : Option Numeral :=
  ofChars? s.toList

/-- Neither a point nor a power of ten. -/
def isInteger (n : Numeral) : Bool :=
  n.fraction.isNone && n.power.isNone

/-- The exact value. -/
def decimal (n : Numeral) : Decimal :=
  let fraction := n.fraction.getD []
  let power : Int :=
    match n.power with
    | some (negative, digits) =>
      if negative then -(digitsValue digits : Int) else digitsValue digits
    | none => 0
  { negative := n.negative
    coefficient := digitsValue (n.whole ++ fraction)
    exponent := power - fraction.length }

/-- The integer that a numeral without point and power denotes. -/
def integer (n : Numeral) : Int :=
  let value : Int := digitsValue n.whole
  if n.negative then -value else value

/-- Reads the text `s` of a numeral as an integer. -/
def readInteger (n : Numeral) (s : String) : Except Failure Int :=
  let shown := String.ofList ((quotedChars s.toList).take 200)
  if n.leading.any isSeparator then .error (.notAnInteger shown)
  else if digitLimit < n.whole.length then .error (.tooLongToRead n.whole.length)
  else if n.trailing.any isSeparator then .error (.notAnInteger shown)
  else .ok n.integer

/-- Reads the text `s` of a numeral as a double. -/
def readDouble (n : Numeral) (s : String) : Except Failure Double :=
  if n.leading.any isSeparator || n.trailing.any isSeparator then .error (.notADouble (quoted s))
  else .ok n.decimal.toDouble

end Numeral

/-! Text that is no numeral may still name a double: digits may be grouped by
underscores, and there are words for the values that are not finite. -/

/-- A blank or digit of any script as its ASCII counterpart. -/
def asciiForm (c : Char) : Char :=
  if c.toNat < 127 then c
  else if isBlank c then ' '
  else match digit? c with
    | some d => Char.ofNat (48 + d)
    | none => c

/-- Removes underscores that stand between two digits; any other one is refused. -/
def ungroup? : List Char → Option (List Char)
  | [] => some []
  | '_' :: _ => none
  | c :: '_' :: d :: rest =>
    if isDigit c && isDigit d then (ungroup? (d :: rest)).map (c :: ·) else none
  | c :: rest => (ungroup? rest).map (c :: ·)

def namedDouble? (cs : List Char) : Option Double :=
  let (negative, name) := Numeral.takeSign cs
  let name := String.ofList (name.map Char.toLower)
  if name == "inf" || name == "infinity" then some (.infinite negative)
  else if name == "nan" then some .nan
  else none

/-- Reads any text as a double. -/
def readDouble (s : String) : Except Failure Double :=
  match Numeral.ofString? s with
  | some n => n.readDouble s
  | none =>
    let cs := s.toList.map asciiForm
    let cs := ((cs.dropWhile isAsciiBlank).reverse.dropWhile isAsciiBlank).reverse
    let numeral := (ungroup? cs).bind Numeral.ofChars?
    match namedDouble? cs, numeral with
    | some x, _ => .ok x
    | none, some n =>
      if n.leading.isEmpty && n.trailing.isEmpty then .ok n.decimal.toDouble
      else .error (.notADouble (quoted s))
    | none, none => .error (.notADouble (quoted s))

end TreeSchema
