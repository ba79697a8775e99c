import TreeSchema.Failure
import TreeSchema.Number.Decimal
import TreeSchema.Tree

/-!
Plain scalars: what a word without quotes stands for. There are many spellings
of the booleans and of null; integers may be binary, octal, hexadecimal or in
base sixty, with underscores between the digits; a double has a point.
-/

namespace TreeSchema.Yaml

def trueSpellings : List String :=
  ["yes", "Yes", "YES", "true", "True", "TRUE", "on", "On", "ON"]

def falseSpellings : List String :=
  ["no", "No", "NO", "false", "False", "FALSE", "off", "Off", "OFF"]

def nullSpellings : List String :=
  ["", "~", "null", "Null", "NULL"]

def isDigit (c : Char) : Bool :=
  '0' ≤ c && c ≤ '9'

/-- The value of a digit in bases up to sixteen. -/
def digitValue (c : Char) : Nat :=
  if isDigit c then c.toNat - 48
  else if 'a' ≤ c && c ≤ 'f' then c.toNat - 87
  else c.toNat - 55

def isHexDigit (c : Char) : Bool :=
  isDigit c || ('a' ≤ c && c ≤ 'f') || ('A' ≤ c && c ≤ 'F')

def numberIn (base : Nat) (digits : List Char) : Nat :=
  (digits.filter (· != '_')).foldl (fun n c => base * n + digitValue c) 0

/-- Whether there are characters, all of them digits of a kind or underscores. -/
def areDigits (test : Char → Bool) (cs : List Char) : Bool :=
  !cs.isEmpty && cs.all fun c => c == '_' || test c

def takeSign : List Char → Bool × List Char
  | '-' :: rest => (true, rest)
  | '+' :: rest => (false, rest)
  | cs => (false, cs)

/-- The parts of a text between colons. -/
def colonParts (cs : List Char) : List (List Char) :=
  cs.foldr (fun c parts =>
    match parts with
    | part :: rest => if c == ':' then [] :: parts else (c :: part) :: rest
    | [] => [[c]]) [[]]

/-- A part of a number in base sixty after the first. -/
def isSixtieth : List Char → Bool
  | [c] => isDigit c
  | [a, b] => '0' ≤ a && a ≤ '5' && isDigit b
  | _ => false

def sixtyValue (parts : List (List Char)) : Nat :=
  parts.foldl (fun n part => 60 * n + numberIn 10 part) 0

/-- An integer without a sign, and the length of its digits if they are decimal. -/
def natural? (cs : List Char) : Option (Nat × Nat) :=
  match cs with
  | '0' :: 'b' :: rest =>
    if areDigits (fun c => c == '0' || c == '1') rest then some (numberIn 2 rest, 0) else none
  | '0' :: 'x' :: rest => if areDigits isHexDigit rest then some (numberIn 16 rest, 0) else none
  | ['0'] => some (0, 1)
  | '0' :: rest =>
    if areDigits (fun c => '0' ≤ c && c ≤ '7') rest then some (numberIn 8 rest, 0) else none
  | c :: rest =>
    if !isDigit c then none
    else if rest.all fun c => c == '_' || isDigit c then
      some (numberIn 10 cs, (cs.filter isDigit).length)
    else
      match colonParts cs with
      | first :: others =>
        if areDigits isDigit first && !others.isEmpty && others.all isSixtieth then
          some (sixtyValue (first :: others), 0)
        else none
      | [] => none
  | [] => none

def integer? (cs : List Char) : Option (Except Failure Int) :=
  let (negative, digits) := takeSign cs
  (natural? digits).map fun (n, length) =>
    if digitLimit < length then .error (.tooLongToRead length)
    else .ok (if negative then -(n : Int) else n)

/-- A mark with a sign and digits, or nothing. -/
def exponent? : List Char → Option Int
  | [] => some 0
  | mark :: sign :: digits =>
    if (mark == 'e' || mark == 'E') && (sign == '-' || sign == '+') && !digits.isEmpty &&
        digits.all isDigit then
      let n : Int := numberIn 10 digits
      some (if sign == '-' then -n else n)
    else none
  | _ => none

/-- Digits, a point, digits and perhaps an exponent. -/
def pointed? (negative : Bool) (cs : List Char) : Option Double :=
  let whole := cs.takeWhile (· != '.')
  match cs.dropWhile (· != '.') with
  | '.' :: rest =>
    let fraction := rest.takeWhile fun c => isDigit c || c == '_'
    let startsWell :=
      match whole with
      | c :: _ => isDigit c && areDigits isDigit whole
      | [] => (fraction.head?.map isDigit).getD false
    if startsWell then
      (exponent? (rest.dropWhile fun c => isDigit c || c == '_')).map fun power =>
        let places := (fraction.filter isDigit).length
        Decimal.toDouble ⟨negative, numberIn 10 (whole ++ fraction), power - places⟩
    else none
  | _ => none

/-- A number in base sixty whose last part has a point. -/
def sixtyPointed? (negative : Bool) (cs : List Char) : Option Double :=
  let whole := colonParts (cs.takeWhile (· != '.'))
  match whole, cs.dropWhile (· != '.') with
  | first :: second :: others, '.' :: fraction =>
    if (first.head?.map isDigit).getD false && areDigits isDigit first &&
        (second :: others).all isSixtieth && fraction.all fun c => isDigit c || c == '_' then
      let digits := fraction.filter isDigit
      let n := sixtyValue whole * Nat.pow 10 digits.length + numberIn 10 digits
      some (Decimal.toDouble ⟨negative, n, -(digits.length : Int)⟩)
    else none
  | _, _ => none

def infinitySpellings : List String := [".inf", ".Inf", ".INF"]
def nanSpellings : List String := [".nan", ".NaN", ".NAN"]

def double? (cs : List Char) : Option Double :=
  let (negative, digits) := takeSign cs
  let signed := digits.length != cs.length
  if infinitySpellings.contains (String.ofList digits) then some (.infinite negative)
  else if nanSpellings.contains (String.ofList cs) then some .nan
  else if signed && digits.head? == some '.' then none
  else (pointed? negative digits).orElse fun _ => sixtyPointed? negative digits

/-- The tree that a plain scalar stands for. -/
def plainScalar (cs : List Char) : Except Failure Tree :=
  let word := String.ofList cs
  if trueSpellings.contains word then .ok (.bool true)
  else if falseSpellings.contains word then .ok (.bool false)
  else if nullSpellings.contains word then .ok .null
  else
    match double? cs, integer? cs with
    | some x, _ => .ok (.number (.double x))
    | none, some (.ok n) => .ok (.number (.int n))
    | none, some (.error cause) => .error cause
    | none, none => .ok (.string word)

end TreeSchema.Yaml
