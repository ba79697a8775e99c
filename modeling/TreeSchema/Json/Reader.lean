import TreeSchema.Json.Error
import TreeSchema.Number.Decimal
import TreeSchema.Tree

/-!
Reading JSON. A number with a fraction or an exponent is a double and any other
an exact integer; three words stand for the doubles that JSON lacks. Of two
members with one key the later gives the value and the earlier the place.
-/

namespace TreeSchema.Json

/-- The text from some position on. -/
structure Cursor where
  rest : List Char
  position : Nat

abbrev Reader := StateT Cursor (Except Unread)

namespace Reader

def failAt {α : Type} (cause : Cause) (position : Nat) : Reader α :=
  throw (.malformed cause position)

def failHere {α : Type} (cause : Cause) : Reader α := do
  failAt cause (← get).position

def skip (n : Nat) : Reader Unit :=
  modify fun c => { rest := c.rest.drop n, position := c.position + n }

def isSpace (c : Char) : Bool :=
  c == ' ' || c == '\t' || c == '\n' || c == '\r'

def skipSpace : Reader Unit := do
  skip ((← get).rest.takeWhile isSpace).length

def isDigit (c : Char) : Bool :=
  '0' ≤ c && c ≤ '9'

/-! Strings -/

def hexValue? (c : Char) : Option Nat :=
  if isDigit c then some (c.toNat - 48)
  else if 'a' ≤ c && c ≤ 'f' then some (c.toNat - 87)
  else if 'A' ≤ c && c ≤ 'F' then some (c.toNat - 55)
  else none

def hexNumber? (digits : List Char) : Option Nat :=
  digits.foldl (fun n c => do return 16 * (← n) + (← hexValue? c)) (some 0)

/-- The four digits of an escape by code point, which may not end the text. -/
def codeUnit : Reader Nat := do
  let c ← get
  if c.rest.length ≤ 4 then failAt .badCodeEscape (c.position - 1)
  match hexNumber? (c.rest.take 4) with
  | none => failAt .badCodeEscape (c.position - 1)
  | some n =>
    skip 4
    return n

def isHigh (n : Nat) : Bool :=
  0xd800 ≤ n && n ≤ 0xdbff

def isLow (n : Nat) : Bool :=
  0xdc00 ≤ n && n ≤ 0xdfff

/-- A code point that is no character reads as the replacement character. -/
def charOfCode (n : Nat) : Char :=
  if isHigh n || isLow n then '\ufffd' else Char.ofNat n

/-- An escape by code point; two of them may make up one character. -/
def codeEscape : Reader Char := do
  let high ← codeUnit
  let c ← get
  match isHigh high, c.rest with
  | true, '\\' :: 'u' :: rest =>
    if rest.length ≤ 4 then return charOfCode high
    skip 2
    let low ← codeUnit
    if isLow low then return charOfCode (0x10000 + (high - 0xd800) * 0x400 + (low - 0xdc00))
    set c
    return charOfCode high
  | _, _ => return charOfCode high

def shortEscape? : Char → Option Char
  | '"' => some '"'
  | '\\' => some '\\'
  | '/' => some '/'
  | 'b' => some '\x08'
  | 'f' => some '\x0c'
  | 'n' => some '\n'
  | 'r' => some '\r'
  | 't' => some '\t'
  | _ => none

/-- The rest of a string whose opening quote is at `start`, after the characters `before`, which
stand in reverse. Each step takes a character, so `fuel` is the length of the text. -/
def stringFrom (start : Nat) : Nat → List Char → Reader String
  | 0, _ => failAt .unterminatedString start
  | fuel + 1, before => do
    let c ← get
    match c.rest with
    | [] => failAt .unterminatedString start
    | '"' :: _ =>
      skip 1
      return String.ofList before.reverse
    | ['\\'] => failAt .unterminatedString start
    | '\\' :: 'u' :: _ =>
      skip 2
      let code ← codeEscape
      stringFrom start fuel (code :: before)
    | '\\' :: letter :: _ =>
      match shortEscape? letter with
      | none => failAt .badEscape c.position
      | some code =>
        skip 2
        stringFrom start fuel (code :: before)
    | code :: _ =>
      if code.toNat < 0x20 then failAt .controlCharacter c.position
      else
        skip 1
        stringFrom start fuel (code :: before)

/-- A string, from its opening quote on. -/
def string : Reader String := do
  let c ← get
  skip 1
  stringFrom c.position c.rest.length []

/-! Numbers -/

def digitsNumber (digits : List Char) : Nat :=
  digits.foldl (fun n c => 10 * n + (c.toNat - 48)) 0

/-- A point and the digits after it, if there are digits. -/
def fraction : Reader (Option (List Char)) := do
  match (← get).rest with
  | '.' :: rest =>
    let digits := rest.takeWhile isDigit
    if digits.isEmpty then return none
    skip (digits.length + 1)
    return some digits
  | _ => return none

/-- A mark, a sign and digits, if there are digits. -/
def exponent : Reader (Option Int) := do
  match (← get).rest with
  | mark :: rest =>
    if mark == 'e' || mark == 'E' then
      let (negative, signs) :=
        match rest with
        | '-' :: _ => (true, 1)
        | '+' :: _ => (false, 1)
        | _ => (false, 0)
      let digits := (rest.drop signs).takeWhile isDigit
      if digits.isEmpty then return none
      skip (1 + signs + digits.length)
      let n : Int := digitsNumber digits
      return some (if negative then -n else n)
    else return none
  | [] => return none

/-- The digits before the point: a zero stands alone. -/
def wholeDigits (rest : List Char) : List Char :=
  match rest with
  | '0' :: _ => ['0']
  | rest => rest.takeWhile isDigit

def number : Reader Number := do
  let c ← get
  let negative := c.rest.head? == some '-'
  let whole := wholeDigits (c.rest.drop (if negative then 1 else 0))
  if whole.isEmpty then failAt .valueExpected c.position
  skip (whole.length + (if negative then 1 else 0))
  let fraction ← fraction
  let exponent ← exponent
  if fraction.isNone && exponent.isNone then
    if digitLimit < whole.length then throw (.failed (.tooLongToRead whole.length))
    let n : Int := digitsNumber whole
    return .int (if negative then -n else n)
  else
    let digits := whole ++ fraction.getD []
    let power := exponent.getD 0 - (fraction.getD []).length
    return .double (Decimal.toDouble ⟨negative, digitsNumber digits, power⟩)

/-! Values -/

/-- The words that stand for values. -/
def words : List (String × Tree) :=
  [("null", .null), ("true", .bool true), ("false", .bool false),
    ("NaN", .number (.double .nan)),
    ("Infinity", .number (.double (.infinite false))),
    ("-Infinity", .number (.double (.infinite true)))]

def wordAt? (rest : List Char) : Option (Nat × Tree) :=
  words.findSome? fun (word, t) =>
    if word.toList.isPrefixOf rest then some (word.length, t) else none

/-- Takes a comma, or says that the closing character is next and takes it. -/
def commaOr (close : Char) : Reader Bool := do
  skipSpace
  match (← get).rest with
  | c :: _ =>
    if c == close then
      skip 1
      return false
    else if c == ',' then
      skip 1
      skipSpace
      return true
    else failHere .commaExpected
  | [] => failHere .commaExpected

mutual

/-- A value. `fuel` is more than the number of values and members that there can be. -/
def value : Nat → Reader Tree
  | 0 => failHere .valueExpected
  | fuel + 1 => do
    match (← get).rest with
    | '"' :: _ => return .string (← string)
    | '\x7b' :: _ =>
      skip 1
      skipSpace
      match (← get).rest with
      | '\x7d' :: _ =>
        skip 1
        return .object []
      | _ => return .object (← members fuel [])
    | '[' :: _ =>
      skip 1
      skipSpace
      match (← get).rest with
      | ']' :: _ =>
        skip 1
        return .array []
      | _ => return .array (← items fuel [])
    | rest =>
      match wordAt? rest with
      | some (length, t) =>
        skip length
        return t
      | none => return .number (← number)

/-- The items after `before`, which stand in reverse. -/
def items : Nat → List Tree → Reader (List Tree)
  | 0, _ => failHere .valueExpected
  | fuel + 1, before => do
    let t ← value fuel
    if ← commaOr ']' then items fuel (t :: before) else return (t :: before).reverse

/-- The members after `before`. -/
def members : Nat → Members → Reader Members
  | 0, _ => failHere .nameExpected
  | fuel + 1, before => do
    match (← get).rest with
    | '"' :: _ =>
      let key ← string
      skipSpace
      match (← get).rest with
      | ':' :: _ =>
        skip 1
        skipSpace
        let t ← value fuel
        let now := before.put key t
        if ← commaOr '\x7d' then members fuel now else return now
      | _ => failHere .colonExpected
    | _ => failHere .nameExpected

end

/-- A whole text: one value with space around it. -/
def document : Reader Tree := do
  if (← get).rest.head? == some '\ufeff' then failHere .byteOrderMark
  skipSpace
  let t ← value (2 * (← get).rest.length + 2)
  skipSpace
  if !(← get).rest.isEmpty then failHere .extraData
  return t

end Reader

/-- The tree that a JSON text denotes. -/
def read (text : List Char) : Except Unread Tree :=
  Reader.document.run' ⟨text, 0⟩

end TreeSchema.Json
