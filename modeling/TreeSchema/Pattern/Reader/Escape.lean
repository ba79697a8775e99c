import TreeSchema.Pattern.Reader.Basic
import TreeSchema.Text.CharacterName

/-!
Escapes and character sets. An escape gives a character by number or name, a
named class, a place in the text, or the text of a group once more.
-/

namespace TreeSchema.Pattern.Reader

open Text

def isOctal (c : Char) : Bool :=
  '0' ≤ c && c ≤ '7'

def isHex (c : Char) : Bool :=
  isAsciiDigit c || ('a' ≤ c && c ≤ 'f') || ('A' ≤ c && c ≤ 'F')

def isAsciiLetter (c : Char) : Bool :=
  ('a' ≤ c && c ≤ 'z') || ('A' ≤ c && c ≤ 'Z')

def hexValue (c : Char) : Nat :=
  if isAsciiDigit c then c.toNat - 48
  else if 'a' ≤ c then c.toNat - 87
  else c.toNat - 55

def numberIn (base : Nat) (digits : List Char) : Nat :=
  digits.foldl (fun n c => base * n + hexValue c) 0

/-- What an escape stands for. -/
inductive Escape where
  | code (c : Nat)
  | named (name : ClassName) (negated : Bool)
  | anchor (a : Anchor)
  | reference (index : Nat)

def namedEscape? : Char → Option Escape
  | 'd' => some (.named .digit false)
  | 'D' => some (.named .digit true)
  | 's' => some (.named .space false)
  | 'S' => some (.named .space true)
  | 'w' => some (.named .word false)
  | 'W' => some (.named .word true)
  | _ => none

def anchorEscape? (ascii : Bool) : Char → Option Escape
  | 'A' => some (.anchor .textStart)
  | 'b' => some (.anchor (.wordEdge ascii))
  | 'B' => some (.anchor (.notWordEdge ascii))
  | 'Z' => some (.anchor .textEnd)
  | _ => none

def controlEscape? : Char → Option Nat
  | 'a' => some 7
  | 'b' => some 8
  | 'f' => some 12
  | 'n' => some 10
  | 'r' => some 13
  | 't' => some 9
  | 'v' => some 11
  | '\\' => some 92
  | _ => none

def escapeText (c : Char) (digits : List Char) : String :=
  String.ofList ('\\' :: c :: digits)

/-- An escape with exactly `count` hexadecimal digits. -/
def hexEscape (c : Char) (count : Nat) : Reader Escape := do
  let digits ← takeWhile isHex count
  if digits.length ≠ count then
    fail (.incompleteEscape (escapeText c digits)) (digits.length + 2)
  let n := numberIn 16 digits
  if 0x10ffff < n then fail (.badEscape (escapeText c digits)) (digits.length + 2)
  return .code n

/-- An escape with the name of a character between braces. -/
def nameEscape : Reader Escape := do
  if !(← accept '\x7b') then fail .missingBrace 0
  let name ← takeName '\x7d' "character name"
  match namedCharacter? (String.ofList name) with
  | some n => return .code n
  | none => fail (.undefinedCharacter (String.ofList name)) (name.length + 4)

def octalEscape (c : Char) (digits : List Char) : Reader Escape := do
  let n := numberIn 8 (c :: digits)
  if 0o377 < n then fail (.octalTooLarge (escapeText c digits)) (digits.length + 2)
  return .code n

/-- The escapes that mean the same everywhere: by number, by name, or a character itself. -/
def commonEscape (c : Char) : Reader Escape :=
  if c == 'x' then hexEscape c 2
  else if c == 'u' then hexEscape c 4
  else if c == 'U' then hexEscape c 8
  else if c == 'N' then nameEscape
  else if isAsciiLetter c || isAsciiDigit c then fail (.badEscape (escapeText c [])) 2
  else return .code c.toNat

def setEscape (c : Char) : Reader Escape := do
  if let some n := controlEscape? c then return .code n
  if let some e := namedEscape? c then return e
  if isOctal c then octalEscape c (← takeWhile isOctal 2) else commonEscape c

/-- Inside a look behind, only groups closed before it may be used. -/
def checkBehind (index : Nat) : Reader Unit := do
  let s ← get
  if let some mark := s.behindMark then
    if !s.isClosed index then fail .openGroupReference 0
    if mark ≤ index then fail .sameLookbehindReference 0

/-- A group number, or an octal escape when there are three octal digits. -/
def numberEscape (c : Char) : Reader Escape := do
  let second ← takeWhile isAsciiDigit 1
  let third ← if isOctal c && second.any isOctal then takeWhile isOctal 1 else pure []
  if !third.isEmpty then octalEscape c (second ++ third)
  else
    let index := numberIn 10 (c :: second)
    let length := second.length + 2
    let s ← get
    if index ≤ s.groups.length then
      if !s.isClosed index then fail .openGroupReference length
      checkBehind index
      return .reference index
    else fail (.invalidReference index) (length - 1)

def patternEscape (c : Char) : Reader Escape := do
  let ascii := (← get).current.flags.ascii
  if let some e := namedEscape? c then return e
  if let some e := anchorEscape? ascii c then return e
  if let some n := controlEscape? c then return .code n
  if c == '0' then return .code (numberIn 8 (c :: (← takeWhile isOctal 2)))
  if isAsciiDigit c then numberEscape c else commonEscape c

def addEscape (c : Char) : Reader Unit := do
  let e ← patternEscape c
  let flags := (← get).current.flags
  match e with
  | .code n => addNode (.one (.code n false flags.folding))
  | .named name negated =>
    addNode (.one (.set [.named name negated] false flags.folding flags.ascii))
  | .anchor a => addNode (.anchor a)
  | .reference index => addNode (.reference index flags.folding)

/-! Character sets -/

def Escape.toItem : Escape → SetItem
  | .named name negated => .named name negated
  | .code n => .code n
  | .anchor _ => .code 0
  | .reference _ => .code 0

def setToken (token : Token) : Reader SetItem := do
  match token with
  | .char c => return .code c.toNat
  | .escape c => return (← setEscape c).toItem

def nextInSet (start : Nat) : Reader Token := do
  match ← next with
  | some token => return token
  | none => failAt .unterminatedSet start

/-- The range between two entries of a set. -/
def setRange (first last : Token) (lowItem highItem : SetItem) : Reader SetItem := do
  let back := first.chars.length + 1 + last.chars.length
  let bad := Cause.badRange first.text last.text
  match lowItem, highItem with
  | .code low, .code high => if high < low then fail bad back else return .range low high
  | _, _ => fail bad back

/-- One entry of the set that begins at `start`; the entries so far come the latest first. -/
def setStep (start : Nat) (items : List SetItem) : Reader (List SetItem ⊕ List SetItem) := do
  let token ← nextInSet start
  if token = .char ']' && !items.isEmpty then return .inr items
  let low ← setToken token
  if ← accept '-' then
    let last ← nextInSet start
    if last = .char ']' then return .inr (.code 45 :: low :: items)
    let high ← setToken last
    return .inl ((← setRange token last low high) :: items)
  else return .inl (low :: items)

def readSet (start : Nat) : Reader Unit := do
  let negated ← accept '^'
  let items := (← loop (setStep start) []).reverse.eraseDups
  let flags := (← get).current.flags
  match items with
  | [.code n] => addNode (.one (.code n negated flags.folding))
  | items => addNode (.one (.set items negated flags.folding flags.ascii))

end TreeSchema.Pattern.Reader
