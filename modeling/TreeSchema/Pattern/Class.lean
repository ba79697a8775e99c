import TreeSchema.Text.Blank
import TreeSchema.Text.Case
import TreeSchema.Text.Digit
import TreeSchema.Text.Letter

/-!
Tests of one character: a dot, a character as written, or a set of characters,
ranges and named classes. Under case folding a character is replaced by its
lower case form and compared with the lower case forms of what is written.
-/

namespace TreeSchema.Pattern

open Text

/-- Which differences of case a comparison ignores. -/
inductive Folding | exact | ascii | wide
  deriving DecidableEq

inductive ClassName | digit | space | word
  deriving DecidableEq

/-- An entry of a character set; characters are given by code point. -/
inductive SetItem where
  | code (c : Nat)
  | range (first last : Nat)
  | named (name : ClassName) (negated : Bool)
  deriving DecidableEq

inductive CharTest where
  | any (newlines : Bool)
  | code (c : Nat) (negated : Bool) (folding : Folding)
  | set (items : List SetItem) (negated : Bool) (folding : Folding) (ascii : Bool)

def asciiLower (c : Nat) : Nat :=
  if 65 ≤ c ∧ c ≤ 90 then c + 32 else c

def isAsciiDigit (c : Char) : Bool :=
  '0' ≤ c && c ≤ '9'

def isAsciiWord (c : Char) : Bool :=
  c.isAlphanum || c == '_'

/-- The named classes, of all scripts or of ASCII alone. -/
def ClassName.holds (ascii : Bool) (c : Char) : ClassName → Bool
  | .digit => if ascii then isAsciiDigit c else isDigit c
  | .space => if ascii then isAsciiBlank c else isBlank c
  | .word => if ascii then isAsciiWord c else isWordChar c

def Folding.apply : Folding → Nat → Nat
  | .exact, c => c
  | .ascii, c => asciiLower c
  | .wide, c => lower c

/-- The last code point of the basic plane. -/
def lastBasic : Nat := 0xffff

def between (first last c : Nat) : Bool :=
  first ≤ c && c ≤ last

/-- Whether a range, with the lower case forms of its characters, has the folded code point `c`.
Beyond the basic plane the range itself is compared with `c` and with its upper case form. -/
def foldedRange (folding : Folding) (first last c : Nat) : Bool :=
  let sources :=
    match folding with
    | .exact => [c]
    | .ascii => [c, c - 32].filter (asciiLower · == c)
    | .wide => (c :: siblings c).flatMap lowerSources
  sources.any (fun x => between first (min last lastBasic) x) ||
    (lastBasic < last && (between first last c || between first last (upper c)))

/-- Whether a set item has a character; `c` is its folded code point. -/
def SetItem.holds (folding : Folding) (ascii : Bool) (c : Nat) : SetItem → Bool
  | .code x =>
    match folding with
    | .exact => c == x
    | .ascii => c == asciiLower x
    | .wide =>
      if lastBasic < x then c == x else c == lower x || (siblings (lower x)).contains c
  | .range first last =>
    match folding with
    | .exact => between first last c
    | folding => foldedRange folding first last c
  | .named name negated => name.holds ascii (Char.ofNat c) != negated

/-- Whether a character as written has the character `c`. -/
def codeHolds (folding : Folding) (x c : Nat) : Bool :=
  match folding with
  | .exact => c == x
  | .ascii => asciiLower c == asciiLower x
  | .wide =>
    if isCased x then lower c == lower x || (siblings (lower x)).contains (lower c) else c == x

def CharTest.accepts (c : Char) : CharTest → Bool
  | .any newlines => newlines || c != '\n'
  | .code x negated folding => codeHolds folding x c.toNat != negated
  | .set items negated folding ascii =>
    items.any (·.holds folding ascii (folding.apply c.toNat)) != negated

end TreeSchema.Pattern
