import TreeSchema.Text.CharacterName.Aliases
import TreeSchema.Text.CharacterName.Ancient
import TreeSchema.Text.CharacterName.Forms
import TreeSchema.Text.CharacterName.Letters
import TreeSchema.Text.CharacterName.Pictographs
import TreeSchema.Text.CharacterName.Scripts
import TreeSchema.Text.CharacterName.Signs
import TreeSchema.Text.CharacterName.Symbols

/-!
Characters by name, for the characters of Unicode 14. Most names stand in tables, and some
are built from the code point; both are read without regard to the case of ASCII letters.
Unified ideographs and Hangul syllables have names built by rule, in capitals. A sequence
of characters that has a name is no character.
-/

namespace TreeSchema.Text

/-! ### Names by code point -/

/-- A hexadecimal numeral of four or five digits, letters in capitals. -/
def hexNumeral? (digits : List Char) : Option Nat :=
  let value? (c : Char) : Option Nat :=
    if '0' ≤ c ∧ c ≤ '9' then some (c.toNat - '0'.toNat)
    else if 'A' ≤ c ∧ c ≤ 'F' then some (c.toNat - 'A'.toNat + 10)
    else none
  if digits.length == 4 || digits.length == 5 then
    digits.foldlM (fun n c => (value? c).map (16 * n + ·)) 0
  else none

/-- The code point that ends a name, if it lies in one of the ranges. -/
def numbered? (stem : String) (ranges : List (Nat × Nat)) (name : String) : Option Nat := do
  let code ← hexNumeral? (← afterStem? stem name)
  if ranges.any fun (first, last) => first ≤ code && code ≤ last then some code else none

def ideographRanges : List (Nat × Nat) :=
  [(0x3400, 0x4dbf), (0x4e00, 0x9fff), (0x20000, 0x2a6df), (0x2a700, 0x2b738), (0x2b740, 0x2b81d),
    (0x2b820, 0x2cea1), (0x2ceb0, 0x2ebe0), (0x30000, 0x3134a)]

def ideograph? : String → Option Nat :=
  numbered? "CJK UNIFIED IDEOGRAPH-" ideographRanges

/-- Further names that end in the code point, without leading zeros. -/
def numberedNames : List (String × List (Nat × Nat)) :=
  [("CJK COMPATIBILITY IDEOGRAPH-", [(0xf900, 0xfa6d), (0xfa70, 0xfad9), (0x2f800, 0x2fa1d)]),
    ("KHITAN SMALL SCRIPT CHARACTER-", [(0x18b00, 0x18cd5)]),
    ("NUSHU CHARACTER-", [(0x1b170, 0x1b2fb)])]

def numberedCharacter? (name : String) : Option Nat :=
  numberedNames.findSome? fun (stem, ranges) =>
    if (stem ++ "0").toList.isPrefixOf name.toList then none else numbered? stem ranges name

/-! ### Hangul syllables -/

def leadJamo : List String :=
  ["G", "GG", "N", "D", "DD", "R", "M", "B", "BB", "S", "SS", "", "J", "JJ", "C", "K", "T", "P",
    "H"]

def vowelJamo : List String :=
  ["A", "AE", "YA", "YAE", "EO", "E", "YEO", "YE", "O", "WA", "WAE", "OE", "YO", "U", "WEO", "WE",
    "WI", "YU", "EU", "YI", "I"]

def tailJamo : List String :=
  ["", "G", "GG", "GS", "N", "NJ", "NH", "D", "L", "LG", "LM", "LB", "LS", "LT", "LP", "LH", "M",
    "B", "BS", "S", "SS", "NG", "J", "C", "K", "T", "P", "H"]

/-- The longest of the spellings that a text begins with: its place and what follows. -/
def longestJamo? (spellings : List String) (text : List Char) : Option (Nat × List Char) :=
  let fitting := spellings.zipIdx.filter fun (s, _) => s.toList.isPrefixOf text
  let longest := fitting.foldl (fun best x =>
    match best with
    | none => some x
    | some b => if b.1.length < x.1.length then some x else some b) none
  longest.map fun (s, place) => (place, text.drop s.length)

/-- Syllables are numbered by lead, then vowel, then tail. -/
def hangulSyllable? (name : String) : Option Nat := do
  let text ← afterStem? "HANGUL SYLLABLE " name
  let (lead, text) ← longestJamo? leadJamo text
  let (vowel, text) ← longestJamo? vowelJamo text
  let (tail, text) ← longestJamo? tailJamo text
  if text.isEmpty then
    some (0xac00 + (lead * vowelJamo.length + vowel) * tailJamo.length + tail)
  else none

/-! ### All names -/

def nameRuns : List NameRun :=
  letterNames ++ scriptNames ++ symbolNames ++ formNames ++ ancientNames ++ signNames ++
    pictographNames ++ selectorAliases

/-- The character of an alias. -/
def aliased? (name : String) : Option Nat :=
  (nameAliases.find? fun (_, names) => names.contains name).map (·.1)

/-- The character of a name from the tables, which are in capitals. -/
def tabledCharacter? (name : String) : Option Nat :=
  nameRuns.findSome? (·.codePoint? name) <|> aliased? name

/-- The character that has a name. -/
def namedCharacter? (name : String) : Option Nat :=
  let capitals := String.ofList (name.toList.map Char.toUpper)
  hangulSyllable? name
    <|> ideograph? name
    <|> numberedCharacter? capitals
    <|> tabledCharacter? capitals

end TreeSchema.Text
