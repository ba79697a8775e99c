import TreeSchema.Number.Text
import TreeSchema.Text.Quoted
import TreeSchema.Tree

/-!
Writing JSON, on one line or indented, with all characters or ASCII alone. The
doubles that JSON lacks are written as words.
-/

namespace TreeSchema.Json

/-- The decisions on a written text: the step of the indentation, or none for a single line, and
whether characters beyond ASCII are written as escapes. -/
structure Layout where
  indent : Option Nat
  asciiOnly : Bool

/-- An escape of a code unit: four hexadecimal digits. -/
def unitEscape (n : Nat) : List Char :=
  '\\' :: 'u' :: Text.hex 4 n

/-- An escape of a character, in two parts beyond the basic plane. -/
def charEscape (c : Char) : List Char :=
  if c.toNat < 0x10000 then unitEscape c.toNat
  else
    let n := c.toNat - 0x10000
    unitEscape (0xd800 + n / 0x400) ++ unitEscape (0xdc00 + n % 0x400)

def stringChar (asciiOnly : Bool) (c : Char) : List Char :=
  match c with
  | '"' => ['\\', '"']
  | '\\' => ['\\', '\\']
  | '\n' => ['\\', 'n']
  | '\r' => ['\\', 'r']
  | '\t' => ['\\', 't']
  | '\x08' => ['\\', 'b']
  | '\x0c' => ['\\', 'f']
  | c =>
    if c.toNat < 0x20 || (asciiOnly && 0x7f ≤ c.toNat) then charEscape c else [c]

def stringText (asciiOnly : Bool) (s : String) : String :=
  String.ofList ('"' :: s.toList.flatMap (stringChar asciiOnly) ++ ['"'])

namespace Layout

/-- A line break and the indentation of `depth` levels. -/
def lineBreak (l : Layout) (depth : Nat) : String :=
  match l.indent with
  | some step => String.ofList ('\n' :: List.replicate (step * depth) ' ')
  | none => ""

def separator (l : Layout) (depth : Nat) : String :=
  if l.indent.isSome then "," ++ l.lineBreak depth else ", "

/-- Parts between an opening and a closing character; without parts these stand together. -/
def enclose (l : Layout) (depth : Nat) (opening closing : String) (parts : List String) : String :=
  if parts.isEmpty then opening ++ closing
  else
    opening ++ l.lineBreak (depth + 1) ++ (l.separator (depth + 1)).intercalate parts ++
      l.lineBreak depth ++ closing

end Layout

mutual

/-- The text of a tree that stands `depth` levels deep. -/
def textAt (l : Layout) (depth : Nat) : Tree → Except Failure String
  | .null => .ok "null"
  | .bool b => .ok (if b then "true" else "false")
  | .number n => n.text .document
  | .string s => .ok (stringText l.asciiOnly s)
  | .array items => do
    return l.enclose depth "[" "]" (← itemTexts l (depth + 1) items)
  | .object members => do
    return l.enclose depth "\x7b" "\x7d" (← memberTexts l (depth + 1) members)

def itemTexts (l : Layout) (depth : Nat) : List Tree → Except Failure (List String)
  | [] => .ok []
  | t :: rest => do return (← textAt l depth t) :: (← itemTexts l depth rest)

def memberTexts (l : Layout) (depth : Nat) : List (String × Tree) → Except Failure (List String)
  | [] => .ok []
  | (key, t) :: rest => do
    return (stringText l.asciiOnly key ++ ": " ++ (← textAt l depth t)) ::
      (← memberTexts l depth rest)

end

def text (l : Layout) (t : Tree) : Except Failure String :=
  textAt l 0 t

end TreeSchema.Json
