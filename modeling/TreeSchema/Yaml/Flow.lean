import TreeSchema.Number.Text
import TreeSchema.Yaml.Error
import TreeSchema.Yaml.Scalar

/-!
Values within a line: quoted scalars, plain scalars, and collections in
brackets. Every reader takes the rest of the line and returns what it leaves.
-/

namespace TreeSchema.Yaml

abbrev Line := List Char

def malformed {α : Type} (cause : Cause) : Except Unread α :=
  .error (.malformed cause)

def isSpace (c : Char) : Bool :=
  c == ' ' || c == '\t'

def skipSpace (line : Line) : Line :=
  line.dropWhile isSpace

/-- Whether nothing but a comment is left. -/
def isFinished (line : Line) : Bool :=
  match skipSpace line with
  | [] => true
  | '#' :: _ => true
  | _ => false

/-- Whether a colon stands at the head of `rest` that ends a key of a block. -/
def endsKey : Line → Bool
  | [':'] => true
  | ':' :: c :: _ => isSpace c
  | _ => false

/-! Quoted scalars -/

/-- The text up to the closing single quote; two of them stand for one. -/
def singleQuoted : Line → Except Unread (List Char × Line)
  | '\'' :: '\'' :: rest => do
    let (cs, left) ← singleQuoted rest
    return ('\'' :: cs, left)
  | '\'' :: rest => .ok ([], rest)
  | c :: rest => do
    let (cs, left) ← singleQuoted rest
    return (c :: cs, left)
  | [] => malformed .quotedScalar

def escapedChar? : Char → Option Char
  | '0' => some '\x00'
  | 'a' => some '\x07'
  | 'b' => some '\x08'
  | 't' => some '\t'
  | '\t' => some '\t'
  | 'n' => some '\n'
  | 'v' => some '\x0b'
  | 'f' => some '\x0c'
  | 'r' => some '\r'
  | 'e' => some '\x1b'
  | ' ' => some ' '
  | '"' => some '"'
  | '\\' => some '\\'
  | '/' => some '/'
  | 'N' => some '\u0085'
  | '_' => some '\u00a0'
  | 'L' => some '\u2028'
  | 'P' => some '\u2029'
  | _ => none

/-- The number of digits of an escape by code point. -/
def codeLength? : Char → Option Nat
  | 'x' => some 2
  | 'u' => some 4
  | 'U' => some 8
  | _ => none

/-- The text up to the closing double quote; `fuel` is the length of the line. -/
def doubleQuoted : Nat → Line → Except Unread (List Char × Line)
  | 0, _ => malformed .quotedScalar
  | _ + 1, [] => malformed .quotedScalar
  | _ + 1, '"' :: rest => .ok ([], rest)
  | fuel + 1, '\\' :: c :: rest =>
    match escapedChar? c, codeLength? c with
    | some e, _ => do
      let (cs, left) ← doubleQuoted fuel rest
      return (e :: cs, left)
    | none, some n => do
      let digits := rest.take n
      if digits.length < n || !digits.all isHexDigit then malformed .quotedScalar
      let (cs, left) ← doubleQuoted fuel (rest.drop n)
      return (Char.ofNat (numberIn 16 digits) :: cs, left)
    | none, none => malformed .quotedScalar
  | fuel + 1, c :: rest => do
    let (cs, left) ← doubleQuoted fuel rest
    return (c :: cs, left)

/-- A quoted scalar, if the line starts with a quote. -/
def quoted? (line : Line) : Option (Except Unread (List Char × Line)) :=
  match line with
  | '\'' :: rest => some (singleQuoted rest)
  | '"' :: rest => some (doubleQuoted (rest.length + 1) rest)
  | _ => none

/-! Plain scalars -/

/-- The characters that no plain scalar starts with. -/
def indicators : List Char :=
  [',', '[', ']', '\x7b', '\x7d', '#', '&', '*', '!', '|', '>', '\'', '"', '%', '@', '\x60']

/-- Whether a plain scalar starts here. -/
def startsPlain (flow : Bool) : Line → Bool
  | [] => false
  | [c] => !indicators.contains c && c != '-' && c != '?' && c != ':'
  | c :: d :: _ =>
    if c == '-' then !isSpace d
    else if c == '?' || c == ':' then !flow && !isSpace d
    else !indicators.contains c && !isSpace c

def flowMarks : List Char := [',', '[', ']', '\x7b', '\x7d']

/-- Whether a plain scalar ends before `rest`, the character before which is `last`. -/
def endsPlain (flow : Bool) (last : Char) (rest : Line) : Bool :=
  match rest with
  | [] => true
  | ':' :: next =>
    match next with
    | [] => true
    | c :: _ => isSpace c || (flow && flowMarks.contains c)
  | '#' :: _ => isSpace last
  | c :: _ => flow && (flowMarks.contains c || c == '?')

def plainFrom (flow : Bool) (last : Char) : Line → List Char × Line
  | [] => ([], [])
  | c :: rest =>
    if endsPlain flow last (c :: rest) then ([], c :: rest)
    else
      let (cs, left) := plainFrom flow c rest
      (c :: cs, left)

def withoutTrailing (cs : List Char) : List Char :=
  (cs.reverse.dropWhile isSpace).reverse

/-- A plain scalar, without the space after it. -/
def plain (flow : Bool) (line : Line) : List Char × Line :=
  match line with
  | [] => ([], [])
  | c :: rest =>
    let (cs, left) := plainFrom flow c rest
    (withoutTrailing (c :: cs), left)

def plainTree (cs : List Char) : Except Unread Tree :=
  match plainScalar cs with
  | .ok t => .ok t
  | .error cause => .error (.failed cause)

/-- The text of a scalar that is a key. -/
def keyText (t : Tree) : Except Unread String :=
  match t with
  | .null => .ok "null"
  | .bool b => .ok (if b then "true" else "false")
  | .string s => .ok s
  | .number n =>
    match n.text .document with
    | .ok s => .ok s
    | .error cause => .error (.failed cause)
  | _ => malformed .unsupported

/-! Collections in brackets -/

/-- The tree of one key with its value. -/
def pairTree (key value : Tree) : Except Unread Tree := do
  return .object [(← keyText key, value)]

mutual

/-- A value in brackets or a scalar. `fuel` is more than the number of values in the line. -/
def flowValue : Nat → Line → Except Unread (Tree × Line)
  | 0, _ => malformed .unsupported
  | fuel + 1, line =>
    match line with
    | '[' :: rest => do
      let (items, left) ← flowItems fuel (skipSpace rest)
      return (.array items, left)
    | '\x7b' :: rest => do
      let (members, left) ← flowMembers fuel [] (skipSpace rest)
      return (.object members, left)
    | line =>
      match quoted? line with
      | some found => do
        let (cs, left) ← found
        return (.string (String.ofList cs), left)
      | none =>
        if startsPlain true line then do
          let (cs, left) := plain true line
          return (← plainTree cs, left)
        else malformed .token

/-- What stands after a colon: nothing before a comma or a closing bracket is null. -/
def flowAfterColon : Nat → Line → Except Unread (Tree × Line)
  | 0, _ => malformed .unsupported
  | fuel + 1, line =>
    match skipSpace line with
    | ',' :: rest => .ok (.null, ',' :: rest)
    | ']' :: rest => .ok (.null, ']' :: rest)
    | '\x7d' :: rest => .ok (.null, '\x7d' :: rest)
    | line => flowValue fuel line

def flowItems : Nat → Line → Except Unread (List Tree × Line)
  | 0, _ => malformed .flowSequence
  | _ + 1, [] => malformed .flowSequence
  | _ + 1, ']' :: rest => .ok ([], rest)
  | fuel + 1, line => do
    let (first, left) ← flowValue fuel line
    let (item, left) ←
      match skipSpace left with
      | ':' :: rest => do
        let (value, left) ← flowAfterColon fuel rest
        pure (← pairTree first value, left)
      | left => pure (first, left)
    match skipSpace left with
    | ',' :: rest => do
      let (items, left) ← flowItems fuel (skipSpace rest)
      return (item :: items, left)
    | ']' :: rest => return ([item], rest)
    | _ => malformed .flowSequence

/-- The members after `before`. -/
def flowMembers : Nat → Members → Line → Except Unread (Members × Line)
  | 0, _, _ => malformed .flowMapping
  | _ + 1, _, [] => malformed .flowMapping
  | _ + 1, before, '\x7d' :: rest => .ok (before, rest)
  | fuel + 1, before, line => do
    let (key, left) ← flowValue fuel line
    let (value, left) ←
      match skipSpace left with
      | ':' :: rest => flowAfterColon fuel rest
      | left => pure (.null, left)
    let now := before.put (← keyText key) value
    match skipSpace left with
    | ',' :: rest => flowMembers fuel now (skipSpace rest)
    | '\x7d' :: rest => return (now, rest)
    | _ => malformed .flowMapping

end

/-! Values of a line -/

/-- The scalar or bracketed value that a line consists of, apart from a comment. -/
def lineValue (line : Line) : Except Unread Tree := do
  let (t, left) ←
    match line with
    | '[' :: _ => flowValue (2 * line.length + 2) line
    | '\x7b' :: _ => flowValue (2 * line.length + 2) line
    | line =>
      match quoted? line with
      | some found => do
        let (cs, left) ← found
        pure (.string (String.ofList cs), left)
      | none =>
        if startsPlain false line then do
          let (cs, left) := plain false line
          pure (← plainTree cs, left)
        else malformed .token
  if isFinished left then return t
  else if endsKey left then malformed .nestedMapping
  else malformed .unsupported

/-- The key that a line starts with, and what follows its colon. -/
def lineKey? (line : Line) : Option (Except Unread String × Line) :=
  match quoted? line with
  | some (.ok (cs, left)) =>
    match skipSpace left with
    | ':' :: rest => if endsKey (':' :: rest) then some (.ok (String.ofList cs), rest) else none
    | _ => none
  | some (.error _) => none
  | none =>
    if startsPlain false line then
      let (cs, left) := plain false line
      match left with
      | ':' :: rest =>
        if endsKey left then some (plainTree cs >>= keyText, rest) else none
      | _ => none
    else none

end TreeSchema.Yaml
