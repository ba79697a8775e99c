import TreeSchema.Number.Numeral
import TreeSchema.Pattern.Reader.Escape
import TreeSchema.Text.Identifier

/-!
The openings of groups, with the names, conditions and flags that stand behind
a question mark.
-/

namespace TreeSchema.Pattern.Reader

open Text

def openFrame (opening : Opening) (start : Nat) (flags : Flags) : Reader Unit :=
  modify fun s =>
    { s with
      outer := s.current :: s.outer
      current := { opening, start, flags, finished := [], nodes := [] } }

/-- Opens the next capturing group. -/
def openCapture (start : Nat) (name : Option (List Char)) : Reader Unit := do
  let s ← get
  let index := s.groups.length + 1
  if let some name := name then
    let text := String.ofList name
    if let some earlier := s.names.lookup text then
      fail (.groupNameTaken text index earlier) (name.length + 1)
    modify fun s => { s with names := (text, index) :: s.names }
  modify fun s => { s with groups := s.groups ++ [none] }
  openFrame (.capture index) start s.current.flags

def checkGroupName (name : List Char) : Reader Unit := do
  if !isIdentifier name then fail (.badGroupName (String.ofList name)) (name.length + 1)

/-- The group with a name. -/
def groupNamed (name : List Char) : Reader Nat := do
  match (← get).names.lookup (String.ofList name) with
  | some index => return index
  | none => fail (.unknownGroupName (String.ofList name)) (name.length + 1)

def readNamedReference : Reader Unit := do
  let name ← takeName ')' "group name"
  checkGroupName name
  let index ← groupNamed name
  let s ← get
  if !s.isClosed index then fail .openGroupReference (name.length + 1)
  checkBehind index
  addNode (.reference index s.current.flags.folding)

def unexpectedNext : Reader Token := do
  match ← next with
  | some token => return token
  | none => fail .unexpectedEnd 0

def readNamedGroup (start : Nat) : Reader Unit := do
  if ← accept '<' then
    let name ← takeName '>' "group name"
    checkGroupName name
    openCapture start (some name)
  else if ← accept '=' then readNamedReference
  else
    let token ← unexpectedNext
    fail (.unknownExtension ("P" ++ token.text)) (token.chars.length + 2)

def skipComment (start : Nat) : Reader Unit :=
  loop (fun (_ : Unit) => do
    match ← next with
    | none => failAt .unterminatedComment start
    | some token => return if token = .char ')' then .inr () else .inl ()) ()

def openAhead (start : Nat) (negated : Bool) : Reader Unit := do
  openFrame (.ahead negated) start (← get).current.flags

def openBehind (start : Nat) : Reader Unit := do
  let token ← unexpectedNext
  if token = .char '=' || token = .char '!' then
    let s ← get
    openFrame (.behind (token = .char '!') s.behindMark) start s.current.flags
    if s.behindMark.isNone then
      modify fun s => { s with behindMark := some (s.groups.length + 1) }
  else fail (.unknownExtension ("<" ++ token.text)) (token.chars.length + 2)

/-- An integer as a group number may be written: blanks around it, a sign, grouped digits. -/
def looseInteger? (cs : List Char) : Option Int := do
  let cs := cs.map asciiForm
  let cs := ((cs.dropWhile isAsciiBlank).reverse.dropWhile isAsciiBlank).reverse
  let (negative, digits) := Numeral.takeSign cs
  let digits ← ungroup? digits
  if digits.isEmpty || !digits.all isAsciiDigit || digitLimit < digits.length then none
  else some (if negative then -(numberIn 10 digits : Int) else numberIn 10 digits)

/-- Group numbers stay below this. -/
def groupLimit : Nat := (Nat.pow 2 31 - 1) / 2

def conditionNumber (name : List Char) : Reader Nat := do
  let back := name.length + 1
  match looseInteger? name with
  | none => fail (.badGroupName (String.ofList name)) back
  | some n =>
    if n < 0 then fail (.badGroupName (String.ofList name)) back
    let index := n.toNat
    if index = 0 then fail .badGroupNumber back
    if groupLimit ≤ index then fail (.invalidReference index) back
    let s ← get
    if (s.conditions.lookup index).isNone then
      set { s with conditions := s.conditions ++ [(index, s.position - back)] }
    return index

def openConditional (start : Nat) : Reader Unit := do
  let name ← takeName ')' "group name"
  let index ← if isIdentifier name then groupNamed name else conditionNumber name
  checkBehind index
  openFrame (.conditional index) start (← get).current.flags

/-! Inline flags -/

def unknownFlag {α : Type} (token : Token) (missing : Missing) : Reader α :=
  match token with
  | .char c => fail (if isLetter c then .unknownFlag else .missing missing) 1
  | .escape _ => fail (.missing missing) 2

def flagToken (missing : Missing) : Reader Token := do
  match ← next with
  | some token => return token
  | none => fail (.missing missing) 0

/-- Turns on the flags from `flag` on, up to the token that ends them. -/
def flagsOn (flag : Flag) : Reader (List Flag × Char) :=
  loop (fun ((on, flag) : List Flag × Flag) => do
    if flag = .locale then fail .localeFlag 0
    let on := on ++ [flag]
    if flag.isType && on.any (fun f => f.isType && f != flag) then fail .incompatibleFlags 0
    let token ← flagToken .flagsEnd
    match token with
    | .char ')' => return .inr (on, ')')
    | .char '-' => return .inr (on, '-')
    | .char ':' => return .inr (on, ':')
    | token =>
      match token.flag? with
      | some flag => return .inl (on, flag)
      | none => unknownFlag token .flagsEnd) ([], flag)

/-- Turns off flags, up to the colon. -/
def flagsOff : Reader (List Flag) := do
  let first ← flagToken .flag
  match first.flag? with
  | none => unknownFlag first .flag
  | some flag =>
    loop (fun ((off, flag) : List Flag × Flag) => do
      if flag.isType then fail .typeFlagOff 0
      let off := off ++ [flag]
      let token ← flagToken .colon
      if token = .char ':' then return .inr off
      match token.flag? with
      | some flag => return .inl (off, flag)
      | none => unknownFlag token .colon) ([], flag)

/-- Flags for the whole pattern, which only stand before everything else. -/
def setGlobalFlags (start : Nat) (on : List Flag) : Reader Unit := do
  let s ← get
  let first :=
    match s.current.opening with
    | .whole => s.current.finished.isEmpty && s.current.nodes.isEmpty
    | _ => false
  if !first then failAt .lateGlobalFlags start
  modify fun s =>
    { s with
      globals := s.globals ++ on
      current := { s.current with flags := s.current.flags.change on [] } }

def readFlags (start : Nat) (token : Token) : Reader Unit := do
  let (on, stop) ←
    match token.flag? with
    | some flag => flagsOn flag
    | none => pure ([], '-')
  if stop == ')' then setGlobalFlags start on
  else
    if on.contains .template then fail .globalFlagOn 1
    let off ← if stop == '-' then flagsOff else pure []
    if off.contains .template then fail .globalFlagOff 1
    if on.any off.contains then fail .flagOnAndOff 1
    openFrame .plain start ((← get).current.flags.change on off)

/-- What follows an opening parenthesis and a question mark. -/
def readExtension (start : Nat) : Reader Unit := do
  let token ← unexpectedNext
  match token with
  | .char 'P' => readNamedGroup start
  | .char ':' => openFrame .plain start (← get).current.flags
  | .char '#' => skipComment start
  | .char '=' => openAhead start false
  | .char '!' => openAhead start true
  | .char '<' => openBehind start
  | .char '(' => openConditional start
  | .char '>' => openFrame .atomic start (← get).current.flags
  | token =>
    if token.flag?.isSome || token = .char '-' then readFlags start token
    else fail (.unknownExtension token.text) (token.chars.length + 1)

def openGroup (start : Nat) : Reader Unit := do
  if ← accept '?' then readExtension start else openCapture start none

end TreeSchema.Pattern.Reader
