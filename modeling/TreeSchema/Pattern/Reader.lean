import TreeSchema.Pattern.Reader.Group

/-!
Reading a pattern. Each token either adds to the innermost open group, opens a
group, or closes one; at the end the tree is searched for what is written
correctly and not supported.
-/

namespace TreeSchema.Pattern

open Text

def Greed.operatorName : Greed → String
  | .greedy => "MAX_REPEAT"
  | .lazy => "MIN_REPEAT"
  | .possessive => "POSSESSIVE_REPEAT"

namespace Reader

/-! Repetitions -/

/-- Numbers of rounds stay below this. -/
def roundsLimit : Nat := Nat.pow 2 32 - 1

def readRounds (digits : List Char) : Reader Nat := do
  if digitLimit < digits.length then abort (.tooLongToRead digits.length)
  let n := numberIn 10 digits
  if roundsLimit ≤ n then abort .repetitionTooLarge
  return n

/-- The bounds between braces, or nothing when the brace stands for itself. -/
def readBounds : Reader (Option (Nat × Option Nat)) := do
  let before ← get
  if (← peek) = some (.char '\x7d') then return none
  let least ← takeWhile isAsciiDigit before.rest.length
  let hasMost ← accept ','
  let most ← if hasMost then takeWhile isAsciiDigit before.rest.length else pure least
  if !(← accept '\x7d') then
    modify fun s => { s with rest := before.rest, position := before.position }
    return none
  let leastCount ← if least.isEmpty then pure 0 else readRounds least
  if most.isEmpty then return some (leastCount, none)
  let mostCount ← readRounds most
  if mostCount < leastCount then failAt .leastAboveMost before.position
  return some (leastCount, some mostCount)

def readGreed : Reader Greed := do
  if ← accept '?' then return .lazy
  if ← accept '+' then return .possessive
  return .greedy

/-- Repeats the last node; `place` is where the repetition is written. -/
def addRepeat (place least : Nat) (most : Option Nat) : Reader Unit := do
  let current := (← get).current
  match current.nodes with
  | [] => failAt .nothingToRepeat place
  | .anchor _ :: _ => failAt .nothingToRepeat place
  | .repeated .. :: _ => failAt .multipleRepeat place
  | node :: before =>
    let body :=
      match node with
      | .group none body => body
      | node => [node]
    let greed ← readGreed
    modify fun s =>
      { s with current := { current with nodes := .repeated greed least most body :: before } }

def readBrace (place : Nat) : Reader Unit := do
  match ← readBounds with
  | some (least, most) => addRepeat place least most
  | none => addNode (.one (.code 0x7b false (← get).current.flags.folding))

/-- Closes the innermost group and adds it to the one around it. -/
def closeGroup (around : Frame) (outer : List Frame) : Reader Unit :=
  modify fun s =>
    let f := s.current
    let groups :=
      match f.opening with
      | .capture index => s.groups.set (index - 1) (some (widthOfAll s.width f.body))
      | _ => s.groups
    let behindMark :=
      match f.opening with
      | .behind _ outerMark => outerMark
      | _ => s.behindMark
    { s with
      groups, behindMark, outer
      current := { around with nodes := f.close s.width ++ around.nodes } }

/-- Ends an alternative of the innermost group. -/
def nextAlternative : Reader Unit := do
  let f := (← get).current
  match f.opening with
  | .conditional _ => if !f.finished.isEmpty then fail .tooManyBranches 0
  | _ => pure ()
  let finished :=
    match f.opening with
    | .conditional _ => f.nodes :: f.finished
    | _ => f.nodes.reverse :: f.finished
  let _ ← next
  modify fun s => { s with current := { f with finished, nodes := [] } }

/-- In verbose patterns, blanks are skipped, and comments to the end of their line. -/
def skipLine : Reader Unit :=
  loop (fun (_ : Unit) => do
    match ← next with
    | none => return .inr ()
    | some token => return if token = .char '\n' then .inr () else .inl ()) ()

def readToken (place : Nat) (token : Token) : Reader Unit := do
  let flags := (← get).current.flags
  match token with
  | .escape c => addEscape c
  | .char '[' => readSet place
  | .char '?' => addRepeat place 0 (some 1)
  | .char '*' => addRepeat place 0 none
  | .char '+' => addRepeat place 1 none
  | .char '\x7b' => readBrace place
  | .char '.' => addNode (.one (.any flags.dotAll))
  | .char '(' => openGroup place
  | .char '^' => addNode (.anchor (if flags.multiline then .lineStart else .textStart))
  | .char '$' => addNode (.anchor (if flags.multiline then .lineEnd else .finalLineEnd))
  | .char c => addNode (.one (.code c.toNat false flags.folding))

/-- One token of the pattern; the answer says whether to go on. -/
def step : Reader Bool := do
  let s ← get
  match ← peek with
  | none =>
    match s.outer with
    | [] => return false
    | _ => failAt .unterminatedGroup s.current.start
  | some (.char ')') =>
    match s.outer with
    | [] => return false
    | around :: outer =>
      let _ ← next
      closeGroup around outer
      return true
  | some (.char '|') =>
    nextAlternative
    return true
  | some token =>
    let _ ← next
    match s.current.flags.verbose, token with
    | true, .char '#' => skipLine
    | true, .char c => if isAsciiBlank c then pure () else readToken s.position token
    | _, token => readToken s.position token
    return true

/-! Checks on the finished tree -/

/-- The greatest width of a look behind. -/
def behindLimit : Nat := Nat.pow 2 32 - 1

mutual

/-- The first construct that is written correctly and not supported. -/
def unsupported? (template : Bool) : Node → Option Cause
  | .one _ => none
  | .anchor _ => none
  | .branch alternatives => unsupportedInAny? template alternatives
  | .group _ body => unsupportedInAll? template body
  | .atomic body => unsupportedInAll? template body
  | .repeated greed _ _ body =>
    if template then some (.templateRepeat greed.operatorName)
    else unsupportedInAll? template body
  | .reference .. => none
  | .conditional _ yes no =>
    (unsupportedInAll? template yes).orElse fun _ => unsupportedInAll? template no
  | .ahead _ body => unsupportedInAll? template body
  | .behind _ least most body =>
    if behindLimit < least then some .farLookbehind
    else if least ≠ most then some .variableLookbehind
    else unsupportedInAll? template body

def unsupportedInAll? (template : Bool) : List Node → Option Cause
  | [] => none
  | node :: rest => (unsupported? template node).orElse fun _ => unsupportedInAll? template rest

def unsupportedInAny? (template : Bool) : List (List Node) → Option Cause
  | [] => none
  | body :: rest =>
    (unsupportedInAll? template body).orElse fun _ => unsupportedInAny? template rest

end

def readAll : Reader Regex := do
  checkEnd
  loop (fun (_ : Unit) => do return if ← step then .inl () else .inr ()) ()
  let s ← get
  if s.globals.contains .ascii && s.globals.contains .unicode then abort .conflictingClasses
  if (← peek).isSome then fail .unbalanced 0
  if let some (index, place) := s.conditions.find? fun (index, _) => s.groups.length < index then
    failAt (.invalidReference index) place
  let nodes := s.current.body
  if let some cause := unsupportedInAll? (s.globals.contains .template) nodes then
    throw (.invalid ⟨cause, none⟩)
  return ⟨nodes⟩

end Reader

/-- Reads a pattern under flags for the whole of it. -/
def read (pattern : String) (globals : List Flag) : Except Unread Regex :=
  let whole : Frame :=
    { opening := .whole, start := 0, flags := Flags.none.change globals [],
      finished := [], nodes := [] }
  let start : State :=
    { rest := pattern.toList, position := 0, current := whole, outer := [], groups := [],
      names := [], behindMark := none, conditions := [], globals }
  (Reader.readAll.run' start)

end TreeSchema.Pattern
