import TreeSchema.Pattern.Error
import TreeSchema.Pattern.Flag
import TreeSchema.Pattern.Syntax

/-!
The state of a reader of patterns and its first steps. The text is taken in
tokens, a backslash being one with the character after it, and the tree is
built on a stack of open groups. A backslash that ends the pattern is reported
as soon as the token before it has been taken.
-/

namespace TreeSchema.Pattern

/-- How an open group began. A look at the text before remembers the mark it replaced. -/
inductive Opening where
  | whole
  | capture (index : Nat)
  | plain
  | atomic
  | ahead (negated : Bool)
  | behind (negated : Bool) (outerMark : Option Nat)
  | conditional (index : Nat)

/-- An open group: where it began, the alternatives that are finished and the nodes of the
current one, both the latest first. -/
structure Frame where
  opening : Opening
  start : Nat
  flags : Flags
  finished : List (List Node)
  nodes : List Node

structure State where
  rest : List Char
  position : Nat
  current : Frame
  outer : List Frame
  /-- The width of each group so far, once it is closed. -/
  groups : List (Option Width)
  names : List (String × Nat)
  /-- The number of groups when the outermost open look behind began. -/
  behindMark : Option Nat
  /-- The groups that conditions name by number, with the places. -/
  conditions : List (Nat × Nat)
  globals : List Flag

abbrev Reader := StateT State (Except Unread)

inductive Token where
  | char (c : Char)
  | escape (c : Char)
  deriving DecidableEq

def Token.chars : Token → List Char
  | .char c => [c]
  | .escape c => ['\\', c]

def Token.text (t : Token) : String :=
  String.ofList t.chars

def Token.flag? : Token → Option Flag
  | .char c => Flag.ofChar? c
  | .escape _ => none

/-- Whether a group has been closed. -/
def State.isClosed (s : State) (index : Nat) : Bool :=
  0 < index && ((s.groups[index - 1]?).bind id).isSome

/-- The widths of the closed groups. -/
def State.width (s : State) (index : Nat) : Width :=
  ((s.groups[index - 1]?).bind id).getD (0, 0)

/-- The body of a group from its alternatives. -/
def Frame.body (f : Frame) : List Node :=
  match f.finished with
  | [] => f.nodes.reverse
  | finished => [.branch (finished.reverse ++ [f.nodes.reverse])]

def Frame.close (f : Frame) (width : Nat → Width) : List Node :=
  match f.opening with
  | .whole => f.body
  | .capture index => [.group (some index) f.body]
  | .plain => [.group none f.body]
  | .atomic => [.atomic f.body]
  | .ahead negated => [.ahead negated f.body]
  | .behind negated _ =>
    let (least, most) := widthOfAll width f.body
    [.behind negated least most f.body]
  | .conditional index =>
    match f.finished with
    | [] => [.conditional index f.nodes.reverse []]
    | yes :: _ => [.conditional index yes.reverse f.nodes.reverse]

namespace Reader

def failAt {α : Type} (cause : Cause) (position : Nat) : Reader α :=
  throw (.invalid ⟨cause, some position⟩)

/-- Fails `back` characters before the current place. -/
def fail {α : Type} (cause : Cause) (back : Nat) : Reader α := do
  failAt cause ((← get).position - back)

def abort {α : Type} (cause : Failure) : Reader α :=
  throw (.failed cause)

def peek : Reader (Option Token) := do
  match (← get).rest with
  | [] => return none
  | '\\' :: c :: _ => return some (.escape c)
  | c :: _ => return some (.char c)

/-- A lone backslash at the end is no token. -/
def checkEnd : Reader Unit := do
  let s ← get
  if s.rest = ['\\'] then failAt .escapeAtEnd s.position

/-- Takes the next token, if there is one. -/
def next : Reader (Option Token) := do
  let token ← peek
  let length := (token.map (·.chars.length)).getD 0
  modify fun s => { s with rest := s.rest.drop length, position := s.position + length }
  checkEnd
  return token

/-- Takes the character `c` if it is next. -/
def accept (c : Char) : Reader Bool := do
  if (← peek) = some (.char c) then
    let _ ← next
    return true
  else return false

/-- Takes at most `n` characters that pass a test. -/
def takeWhile (test : Char → Bool) : Nat → Reader (List Char)
  | 0 => return []
  | n + 1 => do
    match ← peek with
    | some (.char c) =>
      if test c then
        let _ ← next
        return c :: (← takeWhile test n)
      else return []
    | _ => return []

/-- Repeats a step that takes a token each time, until it has a result. -/
def loopWithin {σ α : Type} (step : σ → Reader (σ ⊕ α)) : Nat → σ → Reader α
  | 0, _ => fail .unexpectedEnd 0
  | n + 1, state => do
    match ← step state with
    | .inl state => loopWithin step n state
    | .inr a => return a

/-- `loopWithin` for as many steps as there are characters left. -/
def loop {σ α : Type} (step : σ → Reader (σ ⊕ α)) (state : σ) : Reader α := do
  loopWithin step ((← get).rest.length + 1) state

/-- Takes a name up to its terminator. -/
def takeName (terminator : Char) (what : String) : Reader (List Char) :=
  loop (fun (name : List Char) => do
    match ← next with
    | none =>
      if name.isEmpty then fail (.missingName what) 0
      else fail (.unterminatedName terminator) name.length
    | some token =>
      if token = .char terminator then
        if name.isEmpty then fail (.missingName what) 1 else return .inr name
      else return .inl (name ++ token.chars)) []

def addNode (node : Node) : Reader Unit :=
  modify fun s => { s with current := { s.current with nodes := node :: s.current.nodes } }

end Reader

end TreeSchema.Pattern
