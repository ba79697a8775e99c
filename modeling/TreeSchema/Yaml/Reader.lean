import TreeSchema.Yaml.Flow

/-!
Reading YAML: collections by indentation, values in brackets within a line,
comments, and quoted and plain scalars. The lines that say nothing are left out
beforehand, and each of the others is its indentation and its text.
-/

namespace TreeSchema.Yaml

structure Row where
  column : Nat
  text : Line

/-- The row of a line; blank lines and comments have none. -/
def Row.ofLine? (line : Line) : Option Row :=
  let text := line.dropWhile (· == ' ')
  if isFinished text then none else some ⟨line.length - text.length, text⟩

/-- The text after the dash of an item, with its column. -/
def itemRow? (row : Row) : Option Row :=
  match row.text with
  | ['-'] => some ⟨row.column + 1, []⟩
  | '-' :: c :: rest =>
    if isSpace c then
      let text := skipSpace (c :: rest)
      some ⟨row.column + row.text.length - text.length, text⟩
    else none
  | _ => none

def isItem (row : Row) : Bool :=
  (itemRow? row).isSome

def hasKey (row : Row) : Bool :=
  (lineKey? row.text).isSome

/-- The rows with the text of an item as a row of its own, if there is text. -/
def itemRows (item : Row) (rest : List Row) : List Row :=
  if isFinished item.text then rest else item :: rest

/-- A value that stands in a line, after which no row may go deeper than `column`. -/
def valueInLine (column : Nat) (text : Line) (rest : List Row) :
    Except Unread (Tree × List Row) := do
  if isItem ⟨0, text⟩ then malformed .nestedSequence
  let t ← lineValue text
  match rest with
  | next :: _ =>
    if column < next.column then malformed (if hasKey next then .nestedMapping else .unsupported)
    else return (t, rest)
  | [] => return (t, rest)

/-- Items of a sequence of their own, after which nothing else may stand in their column. -/
def checkItemsEnd (column : Nat) : List Row → Except Unread Unit
  | next :: _ => if next.column = column then malformed .blockSequence else .ok ()
  | [] => .ok ()

mutual

/-- The value of the rows from `column` on, null if there are none. `fuel` bounds the number of
values. -/
def block : Nat → Nat → List Row → Except Unread (Tree × List Row)
  | 0, _, _ => malformed .unsupported
  | _ + 1, _, [] => .ok (.null, [])
  | fuel + 1, column, row :: rest =>
    if row.column < column then .ok (.null, row :: rest)
    else if isItem row then do
      let (items, left) ← blockItems fuel row.column (row :: rest)
      checkItemsEnd row.column left
      return (.array items, left)
    else if hasKey row then do
      let (members, left) ← blockMembers fuel row.column [] (row :: rest)
      return (.object members, left)
    else valueInLine (column - 1) row.text rest

/-- The items whose dashes stand in a column. -/
def blockItems : Nat → Nat → List Row → Except Unread (List Tree × List Row)
  | 0, _, _ => malformed .unsupported
  | _ + 1, _, [] => .ok ([], [])
  | fuel + 1, column, row :: rest =>
    if row.column < column then .ok ([], row :: rest)
    else if column < row.column then malformed .blockSequence
    else
      match itemRow? row with
      | none => .ok ([], row :: rest)
      | some item => do
        let (t, left) ← block fuel (column + 1) (itemRows item rest)
        let (items, left) ← blockItems fuel column left
        return (t :: items, left)

/-- The members whose keys stand in a column, after `before`. -/
def blockMembers : Nat → Nat → Members → List Row → Except Unread (Members × List Row)
  | 0, _, _, _ => malformed .unsupported
  | _ + 1, _, before, [] => .ok (before, [])
  | fuel + 1, column, before, row :: rest =>
    if row.column < column then .ok (before, row :: rest)
    else if column < row.column then malformed .blockMapping
    else
      match lineKey? row.text with
      | none => malformed .blockMapping
      | some (key, text) => do
        let key ← key
        let (t, left) ← blockValue fuel column text rest
        blockMembers fuel column (before.put key t) left

/-- The value of a key in a column: in its line, or in the rows below. The dashes of its items may
stand in the column of the key. -/
def blockValue : Nat → Nat → Line → List Row → Except Unread (Tree × List Row)
  | 0, _, _, _ => malformed .unsupported
  | fuel + 1, column, text, rest =>
    if !isFinished text then valueInLine column (skipSpace text) rest
    else
      match rest with
      | [] => .ok (.null, [])
      | next :: _ =>
        if next.column = column && isItem next then do
          let (items, left) ← blockItems fuel column rest
          return (.array items, left)
        else block fuel (column + 1) rest

end

/-- A line that begins or ends the document. -/
def isMarker (marker : String) (line : Line) : Bool :=
  marker.toList.isPrefixOf line && isFinished (line.drop 3)

/-- The lines of a text. -/
def linesOf (text : List Char) : List Line :=
  text.foldr (fun c lines =>
    match lines with
    | line :: rest => if c == '\n' then [] :: lines else (c :: line) :: rest
    | [] => [[c]]) [[]]

/-- The rows of the document, without the lines that begin and end it. -/
def rowsOf (text : List Char) : List Row :=
  let text := if text.head? == some '\ufeff' then text.drop 1 else text
  let lines := (linesOf text).dropWhile isFinished
  let lines :=
    match lines with
    | first :: rest => if isMarker "---" first then rest else lines
    | [] => []
  (lines.takeWhile fun line => !isMarker "..." line).filterMap Row.ofLine?

/-- The tree that a YAML text denotes; an empty text is null. -/
def read (text : List Char) : Except Unread Tree := do
  let rows := rowsOf text
  let (t, left) ← block (2 * text.length + 4) 0 rows
  if left.isEmpty then return t else malformed .documentStart

end TreeSchema.Yaml
