import TreeSchema.Number.Text
import TreeSchema.Text.Quoted
import TreeSchema.Tree

/-!
Trees as messages show them: strings quoted, arrays and objects in brackets
with their parts after commas, and capitalised words for the constants.
-/

namespace TreeSchema.Tree

/-- The words for null, true and false in messages. -/
def nullWord : String := "None"
def boolWord (b : Bool) : String := if b then "True" else "False"

/-- The name of the kind of a value in messages about values of the wrong kind. -/
def typeName : Tree → String
  | .null => "NoneType"
  | .bool _ => "bool"
  | .number (.int _) => "int"
  | .number (.double _) => "float"
  | .string _ => "str"
  | .array _ => "list"
  | .object _ => "dict"

mutual

def shown : Tree → Except Failure String
  | .null => .ok nullWord
  | .bool b => .ok (boolWord b)
  | .number n => n.text .plain
  | .string s => .ok (Text.quoted s)
  | .array items => do return "[" ++ ", ".intercalate (← shownItems items) ++ "]"
  | .object members => do return "\x7b" ++ ", ".intercalate (← shownMembers members) ++ "\x7d"

def shownItems : List Tree → Except Failure (List String)
  | [] => .ok []
  | t :: rest => do return (← t.shown) :: (← shownItems rest)

def shownMembers : List (String × Tree) → Except Failure (List String)
  | [] => .ok []
  | (k, t) :: rest => do
    return (Text.quoted k ++ ": " ++ (← t.shown)) :: (← shownMembers rest)

end

/-- The text of a tree inside a sentence: a string stands for itself. -/
def plainText : Tree → Except Failure String
  | .string s => .ok s
  | t => t.shown

/-- A keyword's value as schema authors write it: a whole double is written as an integer. -/
def limitText : Tree → Except Failure String
  | .number (.double x) => if x.isWhole then integerText x.toInt else .ok (x.text .plain)
  | t => t.plainText

/-- Whether a value counts as a yes: anything but null, false, zero and the empty ones. -/
def isTruthy : Tree → Bool
  | .null => false
  | .bool b => b
  | .number n => !n.isZero
  | .string s => !s.isEmpty
  | .array items => !items.isEmpty
  | .object members => !members.isEmpty

end TreeSchema.Tree
