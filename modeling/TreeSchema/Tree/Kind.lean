import TreeSchema.Tree

/-!
The type names of schemas. An integer is any number with a whole value, so an
integral double has the types `number` and `integer`.
-/

namespace TreeSchema

inductive TypeName | object | array | string | number | integer | boolean | null
  deriving DecidableEq

namespace TypeName

def all : List TypeName :=
  [.object, .array, .string, .number, .integer, .boolean, .null]

def name : TypeName → String
  | .object => "object"
  | .array => "array"
  | .string => "string"
  | .number => "number"
  | .integer => "integer"
  | .boolean => "boolean"
  | .null => "null"

def ofName? (s : String) : Option TypeName :=
  all.find? (·.name == s)

theorem ofName?_name (t : TypeName) : ofName? t.name = some t := by
  cases t <;> decide

end TypeName

namespace Tree

def isNumber : Tree → Bool
  | .number _ => true
  | _ => false

def isIntegral : Tree → Bool
  | .number n => n.isIntegral
  | _ => false

def hasType (t : Tree) : TypeName → Bool
  | .object => t.kind = .object
  | .array => t.kind = .array
  | .string => t.kind = .string
  | .number => t.isNumber
  | .integer => t.isIntegral
  | .boolean => t.kind = .boolean
  | .null => t.kind = .null

/-- The kind of a tree in words, whole numbers being integers. -/
def kindText (t : Tree) : String :=
  if t.isIntegral then "integer" else t.kind.name

end Tree

end TreeSchema
