import TreeSchema.Schema.Fault
import TreeSchema.Tree.Kind

/-!
Keywords whose value has several forms: the declared types, what is allowed
beyond the declared members, and what a member depends on.
-/

namespace TreeSchema

/-- What is allowed beyond the declared members or items. -/
inductive Additional where
  | forbidden
  | any
  | schema (s : Members)

def Additional.ofTree? : Tree → Option Additional
  | .bool true => some .any
  | .bool false => some .forbidden
  | .object s => some (.schema s)
  | _ => none

/-- What has to hold of an object that has a certain key. -/
inductive Dependency where
  | schema (s : Members)
  | keys (names : List String)
  | key (name : String)

def Dependency.ofTree? : Tree → Option Dependency
  | .object s => some (.schema s)
  | .string name => some (.key name)
  | .array items => (Tree.strings? items).map .keys
  | _ => none

def typeNames : List String → Except Malformed (List TypeName)
  | [] => .ok []
  | name :: rest =>
    match TypeName.ofName? name with
    | some t => (typeNames rest).map (t :: ·)
    | none => .error (.unknownType name)

/-- The declared types of a schema, in order; none when it declares nothing. -/
def declaredTypes (schema : Members) : Except Malformed (List TypeName) :=
  match schema.get? "type" with
  | none => .ok []
  | some (.string name) => typeNames [name]
  | some (.array items) =>
    match Tree.strings? items with
    | some names => typeNames names
    | none => .error .typeNames
  | some _ => .error .typeNames

end TreeSchema
