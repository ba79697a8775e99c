import TreeSchema.Run.Node

/-!
Stages for arrays: the items, all against one schema or each against the schema
at its place, then the length and the uniqueness of the items.
-/

namespace TreeSchema

namespace Tree

def items : Tree → List Tree
  | .array items => items
  | _ => []

def putItem (node : Tree) (index : Nat) (t : Tree) : Tree :=
  match node with
  | .array items => .array (items.set index t)
  | node => node

theorem eq_array_of_getElem? {node t : Tree} {index : Nat} (h : node.items[index]? = some t) :
    node = .array node.items := by
  cases node with
  | array items => rfl
  | _ => cases h

theorem putItem_of_getElem? {node t : Tree} {index : Nat} (h : node.items[index]? = some t) :
    node.putItem index t = node := by
  cases node with
  | array items =>
    obtain ⟨bound, rfl⟩ := List.getElem?_eq_some_iff.1 h
    exact congrArg array (List.set_getElem_self bound)
  | _ => cases h

end Tree

namespace Stage

def visitItem (visit : Visit) (config : Config) (schema : Tree) (path : Pointer) (index : Nat) :
    Stage := fun p =>
  match p.node.items[index]? with
  | none => skip p
  | some t => join config (visit config t schema) (p.node.putItem index) (.index index) path p

theorem visitItem_of_none {visit : Visit} {config : Config} {index : Nat} {p : Progress}
    (h : p.node.items[index]? = none) (schema : Tree) (path : Pointer) :
    visitItem visit config schema path index p = skip p := by
  simp [visitItem, h]

theorem visitItem_of_some {visit : Visit} {config : Config} {index : Nat} {p : Progress} {t : Tree}
    (h : p.node.items[index]? = some t) (schema : Tree) (path : Pointer) :
    visitItem visit config schema path index p =
      join config (visit config t schema) (p.node.putItem index) (.index index) path p := by
  simp [visitItem, h]

/-- A stage for each item of the array, in order. -/
def eachItem (stage : Nat → Stage) : Stage := fun p =>
  sequence ((List.range p.node.items.length).map stage) p

def checkPlace (visit : Visit) (config : Config) (schemas : List Tree) (policy : Additional)
    (index : Nat) : Stage :=
  match schemas[index]? with
  | some s => visitItem visit config s (.entry "items" (.index index)) index
  | none =>
    match policy with
    | .any => skip
    | .schema s => visitItem visit config (.object s) (.key "additionalItems") index
    | .forbidden => reject config (.additionalItem index schemas.length)

/-- What is allowed beyond the items that have a schema of their own. -/
def additionalItems (schema : Members) : Except Interruption Additional :=
  match schema.get? "additionalItems" with
  | none => .ok .any
  | some t =>
    match Additional.ofTree? t with
    | some policy => .ok policy
    | none => Interruption.malformed (.key "additionalItems") (.additional "additionalItems")

def checkItems (visit : Visit) (config : Config) (schema : Members) : Stage :=
  match schema.get? "items" with
  | none => skip
  | some (.object s) => eachItem (visitItem visit config (.object s) (.key "items"))
  | some (.array schemas) =>
    reading (additionalItems schema) fun policy =>
      eachItem (checkPlace visit config schemas policy)
  | some _ => malformed (.key "items") .items

def checkArray (visit : Visit) (config : Config) (schema : Members) : Stage := fun p =>
  match p.node with
  | .array _ =>
    sequence [checkItems visit config schema,
      checkConstraints config (Constraint.ofArrays schema)] p
  | _ => skip p

end Stage

end TreeSchema
