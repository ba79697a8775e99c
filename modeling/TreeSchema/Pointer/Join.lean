import TreeSchema.Number.Text
import TreeSchema.Pointer

/-!
Pointers of paths that a caller gives. The indices on the way through a tree are
those of its arrays; a caller gives any integers, and one of these may be too long
to be written.
-/

namespace TreeSchema

namespace Segment

/-- The text of a step, if it can be written. -/
def write : Segment → Except Failure String
  | .key k => .ok k
  | .index i => integerText i

/-- The text of a step as it stands in a pointer. -/
def escaped (s : Segment) : Except Failure String := do
  return Pointer.escape (← s.write)

end Segment

/-- The pointer of a path of steps, if all of them can be written. -/
def Pointer.join : List Segment → Except Failure Pointer
  | [] => .ok here
  | s :: rest => do
    let text ← s.escaped
    let below ← join rest
    return ⟨"/" ++ text⟩ ++ below

end TreeSchema
