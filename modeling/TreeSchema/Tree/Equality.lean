import TreeSchema.Tree

/-!
Structural equality of trees, strict on kinds: numbers are equal by value,
arrays item by item, and objects when they have the same keys with equal
values, in whatever order.
-/

namespace TreeSchema

/-- Each key of one object is a key of the other. -/
def Members.sameKeys (xs ys : Members) : Bool :=
  xs.all (fun m => ys.has m.1) && ys.all (fun m => xs.has m.1)

namespace Tree

mutual

def equal : Tree → Tree → Bool
  | .null, .null => true
  | .bool a, .bool b => a == b
  | .number x, .number y => x.equal y
  | .string s, .string t => s == t
  | .array xs, .array ys => equalItems xs ys
  | .object xs, .object ys => Members.sameKeys xs ys && equalMembers xs ys
  | _, _ => false

def equalItems : List Tree → List Tree → Bool
  | [], [] => true
  | x :: xs, y :: ys => x.equal y && equalItems xs ys
  | _, _ => false

/-- Each member of the first object has an equal one under its key in the second. -/
def equalMembers : List (String × Tree) → Members → Bool
  | [], _ => true
  | (k, x) :: rest, ys =>
    (match ys.get? k with
      | some y => x.equal y
      | none => false) && equalMembers rest ys

end

/-- Trees of two kinds are never equal. -/
theorem kind_eq_of_equal {t u : Tree} (h : t.equal u = true) : t.kind = u.kind := by
  cases t <;> cases u <;> first | rfl | simp [equal] at h

end Tree

end TreeSchema
