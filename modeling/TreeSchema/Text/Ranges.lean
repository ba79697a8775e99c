/-!
Sets of code points given as sorted, disjoint, closed ranges.
-/

namespace TreeSchema.Text

abbrev Ranges := Array (Nat × Nat)

/-- Whether one of the ranges with an index from `low` below `high` holds `c`. -/
def Ranges.containsBetween (table : Ranges) (c low high : Nat) : Bool :=
  if low < high then
    let middle := (low + high) / 2
    match table[middle]? with
    | none => false
    | some (first, last) =>
      if c < first then table.containsBetween c low middle
      else if last < c then table.containsBetween c (middle + 1) high
      else true
  else false
termination_by high - low

def Ranges.contains (table : Ranges) (c : Nat) : Bool :=
  table.containsBetween c 0 table.size

end TreeSchema.Text
