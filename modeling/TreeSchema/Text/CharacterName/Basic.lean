/-!
Names of characters, written down for runs of consecutive code points: what all
names of the run begin with, and the endings of the names in order.
-/

namespace TreeSchema.Text

/-- The text after a beginning. -/
def afterStem? (stem name : String) : Option (List Char) :=
  if stem.toList.isPrefixOf name.toList then some (name.toList.drop stem.length) else none

structure NameRun where
  first : Nat
  stem : String
  /-- The endings, between bars; an empty one is that of a code point without a name. -/
  endings : List String

namespace NameRun

/-- The place of an ending in the run. -/
def indexOf? (ending : String) : Nat → List String → Option Nat
  | _, [] => none
  | index, e :: rest => if e == ending then some index else indexOf? ending (index + 1) rest

/-- The code point of a name, if the run has it. -/
def codePoint? (r : NameRun) (name : String) : Option Nat := do
  let ending ← afterStem? r.stem name
  if ending.isEmpty then none
  else indexOf? (String.ofList ending) r.first (r.endings.flatMap (·.splitOn "|"))

end NameRun

end TreeSchema.Text
