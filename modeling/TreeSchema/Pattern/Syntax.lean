import TreeSchema.Pattern.Class

/-!
The syntax of patterns as trees. Flags are resolved: every node says itself
whether it ignores case, knows only ASCII, or treats lines separately.
-/

namespace TreeSchema.Pattern

inductive Anchor where
  | textStart
  | lineStart
  | textEnd
  | finalLineEnd
  | lineEnd
  | wordEdge (ascii : Bool)
  | notWordEdge (ascii : Bool)
  deriving DecidableEq

/-- Whether a repetition prefers many or few rounds, and whether it gives any back. -/
inductive Greed | greedy | lazy | possessive
  deriving DecidableEq

inductive Node where
  | one (test : CharTest)
  | anchor (a : Anchor)
  | branch (alternatives : List (List Node))
  | group (index : Option Nat) (body : List Node)
  | atomic (body : List Node)
  | repeated (greed : Greed) (least : Nat) (most : Option Nat) (body : List Node)
  | reference (index : Nat) (folding : Folding)
  | conditional (index : Nat) (yes no : List Node)
  | ahead (negated : Bool) (body : List Node)
  | behind (negated : Bool) (least most : Nat) (body : List Node)

structure Regex where
  nodes : List Node

/-! The least and greatest number of characters that a node takes. -/

/-- Widths are counted up to here. -/
def widthLimit : Nat := Nat.pow 2 64

abbrev Width := Nat × Nat

def Width.clamp (w : Width) : Width :=
  (min w.1 widthLimit, min w.2 widthLimit)

def Width.times (w : Width) (least : Nat) (most : Option Nat) : Width :=
  (w.1 * least,
    match most with
    | some n => w.2 * n
    | none => if w.2 = 0 then 0 else widthLimit)

def Width.either (v w : Width) : Width :=
  (min v.1 w.1, max v.2 w.2)

mutual

/-- The width of a node, given the widths of the closed groups. -/
def Node.width (groups : Nat → Width) : Node → Width
  | .one _ => (1, 1)
  | .anchor _ => (0, 0)
  | .branch alternatives => widthOfAny groups alternatives
  | .group _ body => widthOfAll groups body
  | .atomic body => widthOfAll groups body
  | .repeated _ least most body => Width.times (widthOfAll groups body) least most
  | .reference index _ => groups index
  | .conditional _ yes no => Width.either (widthOfAll groups yes) (widthOfAll groups no)
  | .ahead .. => (0, 0)
  | .behind .. => (0, 0)

def widthOfAll (groups : Nat → Width) : List Node → Width
  | [] => (0, 0)
  | node :: rest =>
    let v := node.width groups
    let w := widthOfAll groups rest
    Width.clamp (v.1 + w.1, v.2 + w.2)

def widthOfAny (groups : Nat → Width) : List (List Node) → Width
  | [] => (0, 0)
  | [body] => widthOfAll groups body
  | body :: rest => Width.either (widthOfAll groups body) (widthOfAny groups rest)

end

end TreeSchema.Pattern
