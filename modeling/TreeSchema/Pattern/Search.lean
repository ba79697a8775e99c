import TreeSchema.Pattern.Syntax

/-!
Matching by backtracking. A node is run at a point of the text with a
continuation that says whether the rest matches from where the node ends; the
first way that satisfies the continuation wins. The recursion is on the node,
and rounds of a repetition are bounded by the least number asked for and the
characters left, since a further round has to start where no round started
before.
-/

namespace TreeSchema.Pattern

/-- A position in the text and the marks set so far, the latest first. The marks of group `g`
are `2 * g` for its start and `2 * g + 1` for its end. -/
structure Point where
  position : Nat
  marks : List (Nat × Nat)

namespace Point

def advance (p : Point) (n : Nat) : Point :=
  { p with position := p.position + n }

def mark (p : Point) (index : Nat) : Point :=
  { p with marks := (index, p.position) :: p.marks }

/-- The span of a group that has been passed. -/
def span? (p : Point) (group : Nat) : Option (Nat × Nat) := do
  let start ← p.marks.lookup (2 * group)
  let stop ← p.marks.lookup (2 * group + 1)
  if start ≤ stop then some (start, stop) else none

end Point

abbrev Continuation := Point → Option Point

/-- A matcher at a point, given what has to match after it. -/
abbrev Matcher := Point → Continuation → Option Point

def isWordAt (text : Array Char) (ascii : Bool) (position : Nat) : Bool :=
  match text[position]? with
  | some c => ClassName.word.holds ascii c
  | none => false

/-- Whether exactly one side of a position is a word character. -/
def isWordEdge (text : Array Char) (ascii : Bool) (position : Nat) : Bool :=
  (0 < position && isWordAt text ascii (position - 1)) != isWordAt text ascii position

def Anchor.holds (text : Array Char) (position : Nat) : Anchor → Bool
  | .textStart => position == 0
  | .lineStart => position == 0 || text[position - 1]? == some '\n'
  | .textEnd => position == text.size
  | .finalLineEnd =>
    position == text.size || (position + 1 == text.size && text[position]? == some '\n')
  | .lineEnd => position == text.size || text[position]? == some '\n'
  | .wordEdge ascii => isWordEdge text ascii position
  | .notWordEdge ascii => !text.isEmpty && !isWordEdge text ascii position

/-- The number of characters from `position` on that pass a test, `limit` at most. -/
def countRun (text : Array Char) (test : CharTest) : Nat → Nat → Nat
  | 0, _ => 0
  | limit + 1, position =>
    match text[position]? with
    | some c => if test.accepts c then countRun text test limit (position + 1) + 1 else 0
    | none => 0

/-- Tries the lengths from `least + extra` down to `least`. -/
def fewerAndFewer (p : Point) (least : Nat) (k : Continuation) : Nat → Option Point
  | 0 => k (p.advance least)
  | extra + 1 => (k (p.advance (least + extra + 1))).orElse fun _ => fewerAndFewer p least k extra

/-- Tries the lengths from `length` up, `extra` more at most. -/
def moreAndMore (p : Point) (k : Continuation) : Nat → Nat → Option Point
  | length, 0 => k (p.advance length)
  | length, extra + 1 => (k (p.advance length)).orElse fun _ => moreAndMore p k (length + 1) extra

/-- The most rounds of one character that there can be at `p`. -/
def roundLimit (text : Array Char) (p : Point) (most : Option Nat) : Nat :=
  min (text.size - p.position) (most.getD text.size)

/-- A repetition of a single character. -/
def repeatOne (text : Array Char) (test : CharTest) (greed : Greed) (least : Nat)
    (most : Option Nat) : Matcher := fun p k =>
  let run := countRun text test (roundLimit text p most) p.position
  if run < least then none
  else match greed with
    | .greedy => fewerAndFewer p least k (run - least)
    | .lazy => moreAndMore p k least (run - least)
    | .possessive => k (p.advance run)

/-- Whether another round may start at `p`, after `count` rounds of which the last free one
started at `last`. -/
def mayRepeat (most : Option Nat) (count : Nat) (last : Option Nat) (p : Point) : Bool :=
  most.all (count < ·) && last != some p.position

def repeatGreedy (once : Matcher) (least : Nat) (most : Option Nat) (k : Continuation) :
    Nat → Nat → Option Nat → Point → Option Point
  | 0, _, _, _ => none
  | rounds + 1, count, last, p =>
    if count < least then
      once p (repeatGreedy once least most k rounds (count + 1) last)
    else if mayRepeat most count last p then
      (once p (repeatGreedy once least most k rounds (count + 1) (some p.position))).orElse
        fun _ => k p
    else k p

def repeatLazy (once : Matcher) (least : Nat) (most : Option Nat) (k : Continuation) :
    Nat → Nat → Option Nat → Point → Option Point
  | 0, _, _, _ => none
  | rounds + 1, count, last, p =>
    if count < least then
      once p (repeatLazy once least most k rounds (count + 1) last)
    else
      (k p).orElse fun _ =>
        if mayRepeat most count last p then
          once p (repeatLazy once least most k rounds (count + 1) (some p.position))
        else none

def repeatPossessive (once : Matcher) (least : Nat) (most : Option Nat) :
    Nat → Nat → Option Nat → Point → Option Point
  | 0, _, _, _ => none
  | rounds + 1, count, last, p =>
    if count < least then
      (once p some).bind (repeatPossessive once least most rounds (count + 1) last)
    else if mayRepeat most count last p then
      match once p some with
      | some q => repeatPossessive once least most rounds (count + 1) (some p.position) q
      | none => some p
    else some p

/-- A repetition of anything. -/
def repeatMany (text : Array Char) (once : Matcher) (greed : Greed) (least : Nat)
    (most : Option Nat) : Matcher := fun p k =>
  let rounds := least + (text.size - p.position) + 2
  match greed with
  | .greedy => repeatGreedy once least most k rounds 0 none p
  | .lazy => repeatLazy once least most k rounds 0 none p
  | .possessive => (repeatPossessive once least most rounds 0 none p).bind k

/-- Whether the text at `position` repeats the characters from `start`, `length` of them. -/
def sameText (text : Array Char) (folding : Folding) (start position : Nat) : Nat → Bool
  | 0 => true
  | length + 1 =>
    match text[start]?, text[position]? with
    | some c, some d =>
      folding.apply c.toNat == folding.apply d.toNat &&
        sameText text folding (start + 1) (position + 1) length
    | _, _ => false

mutual

def Node.run (text : Array Char) : Node → Matcher
  | .one test => fun p k =>
    match text[p.position]? with
    | some c => if test.accepts c then k (p.advance 1) else none
    | none => none
  | .anchor a => fun p k => if a.holds text p.position then k p else none
  | .branch alternatives => runAny text alternatives
  | .group none body => runAll text body
  | .group (some index) body => fun p k =>
    runAll text body (p.mark (2 * index)) fun q => k (q.mark (2 * index + 1))
  | .atomic body => fun p k => (runAll text body p some).bind k
  | .repeated greed least most [.one test] => repeatOne text test greed least most
  | .repeated greed least most body => repeatMany text (runAll text body) greed least most
  | .reference index folding => fun p k =>
    match p.span? index with
    | some (start, stop) =>
      if sameText text folding start p.position (stop - start) then k (p.advance (stop - start))
      else none
    | none => none
  | .conditional index yes no => fun p k =>
    if (p.span? index).isSome then runAll text yes p k else runAll text no p k
  | .ahead negated body => fun p k =>
    match runAll text body p some with
    | some q => if negated then none else k { q with position := p.position }
    | none => if negated then k p else none
  | .behind negated width _ body => fun p k =>
    let found :=
      if width ≤ p.position then
        runAll text body { p with position := p.position - width } some
      else none
    match found with
    | some q => if negated then none else k { q with position := p.position }
    | none => if negated then k p else none

def runAll (text : Array Char) : List Node → Matcher
  | [] => fun p k => k p
  | node :: rest => fun p k => node.run text p fun q => runAll text rest q k

def runAny (text : Array Char) : List (List Node) → Matcher
  | [] => fun _ _ => none
  | body :: rest => fun p k => (runAll text body p k).orElse fun _ => runAny text rest p k

end

/-- Tries the positions from `start` on, `more` of them after the first. -/
def searchFrom (text : Array Char) (nodes : List Node) (start : Nat) : Nat → Bool
  | 0 => (runAll text nodes ⟨start, []⟩ some).isSome
  | more + 1 =>
    (runAll text nodes ⟨start, []⟩ some).isSome || searchFrom text nodes (start + 1) more

/-- Whether the pattern matches somewhere in the text. -/
def Regex.finds (r : Regex) (s : String) : Bool :=
  let text := s.toList.toArray
  searchFrom text r.nodes 0 text.size

end TreeSchema.Pattern
