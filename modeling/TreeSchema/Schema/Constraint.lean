import TreeSchema.Finding.Violation
import TreeSchema.Pattern.Search
import TreeSchema.Schema.Keyword
import TreeSchema.Tree.Equality

/-!
Constraints: the keywords that are judged on one node without looking at other
schemas. All constraints of a kind of data are read from the schema before any
of them is judged, so a malformed keyword is found whatever the data is.
-/

namespace TreeSchema

inductive Constraint where
  | among (choices : List Tree)
  | minLength (limit : Number)
  | maxLength (limit : Number)
  | pattern (text : String) (regex : Pattern.Regex)
  | multipleOf (divisor : Number)
  | minimum (limit : Number) (exclusive : Bool)
  | maximum (limit : Number) (exclusive : Bool)
  | minItems (limit : Number)
  | maxItems (limit : Number)
  | uniqueItems
  | minProperties (limit : Number)
  | maxProperties (limit : Number)

/-! Divisibility -/

/-- The exact value of a number as a quotient of integers. -/
def Number.ratio : Number → Except Failure Rat
  | .double .nan => .error .undefinedRatio
  | .double (.infinite _) => .error .infiniteRatio
  | x => .ok (x.toRat?.getD 0)

/-- The quotient of two numbers as a double; numbers past every double make it infinite. -/
def Number.quotient (x y : Number) : Double :=
  let a := x.toDouble
  let b := y.toDouble
  let tooLarge (n : Number) (d : Double) : Bool :=
    match n with
    | .int _ => !d.isFinite
    | .double _ => false
  if tooLarge x a || tooLarge y b then .infinite false else a.div b

/-- Whether `x` divided by `y` is whole. Two integers are divided exactly, others as doubles as
long as the quotient is finite, and exactly beyond that. -/
def Number.isMultiple (x y : Number) : Except Failure Bool :=
  match x, y with
  | .int m, .int n => .ok (m % n == 0)
  | x, y =>
    let q := x.quotient y
    if q.isFinite then .ok q.isWhole
    else do
      let a ← x.ratio
      let b ← y.ratio
      return (a / b).den == 1

/-! Judging -/

def lengthOf (n : Nat) : Number :=
  .int n

/-- The index of the first item from `index` on that equals `t`. -/
def indexOfEqual? (t : Tree) : Nat → List Tree → Option Nat
  | _, [] => none
  | index, u :: rest => if t.equal u then some index else indexOfEqual? t (index + 1) rest

/-- The first pair of equal items, by the first index and then by the second. -/
def firstDuplicate? : Nat → List Tree → Option (Nat × Nat)
  | _, [] => none
  | index, t :: rest =>
    match indexOfEqual? t (index + 1) rest with
    | some second => some (index, second)
    | none => firstDuplicate? (index + 1) rest

namespace Constraint

def refuseIf (refused : Bool) (v : Violation) : Except Failure (Option Violation) :=
  .ok (if refused then some v else none)

/-- The violation of a constraint by a node, if it is one. -/
def judge : Constraint → Tree → Except Failure (Option Violation)
  | .among choices, t => refuseIf (!choices.any t.equal) .enumMismatch
  | .minLength limit, .string s =>
    refuseIf ((lengthOf s.length).lt limit) (.stringTooShort (.number limit))
  | .maxLength limit, .string s =>
    refuseIf (limit.lt (lengthOf s.length)) (.stringTooLong (.number limit))
  | .pattern text regex, .string s => refuseIf (!regex.finds s) (.patternMismatch text)
  | .multipleOf divisor, .number n => do
    refuseIf (!(← n.isMultiple divisor)) (.notMultipleOf (.number divisor))
  | .minimum limit exclusive, .number n =>
    refuseIf (n.lt limit || (exclusive && n.equal limit)) (.belowMinimum (.number limit) exclusive)
  | .maximum limit exclusive, .number n =>
    refuseIf (limit.lt n || (exclusive && n.equal limit)) (.aboveMaximum (.number limit) exclusive)
  | .minItems limit, .array items =>
    refuseIf ((lengthOf items.length).lt limit) (.arrayTooShort (.number limit))
  | .maxItems limit, .array items =>
    refuseIf (limit.lt (lengthOf items.length)) (.arrayTooLong (.number limit))
  | .uniqueItems, .array items =>
    .ok ((firstDuplicate? 0 items).map fun (first, second) => .itemsNotUnique first second)
  | .minProperties limit, .object members =>
    refuseIf ((lengthOf members.length).lt limit) (.tooFewProperties (.number limit))
  | .maxProperties limit, .object members =>
    refuseIf (limit.lt (lengthOf members.length)) (.tooManyProperties (.number limit))
  | _, _ => .ok none

/-! Reading constraints from a schema -/

abbrev Reading := Except Interruption (List Constraint)

/-- A keyword that counts: any number that is not negative. -/
def countOf (schema : Members) (keyword : String) (make : Number → Constraint) : Reading :=
  match schema.get? keyword with
  | none => .ok []
  | some (.number n) =>
    if n.isNegative then Interruption.malformed (.key keyword) (.count keyword) else .ok [make n]
  | some _ => Interruption.malformed (.key keyword) (.count keyword)

/-- A keyword that limits numbers, with the keyword that makes the limit exclusive. -/
def limitOf (schema : Members) (keyword exclusive : String) (make : Number → Bool → Constraint) :
    Reading :=
  match schema.get? keyword with
  | none => .ok []
  | some (.number n) => .ok [make n (((schema.get? exclusive).map Tree.isTruthy).getD false)]
  | some _ => Interruption.malformed (.key keyword) (.limit keyword)

def divisorOf (schema : Members) : Reading :=
  match schema.get? "multipleOf" with
  | none => .ok []
  | some (.number n) =>
    if n.isNegative || n.isZero then Interruption.malformed (.key "multipleOf") .divisor
    else .ok [.multipleOf n]
  | some _ => Interruption.malformed (.key "multipleOf") .divisor

/-- The flag letters beside a pattern. -/
def patternLetters (schema : Members) : Except Interruption String :=
  let refuse (t : Tree) : Except Interruption String := do
    let shown ← Interruption.ofFailure t.shown
    Interruption.malformed (.key "patternFlags") (.patternFlags shown)
  match schema.get? "patternFlags" with
  | none => .ok ""
  | some (.string letters) =>
    if letters.toList.all fun c => (Pattern.Flag.ofLetter? c).isSome then .ok letters
    else refuse (.string letters)
  | some t => refuse t

def patternOf (schema : Members) : Reading :=
  match schema.get? "pattern" with
  | none => .ok []
  | some (.string text) => do
    let letters ← patternLetters schema
    match ← Interruption.ofFailure (Pattern.compile text letters) with
    | .ok regex => return [.pattern text regex]
    | .error r => Interruption.malformed (.key "pattern") (.pattern r)
  | some _ => Interruption.malformed (.key "pattern") .patternText

def ofEnum (schema : Members) : Reading :=
  match schema.get? "enum" with
  | none => .ok []
  | some (.array choices) => .ok [.among choices]
  | some _ => Interruption.malformed (.key "enum") .enumOptions

/-- Readings one after the other, up to the first that fails. -/
def readAll : List Reading → Reading
  | [] => .ok []
  | reading :: rest => do return (← reading) ++ (← readAll rest)

def ofStrings (schema : Members) : Reading :=
  readAll [countOf schema "minLength" .minLength, countOf schema "maxLength" .maxLength,
    patternOf schema]

def ofNumbers (schema : Members) : Reading :=
  readAll [divisorOf schema, limitOf schema "minimum" "exclusiveMinimum" .minimum,
    limitOf schema "maximum" "exclusiveMaximum" .maximum]

def ofArrays (schema : Members) : Reading :=
  readAll [countOf schema "minItems" .minItems, countOf schema "maxItems" .maxItems,
    .ok (if schema.has "uniqueItems" then [.uniqueItems] else [])]

def ofObjects (schema : Members) : Reading :=
  readAll [countOf schema "minProperties" .minProperties,
    countOf schema "maxProperties" .maxProperties]

end Constraint

end TreeSchema
