import TreeSchema.Text.Case
import TreeSchema.Text.Quoted

/-!
Paths of documents, in their plain form: without empty steps, steps that stay
where they are, and trailing slashes. What can go wrong with opening one is told
with the number that the system gives it.
-/

namespace TreeSchema.CommandLine

structure Path where
  text : String
  deriving DecidableEq

namespace Path

/-- The slashes at the start of the plain form: two of them are kept as two, more are one. -/
def root (s : String) : String :=
  let slashes := (s.toList.takeWhile (· == '/')).length
  if slashes = 0 then "" else if slashes = 2 then "//" else "/"

/-- The steps of a path that lead somewhere. -/
def steps (s : String) : List String :=
  (s.splitOn "/").filter fun step => step != "" && step != "."

/-- The path in its plain form; a path without steps is where one stands. -/
def ofText (s : String) : Path :=
  let plain := root s ++ "/".intercalate (steps s)
  ⟨if plain.isEmpty then "." else plain⟩

/-- The part of the last step from its last point on, unless the point begins or ends the step. -/
def suffix (p : Path) : String :=
  let last := ((steps p.text).getLast?.getD "").toList
  let ending := (last.reverse.takeWhile (· != '.')).reverse
  let before := last.length - ending.length
  if ending.isEmpty || before ≤ 1 then "" else String.ofList ('.' :: ending)

def suffixes : List String := [".yaml", ".yml"]

/-- Whether the name says that the document is YAML. -/
def isYaml (p : Path) : Bool :=
  suffixes.contains (String.ofList (p.suffix.toList.map fun c => Char.ofNat (Text.lower c.toNat)))

end Path

inductive OpenError | notFound | notADirectory | isADirectory
  deriving DecidableEq

namespace OpenError

def number : OpenError → Nat
  | .notFound => 2
  | .notADirectory => 20
  | .isADirectory => 21

def text : OpenError → String
  | .notFound => "No such file or directory"
  | .notADirectory => "Not a directory"
  | .isADirectory => "Is a directory"

def message (e : OpenError) (p : Path) : String :=
  s!"[Errno {e.number}] {e.text}: " ++ Text.quoted p.text

end OpenError

end TreeSchema.CommandLine
