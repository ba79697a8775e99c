import TreeSchema.Finding
import TreeSchema.Tree

/-!
The outcome of a call: the findings, the tree that the run left, and what a
report tells about them.
-/

namespace TreeSchema

structure Outcome where
  mode : Mode
  findings : List Finding
  /-- The tree after the run; a run that does not coerce leaves the caller's tree. -/
  data : Tree
  coerced : Bool

namespace Outcome

def isValid (o : Outcome) : Bool :=
  o.findings.isEmpty

theorem isValid_iff (o : Outcome) : o.isValid = true ↔ o.findings = [] :=
  List.isEmpty_iff

/-- The converted tree of a valid outcome. -/
def value? (o : Outcome) : Option Tree :=
  if o.coerced && o.isValid then some o.data else none

theorem value?_eq_some_iff {o : Outcome} {t : Tree} :
    o.value? = some t ↔ o.coerced = true ∧ o.findings = [] ∧ o.data = t := by
  simp [value?, isValid_iff, and_assoc]

def codes (o : Outcome) : List Code :=
  o.findings.map (·.code)

def lines (o : Outcome) : List String :=
  o.findings.map Finding.line

def firstFinding? (o : Outcome) : Option Finding :=
  o.findings.head?

/-- The findings at a place in the data, in order. -/
def findingsFor (o : Outcome) (path : Pointer) : List Finding :=
  o.findings.filter (·.dataPath = path)

/-- Puts a finding into the group of its place; a place without a group gets one at the end. -/
def addToGroups (f : Finding) : List (Pointer × List Finding) → List (Pointer × List Finding)
  | [] => [(f.dataPath, [f])]
  | (path, group) :: rest =>
    if path = f.dataPath then (path, group ++ [f]) :: rest
    else (path, group) :: addToGroups f rest

/-- The findings grouped by their place in the data, in the order of first occurrence. -/
def byDataPath (o : Outcome) : List (Pointer × List Finding) :=
  o.findings.foldl (fun groups f => addToGroups f groups) []

end Outcome

/-- An outcome with findings, turned into an error with a message of the caller's. -/
structure Rejected where
  message : String
  mode : Mode
  findings : List Finding

namespace Rejected

def defaultMessage : String := "Validation failed"

/-- The error as text: a single finding speaks for itself. -/
def text (r : Rejected) : String :=
  match r.findings with
  | [] => r.message
  | [f] => f.line
  | findings => s!"{r.message} ({findings.length} errors)"

end Rejected

/-- The error of an outcome with findings. -/
def Outcome.rejected? (o : Outcome) (message : String) : Option Rejected :=
  if o.isValid then none else some ⟨message, o.mode, o.findings⟩

end TreeSchema
