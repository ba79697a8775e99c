import TreeSchema.Pattern.Compile
import TreeSchema.Pointer

/-!
Faults: a keyword of the schema is malformed, so that there is no verdict on
the data. A fault names the place in the schema and what is wrong there.
-/

namespace TreeSchema

inductive Malformed where
  | schema
  | typeNames
  | unknownType (name : String)
  | enumOptions
  | required
  | objectExpected (keyword : String)
  | additional (keyword : String)
  | dependency
  | items
  | count (keyword : String)
  | limit (keyword : String)
  | divisor
  | patternText
  | patternFlags (shown : String)
  | pattern (r : Pattern.Rejection)
  | branches (keyword : String)
  deriving DecidableEq

namespace Malformed

/-- What a value for additional members has to be. -/
def additionalRule : String := "must be a boolean or an object"

/-- What a dependency has to be. -/
def dependencyRule : String := "must be an object, a key name, or a list of key names"

def message : Malformed → String
  | .schema => "Schema must be an object"
  | .typeNames => "type must be a string or an array of strings"
  | .unknownType name => s!"Unknown type: {name}"
  | .enumOptions => "enum must be of type array"
  | .required => "required must be an array of property names"
  | .objectExpected keyword => s!"{keyword} must be an object"
  | .additional keyword => s!"{keyword} {additionalRule}"
  | .dependency => s!"dependency {dependencyRule}"
  | .items => "items must be an object or an array"
  | .count keyword => s!"{keyword} must be a non-negative number"
  | .limit keyword => s!"{keyword} must be a number"
  | .divisor => "multipleOf must be a positive number"
  | .patternText => "pattern must be a string"
  | .patternFlags shown => s!"Invalid pattern flags: {shown}"
  | .pattern r => r.message
  | .branches keyword => s!"{keyword} must be an array of schemas"

end Malformed

structure Fault where
  schemaPath : Pointer
  cause : Malformed
  deriving DecidableEq

namespace Fault

/-- The fault seen from further up in the schema. -/
def under (schema : Pointer) (f : Fault) : Fault :=
  { f with schemaPath := schema ++ f.schemaPath }

def message (f : Fault) : String :=
  f.cause.message

def line (f : Fault) : String :=
  s!"{f.schemaPath.label}: {f.message}"

end Fault

/-- What ends a run without a verdict. -/
inductive Interruption where
  | fault (f : Fault)
  | failure (cause : Failure)
  deriving DecidableEq

namespace Interruption

def under (schema : Pointer) : Interruption → Interruption
  | .fault f => .fault (f.under schema)
  | .failure cause => .failure cause

/-- A malformed value of a keyword, seen from the schema that has it. -/
def malformed {α : Type} (path : Pointer) (cause : Malformed) : Except Interruption α :=
  .error (.fault ⟨path, cause⟩)

/-- A reading that may fail, inside a run. -/
def ofFailure {α : Type} : Except Failure α → Except Interruption α
  | .ok a => .ok a
  | .error cause => .error (.failure cause)

end Interruption

end TreeSchema
