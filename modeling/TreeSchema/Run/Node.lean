import TreeSchema.Conversion
import TreeSchema.Run.Basic
import TreeSchema.Schema.Constraint

/-!
Stages for every kind of node: the declared types, and constraints. A node of
another type is converted when the run is coercing and a conversion exists;
otherwise its kind is reported and the run goes on with the node as it is.
-/

namespace TreeSchema.Stage

def convertNode (config : Config) (types : List TypeName) : Stage := fun p =>
  reading (Interruption.ofFailure (convertTo p.node (types.map TypeName.name))) (fun
    | .ok converted => replace converted
    | .error _ => reject config (.invalidType p.node.kindText)) p

def checkTypes (config : Config) (types : List TypeName) : Stage := fun p =>
  if types.any p.node.hasType then skip p
  else if config.coercing then convertNode config types p
  else reject config (.invalidType p.node.kindText) p

section

variable {config : Config} {types : List TypeName} {p : Progress}

theorem convertNode_of_failure {cause : Failure}
    (h : convertTo p.node (types.map TypeName.name) = .error cause) :
    convertNode config types p = interrupt (.failure cause) p := by
  simp [convertNode, h, Interruption.ofFailure]

theorem convertNode_of_converted {t : Tree}
    (h : convertTo p.node (types.map TypeName.name) = .ok (.ok t)) :
    convertNode config types p = replace t p := by
  simp [convertNode, h, Interruption.ofFailure]

theorem convertNode_of_refused {r : Refusal}
    (h : convertTo p.node (types.map TypeName.name) = .ok (.error r)) :
    convertNode config types p = reject config (.invalidType p.node.kindText) p := by
  simp [convertNode, h, Interruption.ofFailure]

theorem checkTypes_of_typed (h : types.any p.node.hasType = true) :
    checkTypes config types p = skip p :=
  if_pos h

theorem checkTypes_of_coercing (h : types.any p.node.hasType ≠ true)
    (coercing : config.coercing = true) : checkTypes config types p = convertNode config types p :=
  (if_neg h).trans (if_pos coercing)

theorem checkTypes_of_plain (h : types.any p.node.hasType ≠ true)
    (plain : config.coercing ≠ true) :
    checkTypes config types p = reject config (.invalidType p.node.kindText) p :=
  (if_neg h).trans (if_neg plain)

end

def checkType (config : Config) (schema : Members) : Stage :=
  if !schema.has "type" then skip
  else
    match declaredTypes schema with
    | .ok types => checkTypes config types
    | .error cause => malformed (.key "type") cause

def checkConstraint (config : Config) (c : Constraint) : Stage := fun p =>
  reading (Interruption.ofFailure (c.judge p.node)) (fun
    | some v => reject config v
    | none => skip) p

section

variable {config : Config} {c : Constraint} {p : Progress}

theorem checkConstraint_of_failure {cause : Failure} (h : c.judge p.node = .error cause) :
    checkConstraint config c p = interrupt (.failure cause) p := by
  simp [checkConstraint, h, Interruption.ofFailure]

theorem checkConstraint_of_none (h : c.judge p.node = .ok none) :
    checkConstraint config c p = skip p := by
  simp [checkConstraint, h, Interruption.ofFailure]

theorem checkConstraint_of_some {v : Violation} (h : c.judge p.node = .ok (some v)) :
    checkConstraint config c p = reject config v p := by
  simp [checkConstraint, h, Interruption.ofFailure]

end

/-- Judges the node by constraints that have been read, one after the other. -/
def checkConstraints (config : Config) (constraints : Constraint.Reading) : Stage :=
  reading constraints fun constraints => sequence (constraints.map (checkConstraint config))

def checkString (config : Config) (schema : Members) : Stage := fun p =>
  match p.node with
  | .string _ => checkConstraints config (Constraint.ofStrings schema) p
  | _ => skip p

def checkNumber (config : Config) (schema : Members) : Stage := fun p =>
  match p.node with
  | .number _ => checkConstraints config (Constraint.ofNumbers schema) p
  | _ => skip p

end TreeSchema.Stage
