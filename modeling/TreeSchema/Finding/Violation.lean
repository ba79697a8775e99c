import TreeSchema.Finding
import TreeSchema.Tree.Shown

/-!
Violations: what can be wrong with data, each with what its message tells. A
violation becomes a finding at the node it was found on; the only way that
fails is a limit too long to be written out.
-/

namespace TreeSchema

inductive Violation where
  | invalidType (kind : String)
  | enumMismatch
  | anyOfMissing (groups : List (List Finding))
  | oneOfMissing (groups : List (List Finding))
  | oneOfMultiple (first second : Nat)
  | notPassed
  | notMultipleOf (divisor : Tree)
  | belowMinimum (limit : Tree) (exclusive : Bool)
  | aboveMaximum (limit : Tree) (exclusive : Bool)
  | stringTooShort (limit : Tree)
  | stringTooLong (limit : Tree)
  | patternMismatch (pattern : String)
  | tooFewProperties (limit : Tree)
  | tooManyProperties (limit : Tree)
  | requiredMissing (index : Nat) (key : String)
  | additionalProperty (key : String)
  | dependencyMissing (key dependency : String) (index : Option Nat)
  | noDefault (key : String)
  | arrayTooShort (limit : Tree)
  | arrayTooLong (limit : Tree)
  | itemsNotUnique (first second : Nat)
  | additionalItem (index declared : Nat)

/-- Whether a limit is one, however it is written. -/
def Tree.isOne : Tree → Bool
  | .bool b => b
  | .number n => n.equal (.int 1)
  | _ => false

namespace Violation

def code : Violation → Code
  | .invalidType _ => .invalidType
  | .enumMismatch => .enumMismatch
  | .anyOfMissing _ => .anyOfMissing
  | .oneOfMissing _ => .oneOfMissing
  | .oneOfMultiple .. => .oneOfMultiple
  | .notPassed => .notPassed
  | .notMultipleOf _ => .numberMultipleOf
  | .belowMinimum _ exclusive => if exclusive then .numberMinimumExclusive else .numberMinimum
  | .aboveMaximum _ exclusive => if exclusive then .numberMaximumExclusive else .numberMaximum
  | .stringTooShort _ => .stringLengthShort
  | .stringTooLong _ => .stringLengthLong
  | .patternMismatch _ => .stringPattern
  | .tooFewProperties _ => .objectPropertiesMinimum
  | .tooManyProperties _ => .objectPropertiesMaximum
  | .requiredMissing .. => .objectRequired
  | .additionalProperty _ => .objectAdditionalProperties
  | .dependencyMissing .. => .objectDependencyKey
  | .noDefault _ => .objectNoDefault
  | .arrayTooShort _ => .arrayLengthShort
  | .arrayTooLong _ => .arrayLengthLong
  | .itemsNotUnique .. => .arrayUnique
  | .additionalItem .. => .arrayAdditionalItems

/-- Where the data is wrong, seen from the node that was checked. -/
def dataPath : Violation → Pointer
  | .additionalProperty key => .key key
  | .additionalItem index _ => .index index
  | _ => .here

/-- The keyword that was broken, seen from the schema that was applied. -/
def schemaPath : Violation → Pointer
  | .invalidType _ => .key "type"
  | .enumMismatch => .key "enum"
  | .anyOfMissing _ => .key "anyOf"
  | .oneOfMissing _ => .key "oneOf"
  | .oneOfMultiple .. => .key "oneOf"
  | .notPassed => .key "not"
  | .notMultipleOf _ => .key "multipleOf"
  | .belowMinimum .. => .key "minimum"
  | .aboveMaximum .. => .key "maximum"
  | .stringTooShort _ => .key "minLength"
  | .stringTooLong _ => .key "maxLength"
  | .patternMismatch _ => .key "pattern"
  | .tooFewProperties _ => .key "minProperties"
  | .tooManyProperties _ => .key "maxProperties"
  | .requiredMissing index _ => .entry "required" (.index index)
  | .additionalProperty _ => .key "additionalProperties"
  | .dependencyMissing key _ none => .entry "dependencies" (.key key)
  | .dependencyMissing key _ (some index) =>
    .ofSegments [.key "dependencies", .key key, .index index]
  | .noDefault key => .entry "properties" (.key key)
  | .arrayTooShort _ => .key "minItems"
  | .arrayTooLong _ => .key "maxItems"
  | .itemsNotUnique .. => .key "uniqueItems"
  | .additionalItem .. => .key "additionalItems"

def groups : Violation → List (List Finding)
  | .anyOfMissing groups => groups
  | .oneOfMissing groups => groups
  | _ => []

def message : Violation → Except Failure String
  | .invalidType kind => .ok s!"Invalid type: {kind}"
  | .enumMismatch => .ok "Value must be one of the enum options"
  | .anyOfMissing _ => .ok "Value must satisfy at least one of the options"
  | .oneOfMissing _ => .ok "Value must satisfy one of the options"
  | .oneOfMultiple first second =>
    .ok s!"Value satisfies more than one of the options ({first} and {second})"
  | .notPassed => .ok "Value satisfies prohibited schema"
  | .notMultipleOf divisor => do
    let text ← divisor.limitText
    return s!"Number must be a multiple of {text}"
  | .belowMinimum limit exclusive => do
    let text ← limit.limitText
    return (if exclusive then "Number must be > " else "Number must be >= ") ++ text
  | .aboveMaximum limit exclusive => do
    let text ← limit.limitText
    return (if exclusive then "Number must be < " else "Number must be <= ") ++ text
  | .stringTooShort limit => do
    let text ← limit.limitText
    return s!"String must be at least {text} characters long"
  | .stringTooLong limit => do
    let text ← limit.limitText
    return s!"String must be at most {text} characters long"
  | .patternMismatch pattern => .ok s!"String does not match pattern: {pattern}"
  | .tooFewProperties limit =>
    if limit.isOne then .ok "Object cannot be empty"
    else do
      let text ← limit.limitText
      return s!"Object must have at least {text} defined properties"
  | .tooManyProperties limit =>
    if limit.isOne then .ok "Object must have at most one defined property"
    else do
      let text ← limit.limitText
      return s!"Object must have at most {text} defined properties"
  | .requiredMissing _ key => .ok s!"Missing required property: {key}"
  | .additionalProperty _ => .ok "Additional properties not allowed"
  | .dependencyMissing key dependency _ => .ok s!"Property {key} depends on {dependency}"
  | .noDefault key => .ok s!"Missing default value for property: {key}"
  | .arrayTooShort limit => do
    let text ← limit.limitText
    return s!"Array is too short (must have at least {text} items)"
  | .arrayTooLong limit => do
    let text ← limit.limitText
    return s!"Array is too long (must have at most {text} items)"
  | .itemsNotUnique first second =>
    .ok s!"Array items must be unique (items {first} and {second})"
  | .additionalItem _ declared =>
    .ok s!"Additional items (index {declared} or more) are not allowed"

/-- The violation as a finding of the node that was checked. -/
def finding (v : Violation) : Except Failure Finding := do
  return ⟨v.code, v.dataPath, v.schemaPath, ← v.message, v.groups⟩

theorem finding_of_message {v : Violation} {text : String} (h : v.message = .ok text) :
    v.finding = .ok ⟨v.code, v.dataPath, v.schemaPath, text, v.groups⟩ := by
  rw [finding, h]
  rfl

/-- A finding is the violation with its message. -/
theorem exists_of_finding {v : Violation} {f : Finding} (h : v.finding = .ok f) :
    ∃ text, v.message = .ok text ∧ f = ⟨v.code, v.dataPath, v.schemaPath, text, v.groups⟩ := by
  cases told : v.message with
  | error cause =>
    rw [finding, told] at h
    cases h
  | ok text =>
    rw [finding_of_message told] at h
    cases h
    exact ⟨text, rfl, rfl⟩

theorem groups_of_finding {v : Violation} {f : Finding} (h : v.finding = .ok f) :
    f.groups = v.groups := by
  obtain ⟨text, -, rfl⟩ := exists_of_finding h
  rfl

end Violation

end TreeSchema
