/-!
The codes of findings. Their numbers group them by the domain they belong to:
types and enumerations below ten, combinations of schemas below a hundred, then
numbers, strings, objects and arrays by the hundred.
-/

namespace TreeSchema

inductive Code where
  | invalidType
  | enumMismatch
  | anyOfMissing
  | oneOfMissing
  | oneOfMultiple
  | notPassed
  | numberMultipleOf
  | numberMinimum
  | numberMinimumExclusive
  | numberMaximum
  | numberMaximumExclusive
  | stringLengthShort
  | stringLengthLong
  | stringPattern
  | objectPropertiesMinimum
  | objectPropertiesMaximum
  | objectRequired
  | objectAdditionalProperties
  | objectDependencyKey
  | objectNoDefault
  | arrayLengthShort
  | arrayLengthLong
  | arrayUnique
  | arrayAdditionalItems
  | arrayIndexType
  deriving DecidableEq

namespace Code

def all : List Code :=
  [.invalidType, .enumMismatch, .anyOfMissing, .oneOfMissing, .oneOfMultiple, .notPassed,
    .numberMultipleOf, .numberMinimum, .numberMinimumExclusive, .numberMaximum,
    .numberMaximumExclusive, .stringLengthShort, .stringLengthLong, .stringPattern,
    .objectPropertiesMinimum, .objectPropertiesMaximum, .objectRequired,
    .objectAdditionalProperties, .objectDependencyKey, .objectNoDefault, .arrayLengthShort,
    .arrayLengthLong, .arrayUnique, .arrayAdditionalItems, .arrayIndexType]

def name : Code → String
  | .invalidType => "INVALID_TYPE"
  | .enumMismatch => "ENUM_MISMATCH"
  | .anyOfMissing => "ANY_OF_MISSING"
  | .oneOfMissing => "ONE_OF_MISSING"
  | .oneOfMultiple => "ONE_OF_MULTIPLE"
  | .notPassed => "NOT_PASSED"
  | .numberMultipleOf => "NUMBER_MULTIPLE_OF"
  | .numberMinimum => "NUMBER_MINIMUM"
  | .numberMinimumExclusive => "NUMBER_MINIMUM_EXCLUSIVE"
  | .numberMaximum => "NUMBER_MAXIMUM"
  | .numberMaximumExclusive => "NUMBER_MAXIMUM_EXCLUSIVE"
  | .stringLengthShort => "STRING_LENGTH_SHORT"
  | .stringLengthLong => "STRING_LENGTH_LONG"
  | .stringPattern => "STRING_PATTERN"
  | .objectPropertiesMinimum => "OBJECT_PROPERTIES_MINIMUM"
  | .objectPropertiesMaximum => "OBJECT_PROPERTIES_MAXIMUM"
  | .objectRequired => "OBJECT_REQUIRED"
  | .objectAdditionalProperties => "OBJECT_ADDITIONAL_PROPERTIES"
  | .objectDependencyKey => "OBJECT_DEPENDENCY_KEY"
  | .objectNoDefault => "OBJECT_NO_DEFAULT"
  | .arrayLengthShort => "ARRAY_LENGTH_SHORT"
  | .arrayLengthLong => "ARRAY_LENGTH_LONG"
  | .arrayUnique => "ARRAY_UNIQUE"
  | .arrayAdditionalItems => "ARRAY_ADDITIONAL_ITEMS"
  | .arrayIndexType => "ARRAY_INDEX_TYPE"

def number : Code → Nat
  | .invalidType => 0
  | .enumMismatch => 1
  | .anyOfMissing => 10
  | .oneOfMissing => 11
  | .oneOfMultiple => 12
  | .notPassed => 13
  | .numberMultipleOf => 100
  | .numberMinimum => 101
  | .numberMinimumExclusive => 102
  | .numberMaximum => 103
  | .numberMaximumExclusive => 104
  | .stringLengthShort => 200
  | .stringLengthLong => 201
  | .stringPattern => 202
  | .objectPropertiesMinimum => 300
  | .objectPropertiesMaximum => 301
  | .objectRequired => 302
  | .objectAdditionalProperties => 303
  | .objectDependencyKey => 304
  | .objectNoDefault => 305
  | .arrayLengthShort => 400
  | .arrayLengthLong => 401
  | .arrayUnique => 402
  | .arrayAdditionalItems => 403
  | .arrayIndexType => 404

def ofNumber? (n : Int) : Option Code :=
  all.find? fun c => (c.number : Int) == n

def ofName? (s : String) : Option Code :=
  all.find? (·.name == s)

/-- The domain of a code. -/
def category (c : Code) : String :=
  if c.number = 0 then "type"
  else if c.number < 10 then "enum"
  else if c.number < 100 then "composite"
  else if c.number < 200 then "number"
  else if c.number < 300 then "string"
  else if c.number < 400 then "object"
  else "array"

end Code

end TreeSchema
