/-!
Failures: what ends an operation without a verdict on either the data or the
schema. Each names its cause; the wording is in `Failure.message`.
-/

namespace TreeSchema

/-- Integers are written and read in decimal up to this many digits. -/
def digitLimit : Nat := 4300

inductive Failure where
  | tooLongToWrite
  | tooLongToRead (digits : Nat)
  | notAnInteger (shown : String)
  | notADouble (shown : String)
  | textExpected (type : String)
  | unhashable (type : String)
  | infiniteRatio
  | undefinedRatio
  | repetitionTooLarge
  | conflictingClasses
  deriving DecidableEq

def Failure.message : Failure → String
  | .tooLongToWrite =>
    s!"Exceeds the limit ({digitLimit} digits) for integer string conversion; " ++
      "use sys.set_int_max_str_digits() to increase the limit"
  | .tooLongToRead digits =>
    s!"Exceeds the limit ({digitLimit} digits) for integer string conversion: " ++
      s!"value has {digits} digits; use sys.set_int_max_str_digits() to increase the limit"
  | .notAnInteger shown => s!"invalid literal for int() with base 10: {shown}"
  | .notADouble shown => s!"could not convert string to float: {shown}"
  | .textExpected type => s!"expected string or bytes-like object, got '{type}'"
  | .unhashable type => s!"unhashable type: '{type}'"
  | .infiniteRatio => "cannot convert Infinity to integer ratio"
  | .undefinedRatio => "cannot convert NaN to integer ratio"
  | .repetitionTooLarge => "the repetition number is too large"
  | .conflictingClasses => "ASCII and UNICODE flags are incompatible"

end TreeSchema
