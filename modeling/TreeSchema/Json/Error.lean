import TreeSchema.Failure

/-!
What can be wrong with a JSON text, and where. Positions count characters from
zero; lines and columns, which messages give as well, count from one.
-/

namespace TreeSchema.Json

inductive Cause where
  | byteOrderMark
  | valueExpected
  | nameExpected
  | colonExpected
  | commaExpected
  | controlCharacter
  | unterminatedString
  | badEscape
  | badCodeEscape
  | extraData
  deriving DecidableEq

def Cause.text : Cause → String
  | .byteOrderMark => "Unexpected UTF-8 BOM (decode using utf-8-sig)"
  | .valueExpected => "Expecting value"
  | .nameExpected => "Expecting property name enclosed in double quotes"
  | .colonExpected => "Expecting ':' delimiter"
  | .commaExpected => "Expecting ',' delimiter"
  | .controlCharacter => "Invalid control character at"
  | .unterminatedString => "Unterminated string starting at"
  | .badEscape => "Invalid \\escape"
  | .badCodeEscape => "Invalid \\uXXXX escape"
  | .extraData => "Extra data"

/-- Why a text is not read: it is malformed somewhere, or reading it failed. -/
inductive Unread where
  | malformed (cause : Cause) (position : Nat)
  | failed (cause : Failure)
  deriving DecidableEq

/-- The error in words, for the text that was read. -/
def Unread.message (text : List Char) : Unread → String
  | .malformed cause position =>
    let before := text.take position
    let line := before.count '\n' + 1
    let column := (before.reverse.takeWhile (· != '\n')).length + 1
    s!"{cause.text}: line {line} column {column} (char {position})"
  | .failed cause => cause.message

end TreeSchema.Json
