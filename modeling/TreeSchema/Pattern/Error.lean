import TreeSchema.Failure
import TreeSchema.Text.Quoted

/-!
What can be wrong with a pattern. A cause with a position in the pattern is
told with it, and with line and column when the pattern has several lines.
-/

namespace TreeSchema.Pattern

/-- What was expected where the text inside a group's opening ends or goes wrong. -/
inductive Missing | flagsEnd | flag | colon
  deriving DecidableEq

inductive Cause where
  | escapeAtEnd
  | incompleteEscape (escape : String)
  | badEscape (escape : String)
  | octalTooLarge (escape : String)
  | missingBrace
  | missingName (what : String)
  | unterminatedName (terminator : Char)
  | undefinedCharacter (name : String)
  | openGroupReference
  | sameLookbehindReference
  | invalidReference (group : Nat)
  | unterminatedSet
  | badRange (first last : String)
  | leastAboveMost
  | nothingToRepeat
  | multipleRepeat
  | unexpectedEnd
  | badGroupName (name : String)
  | unknownGroupName (name : String)
  | groupNameTaken (name : String) (group earlier : Nat)
  | unknownExtension (text : String)
  | unterminatedComment
  | unterminatedGroup
  | badGroupNumber
  | tooManyBranches
  | lateGlobalFlags
  | localeFlag
  | incompatibleFlags
  | missing (what : Missing)
  | unknownFlag
  | globalFlagOn
  | typeFlagOff
  | globalFlagOff
  | flagOnAndOff
  | unbalanced
  | farLookbehind
  | variableLookbehind
  | templateRepeat (name : String)
  deriving DecidableEq

def Missing.text : Missing → String
  | .flagsEnd => "missing -, : or )"
  | .flag => "missing flag"
  | .colon => "missing :"

def Cause.text : Cause → String
  | .escapeAtEnd => "bad escape (end of pattern)"
  | .incompleteEscape escape => s!"incomplete escape {escape}"
  | .badEscape escape => s!"bad escape {escape}"
  | .octalTooLarge escape => s!"octal escape value {escape} outside of range 0-0o377"
  | .missingBrace => "missing \x7b"
  | .missingName what => s!"missing {what}"
  | .unterminatedName terminator => s!"missing {terminator}, unterminated name"
  | .undefinedCharacter name => "undefined character name " ++ Text.quoted name
  | .openGroupReference => "cannot refer to an open group"
  | .sameLookbehindReference => "cannot refer to group defined in the same lookbehind subpattern"
  | .invalidReference group => s!"invalid group reference {group}"
  | .unterminatedSet => "unterminated character set"
  | .badRange first last => s!"bad character range {first}-{last}"
  | .leastAboveMost => "min repeat greater than max repeat"
  | .nothingToRepeat => "nothing to repeat"
  | .multipleRepeat => "multiple repeat"
  | .unexpectedEnd => "unexpected end of pattern"
  | .badGroupName name => "bad character in group name " ++ Text.quoted name
  | .unknownGroupName name => "unknown group name " ++ Text.quoted name
  | .groupNameTaken name group earlier =>
    "redefinition of group name " ++ Text.quoted name ++
      s!" as group {group}; was group {earlier}"
  | .unknownExtension text => s!"unknown extension ?{text}"
  | .unterminatedComment => "missing ), unterminated comment"
  | .unterminatedGroup => "missing ), unterminated subpattern"
  | .badGroupNumber => "bad group number"
  | .tooManyBranches => "conditional backref with more than two branches"
  | .lateGlobalFlags => "global flags not at the start of the expression"
  | .localeFlag => "bad inline flags: cannot use 'L' flag with a str pattern"
  | .incompatibleFlags => "bad inline flags: flags 'a', 'u' and 'L' are incompatible"
  | .missing what => what.text
  | .unknownFlag => "unknown flag"
  | .globalFlagOn => "bad inline flags: cannot turn on global flag"
  | .typeFlagOff => "bad inline flags: cannot turn off flags 'a', 'u' and 'L'"
  | .globalFlagOff => "bad inline flags: cannot turn off global flag"
  | .flagOnAndOff => "bad inline flags: flag turned on and off"
  | .unbalanced => "unbalanced parenthesis"
  | .farLookbehind => "looks too much behind"
  | .variableLookbehind => "look-behind requires fixed-width pattern"
  | .templateRepeat name => s!"internal: unsupported template operator {name}"

structure PatternError where
  cause : Cause
  position : Option Nat
  deriving DecidableEq

/-- The line and column of a position, both counted from one. -/
def lineColumn (cs : List Char) (position : Nat) : Nat × Nat :=
  let before := cs.take position
  (before.count '\n' + 1, (before.reverse.takeWhile (· != '\n')).length + 1)

/-- The text of an error in `pattern`. -/
def PatternError.text (pattern : String) (e : PatternError) : String :=
  match e.position with
  | none => e.cause.text
  | some position =>
    let located := e.cause.text ++ s!" at position {position}"
    let cs := pattern.toList
    if cs.contains '\n' then
      let (line, column) := lineColumn cs position
      located ++ s!" (line {line}, column {column})"
    else located

/-- Why a pattern is not read: it is no pattern, or reading it failed. -/
inductive Unread where
  | invalid (e : PatternError)
  | failed (cause : Failure)

end TreeSchema.Pattern
