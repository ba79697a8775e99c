import TreeSchema.Pattern.Reader

/-!
Patterns as schemas give them: a text and letters for its flags. The letters
are looked up first; the one for all scripts is known and changes nothing.
-/

namespace TreeSchema.Pattern

/-- The flags that have a letter in schemas. -/
def Flag.ofLetter? : Char → Option Flag
  | 'i' => some .ignoreCase
  | 'm' => some .multiline
  | 's' => some .dotAll
  | 'x' => some .verbose
  | 'u' => some .unicode
  | _ => none

/-- Why there is no pattern. -/
inductive Rejection where
  | unknownFlag (letter : Char)
  | invalid (pattern : String) (e : PatternError)
  deriving DecidableEq

def Rejection.message : Rejection → String
  | .unknownFlag letter => s!"Unknown pattern flag: {letter}"
  | .invalid pattern e => "Invalid pattern " ++ Text.quoted pattern ++ ": " ++ e.text pattern

def flagsOfLetters : List Char → Except Rejection (List Flag)
  | [] => .ok []
  | letter :: rest =>
    match Flag.ofLetter? letter with
    | some flag => (flagsOfLetters rest).map (flag :: ·)
    | none => .error (.unknownFlag letter)

/-- The pattern of a text and flag letters, unless there is none or reading it fails. -/
def compile (pattern letters : String) : Except Failure (Except Rejection Regex) :=
  match flagsOfLetters letters.toList with
  | .error r => .ok (.error r)
  | .ok flags =>
    match read pattern flags with
    | .ok regex => .ok (.ok regex)
    | .error (.invalid e) => .ok (.error (.invalid pattern e))
    | .error (.failed cause) => .error cause

end TreeSchema.Pattern
