import TreeSchema.CommandLine.Arguments
import TreeSchema.CommandLine.Document
import TreeSchema.Json.Printer
import TreeSchema.Log
import TreeSchema.Validator

/-!
The command line: checks a document against the schema in another one, and
prints the findings, the converted document or a report. Everything that a call
depends on is given to it: the environment, the settings file and the files.
-/

namespace TreeSchema.CommandLine

structure Context where
  environment : Settings.Variables
  settingsFile : Option String
  files : Files

/-- What a call leaves behind. -/
structure Completion where
  exit : Nat
  output : String
  errors : String
  settings : Settings
  events : List Log.Event

/-- Why a call has no completion: it ended at its arguments or settings, or it failed. -/
inductive Abort where
  | usage (e : UsageExit)
  | settings (e : OptionsError)
  | failure (cause : Failure)

def exitValid : Nat := 0
def exitInvalid : Nat := 1
def exitError : Nat := 2

/-- The layout of reports and documents. -/
def documentLayout : Json.Layout :=
  { indent := some 2, asciiOnly := false }

/-- The layout of the report on a fault. -/
def faultLayout : Json.Layout :=
  { indent := some 2, asciiOnly := true }

def line (s : String) : String :=
  s ++ "\n"

def printed (layout : Json.Layout) (t : Tree) : Except Abort String :=
  match Json.text layout t with
  | .ok text => .ok (line text)
  | .error cause => .error (.failure cause)

/-- The options that the arguments turn on. -/
def optionNames (a : Arguments) : List String :=
  let pairs : List (Flag × OptionName) :=
    [(.noImplicitDefault, .noImplicitDefault), (.setMissingToDefault, .setMissingToDefault),
      (.ignoreNullProperties, .ignoreNullProperties)]
  (pairs.filter fun pair => a.has pair.1).map (·.2.name)

/-- The members of a report on an outcome. -/
def reportTree (o : Outcome) : Tree :=
  .object (o.members ++ (o.value?.map fun t => [("value", t)]).getD [])

/-- What is printed on an outcome. -/
def outcomeText (a : Arguments) (o : Outcome) : Except Abort String :=
  if a.has .json then printed documentLayout (reportTree o)
  else if !o.isValid then .ok (String.join (o.lines.map line))
  else
    match o.value? with
    | some t => printed documentLayout t
    | none => .ok (line "valid")

/-- The end of a call with a malformed schema. -/
def faultCompletion (a : Arguments) (settings : Settings) (f : Fault) : Except Abort Completion :=
  if a.has .json then do
    let text ← printed faultLayout (.object [("valid", .null), ("fault", f.toTree)])
    return { exit := exitError, output := text, errors := "", settings, events := [.faultFound f] }
  else
    .ok
      { exit := exitError
        output := ""
        errors := line ("schema error at " ++ f.line)
        settings
        events := [.faultFound f] }

def outcomeCompletion (a : Arguments) (settings : Settings) (o : Outcome) :
    Except Abort Completion := do
  return {
    exit := if o.isValid then exitValid else exitInvalid
    output := ← outcomeText a o
    errors := ""
    settings
    events := [.validationCompleted o, .runCompleted a.schema.text a.data.text o.isValid] }

/-- The end of a call with a document that cannot be loaded. -/
def loadCompletion (settings : Settings) (error : String) : Completion :=
  { exit := exitError
    output := ""
    errors := line ("error: " ++ error)
    settings
    events := [.documentLoadFailed error] }

/-- Checks the document against the schema as the arguments and settings say. -/
def check (a : Arguments) (settings : Settings) (schema data : Tree) : Except Abort Completion :=
  match settings.optionsWith (optionNames a) with
  | .error e => .error (.settings e)
  | .ok options =>
    let v : Validator := { schema, options, cap := none }
    let mode := if a.has .failFast then Mode.failFast else Mode.collectAll
    match v.outcome (a.has .coerce) data mode with
    | .ok o => outcomeCompletion a settings o
    | .error (.fault f) => faultCompletion a settings f
    | .error (.failure cause) => .error (.failure cause)

/-- Both documents; the schema is loaded first. -/
def loadBoth (files : Files) (a : Arguments) : Except String (Tree × Tree) := do
  let schema ← loadDocument files a.schema
  return (schema, ← loadDocument files a.data)

def settingsOf (c : Context) : Except Abort Settings :=
  match Settings.read c.environment ((c.settingsFile.map Settings.ofFile).getD []) with
  | .ok settings => .ok settings
  | .error e => .error (.settings e)

/-- A call with its arguments read. -/
def runWith (c : Context) (a : Arguments) : Except Abort Completion := do
  let settings ← settingsOf c
  match loadBoth c.files a with
  | .ok (schema, data) => check a settings schema data
  | .error message => return loadCompletion settings message

/-- A call. -/
def run (c : Context) (argv : List String) : Except Abort Completion :=
  match Arguments.read argv with
  | .ok a => runWith c a
  | .error e => .error (.usage e)

end TreeSchema.CommandLine
