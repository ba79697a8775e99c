import TreeSchema.Schema.Options
import TreeSchema.Text.Blank
import TreeSchema.Text.Case

/-!
Settings of the command line, from the variables of the environment and from
those of a settings file, which count where the environment has none. Names are
compared without regard to case.
-/

namespace TreeSchema

structure Settings where
  logLevel : String
  logJson : Bool
  options : Options

namespace Settings

abbrev Variables := List (String × String)

/-- What the names of all variables begin with. -/
def namePrefix : String := "SHAPECHECK_"

def lowerText (s : String) : String :=
  String.ofList (s.toList.map fun c => Char.ofNat (Text.lower c.toNat))

/-- The value of a variable; of two spellings of its name the last counts. -/
def valueOf? (values : Variables) (name : String) : Option String :=
  (values.reverse.find? fun v => lowerText v.1 == lowerText (namePrefix ++ name)).map (·.2)

/-- The value of a setting: the environment comes before the file. -/
def lookup? (environment file : Variables) (name : String) : Option String :=
  (valueOf? environment name).orElse fun _ => valueOf? file name

/-- The settings that are a yes or no. -/
inductive Switch where
  | logJson
  | option (o : OptionName)
  deriving DecidableEq

def Switch.all : List Switch :=
  .logJson :: OptionName.all.map .option

def Switch.name : Switch → String
  | .logJson => "LOG_JSON"
  | .option .noImplicitDefault => "NO_IMPLICIT_DEFAULT"
  | .option .setMissingToDefault => "SET_MISSING_TO_DEFAULT"
  | .option .ignoreNullProperties => "ENABLE_IGNORE_NULL_PROPERTIES"

def defaultLogLevel : String := "WARNING"

/-- The settings of an environment and a settings file. -/
def read (environment file : Variables) : Except OptionsError Settings :=
  let value (s : Switch) : Except EntryError Bool :=
    match lookup? environment file s.name with
    | some text => booleanOfText text
    | none => .ok false
  let errors := Switch.all.filterMap fun s =>
    match value s with
    | .ok _ => none
    | .error e => some (s.name, e)
  if errors.isEmpty then
    let on (s : Switch) : Bool := (value s).toOption.getD false
    .ok
      { logLevel := (lookup? environment file "LOG_LEVEL").getD defaultLogLevel
        logJson := on .logJson
        options := .ofFunction fun o => on (.option o) }
  else .error (.entries errors)

/-- The options of the settings, with those turned on that are named. -/
def optionsWith (s : Settings) (named : List String) : Except OptionsError Options :=
  match named.filter fun name => (OptionName.ofName? name).isNone with
  | [] => .ok (.ofFunction fun o => s.options.get o || named.contains o.name)
  | unknown => .error (.entries (unknown.map fun name => (name, .unknownName)))

/-! The settings file: a variable a line, its value after an equals sign, perhaps quoted. -/

/-- The value without its quotes, or up to a comment. -/
def fileValue (cs : List Char) : List Char :=
  let cs := Text.trimBlanks cs
  match cs with
  | '"' :: rest => rest.takeWhile (· != '"')
  | '\'' :: rest => rest.takeWhile (· != '\'')
  | cs => Text.trimBlanks (beforeComment cs)
where
  /-- What stands before a mark that follows a blank. -/
  beforeComment : List Char → List Char
    | [] => []
    | c :: '#' :: rest => if Text.isBlank c then [] else c :: '#' :: beforeComment rest
    | c :: rest => c :: beforeComment rest

def withoutExport (cs : List Char) : List Char :=
  let word := "export ".toList
  if word.isPrefixOf cs then Text.trimBlanks (cs.drop word.length) else cs

def fileLine? (line : List Char) : Option (String × String) :=
  let cs := withoutExport (Text.trimBlanks line)
  if cs.head? == some '#' || !cs.contains '=' then none
  else
    let name := Text.trimBlanks (cs.takeWhile (· != '='))
    some (String.ofList name, String.ofList (fileValue ((cs.dropWhile (· != '=')).drop 1)))

/-- The variables of a settings file. -/
def ofFile (text : String) : Variables :=
  (text.splitOn "\n").filterMap fun line => fileLine? line.toList

end Settings

end TreeSchema
