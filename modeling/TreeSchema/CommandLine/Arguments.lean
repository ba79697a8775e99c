import TreeSchema.CommandLine.Path

/-!
Arguments of the command line: the two documents, and options, which may be
shortened as long as one option alone is meant, and may stand anywhere. Two
dashes end the options.
-/

namespace TreeSchema.CommandLine

inductive Flag where
  | help
  | coerce
  | failFast
  | noImplicitDefault
  | setMissingToDefault
  | ignoreNullProperties
  | json
  deriving DecidableEq

/-- How the options are written; help has a short form too. -/
def Flag.names : List (String × Flag) :=
  [("-h", .help), ("--help", .help), ("--coerce", .coerce), ("--fail-fast", .failFast),
    ("--no-implicit-default", .noImplicitDefault),
    ("--set-missing-to-default", .setMissingToDefault),
    ("--ignore-null-properties", .ignoreNullProperties), ("--json", .json)]

structure Arguments where
  schema : Path
  data : Path
  flags : List Flag

/-- What ends the program before it has begun. -/
inductive UsageExit | helpShown | wrongUsage
  deriving DecidableEq

def UsageExit.code : UsageExit → Nat
  | .helpShown => 0
  | .wrongUsage => 2

/-- What a single argument is, before its place is looked at. -/
inductive Word where
  | positional (s : String)
  | flag (f : Flag) (name : String) (value : Option String)
  | unknown
  | separator
  deriving DecidableEq

namespace Word

/-- An argument at its equals sign. -/
def splitValue (s : String) : String × Option String :=
  match s.splitOn "=" with
  | name :: second :: rest => (name, some ("=".intercalate (second :: rest)))
  | _ => (s, none)

/-- The options that an argument may mean, with the value it gives them. -/
def candidates (s : String) : List Word :=
  if s.startsWith "--" then
    let (name, value) := splitValue s
    (Flag.names.filter fun f => f.1.startsWith name).map fun f => .flag f.2 f.1 value
  else
    let short := String.ofList (s.toList.take 2)
    Flag.names.filterMap fun f =>
      if f.1 == short then some (.flag f.2 f.1 (some (String.ofList (s.toList.drop 2))))
      else if f.1.startsWith s then some (.flag f.2 f.1 none)
      else none

def isDigits (cs : List Char) : Bool :=
  !cs.isEmpty && cs.all fun c => '0' ≤ c && c ≤ '9'

/-- A dash with an integer or a decimal fraction, which is no option. -/
def isNegativeNumber (s : String) : Bool :=
  match s.toList with
  | '-' :: cs =>
    let whole := cs.takeWhile (· != '.')
    match cs.dropWhile (· != '.') with
    | [] => isDigits whole
    | _ :: fraction => (whole.isEmpty || isDigits whole) && isDigits fraction
  | _ => false

/-- An argument on its own. More than one option that it may mean is wrong usage. -/
def ofText (s : String) : Except UsageExit Word :=
  if !s.startsWith "-" || s == "-" then .ok (.positional s)
  else
    match Flag.names.lookup s with
    | some f => .ok (.flag f s none)
    | none =>
      let (name, value) := splitValue s
      match Flag.names.lookup name, value with
      | some f, some value => .ok (.flag f name (some value))
      | _, _ =>
        match candidates s with
        | [w] => .ok w
        | _ :: _ => .error .wrongUsage
        | [] =>
          if isNegativeNumber s || s.contains ' ' then .ok (.positional s) else .ok .unknown

/-- The arguments; after the separator there are no more options. -/
def ofTexts : List String → Except UsageExit (List Word)
  | [] => .ok []
  | s :: rest =>
    if s == "--" then .ok (.separator :: rest.map .positional)
    else do
      let w ← ofText s
      return w :: (← ofTexts rest)

end Word

namespace Arguments

/-- What has been read: the documents, the flags, and whether something was too much. -/
structure Reading where
  paths : List String
  flags : List Flag
  excess : Bool

/-- An option with a value; only a chain of help options in their short form stands for some. -/
def readValue (f : Flag) (name value : String) : Except UsageExit Flag :=
  if name == "-h" && !value.isEmpty && value.toList.all (· == 'h') then .ok f
  else .error .wrongUsage

def addFlag (r : Reading) (f : Flag) : Except UsageExit Reading :=
  if f = .help then .error .helpShown else .ok { r with flags := f :: r.flags }

/-- Takes the words in order; `taken` says whether the word before was taken as a document. -/
def readWords (r : Reading) (taken : Bool) : List Word → Except UsageExit Reading
  | [] => .ok r
  | .positional s :: rest =>
    if r.paths.length < 2 then readWords { r with paths := r.paths ++ [s] } true rest
    else readWords { r with excess := true } false rest
  | .flag f name value :: rest => do
    let f ← (match value with
      | none => .ok f
      | some value => readValue f name value)
    readWords (← addFlag r f) false rest
  | .unknown :: rest => readWords { r with excess := true } false rest
  | .separator :: rest =>
    let alone := rest.isEmpty && !taken
    readWords { r with excess := r.excess || alone } false rest

/-- The arguments of a call. -/
def read (argv : List String) : Except UsageExit Arguments := do
  let r ← readWords ⟨[], [], false⟩ false (← Word.ofTexts argv)
  match r.paths, r.excess with
  | [schema, data], false => return ⟨.ofText schema, .ofText data, r.flags⟩
  | _, _ => throw .wrongUsage

def has (a : Arguments) (f : Flag) : Bool :=
  a.flags.contains f

end Arguments

end TreeSchema.CommandLine
