import TreeSchema.Tree.Shown

/-!
Options of a run, and how they are given: as an object of yes or no values
under the names of the options, or as what can be read as one. A value is a
yes or no when it is a boolean, a number that is zero or one, or one of the
spellings of a boolean in any case.
-/

namespace TreeSchema

structure Options where
  noImplicitDefault : Bool
  setMissingToDefault : Bool
  ignoreNullProperties : Bool
  deriving DecidableEq

/-- All options off. -/
def Options.default : Options :=
  ⟨false, false, false⟩

/-! Yes or no values -/

/-- What is wrong with an entry of the options. -/
inductive EntryError | booleanExpected | notABoolean | unknownName | nameExpected
  deriving DecidableEq

def EntryError.label : EntryError → String
  | .booleanExpected => "bool_type"
  | .notABoolean => "bool_parsing"
  | .unknownName => "extra_forbidden"
  | .nameExpected => "invalid_key"

def yesSpellings : List String := ["1", "on", "t", "true", "y", "yes"]
def noSpellings : List String := ["0", "off", "f", "false", "n", "no"]

def booleanOfText (s : String) : Except EntryError Bool :=
  let spelling := String.ofList (s.toList.map Char.toLower)
  if yesSpellings.contains spelling then .ok true
  else if noSpellings.contains spelling then .ok false
  else .error .notABoolean

def booleanOfNumber (n : Number) (otherwise : EntryError) : Except EntryError Bool :=
  if n.isZero then .ok false
  else if n.equal (.int 1) then .ok true
  else .error otherwise

def booleanOf : Tree → Except EntryError Bool
  | .bool b => .ok b
  | .string s => booleanOfText s
  | .number (.int n) => booleanOfNumber (.int n) .notABoolean
  | .number (.double x) => booleanOfNumber (.double x) .booleanExpected
  | _ => .error .booleanExpected

/-! Reading options -/

/-- The names under which options are given. -/
inductive OptionName | noImplicitDefault | setMissingToDefault | ignoreNullProperties
  deriving DecidableEq

namespace OptionName

def all : List OptionName :=
  [.noImplicitDefault, .setMissingToDefault, .ignoreNullProperties]

def name : OptionName → String
  | .noImplicitDefault => "no_implicit_default"
  | .setMissingToDefault => "set_missing_to_default"
  | .ignoreNullProperties => "enable_ignore_null_properties"

def ofName? (s : String) : Option OptionName :=
  all.find? (·.name == s)

end OptionName

def Options.get (o : Options) : OptionName → Bool
  | .noImplicitDefault => o.noImplicitDefault
  | .setMissingToDefault => o.setMissingToDefault
  | .ignoreNullProperties => o.ignoreNullProperties

def Options.ofFunction (f : OptionName → Bool) : Options :=
  ⟨f .noImplicitDefault, f .setMissingToDefault, f .ignoreNullProperties⟩

/-- Why options are refused. -/
inductive OptionsError where
  | notIterable (type : String)
  | elementNotASequence (index : Nat)
  | elementLength (index length : Nat)
  | unhashable (type : String)
  | entries (errors : List (String × EntryError))
  | unwritable (cause : Failure)
  deriving DecidableEq

namespace OptionsError

def entriesMessage (errors : List (String × EntryError)) : String :=
  "; ".intercalate (errors.map fun (name, e) => s!"{name}: {e.label}")

def message : OptionsError → String
  | .notIterable type => s!"'{type}' object is not iterable"
  | .elementNotASequence index =>
    s!"cannot convert dictionary update sequence element #{index} to a sequence"
  | .elementLength index length =>
    s!"dictionary update sequence element #{index} has length {length}; 2 is required"
  | .unhashable type => (Failure.unhashable type).message
  | .entries errors => entriesMessage errors
  | .unwritable cause => cause.message

end OptionsError

/-- The parts of a value that is a sequence; an object is one of its keys. -/
def Tree.parts? : Tree → Option (List Tree)
  | .string s => some (s.toList.map fun c => .string (String.ofList [c]))
  | .array items => some items
  | .object members => some (members.map fun m => .string m.1)
  | _ => none

/-- The key and value of a pair. -/
def pairOf (index : Nat) (element : Tree) : Except OptionsError (Tree × Tree) :=
  match element.parts? with
  | none => .error (.elementNotASequence index)
  | some [key, value] =>
    match key with
    | .array _ => .error (.unhashable key.typeName)
    | .object _ => .error (.unhashable key.typeName)
    | key => .ok (key, value)
  | some parts => .error (.elementLength index parts.length)

def pairsFrom : Nat → List Tree → Except OptionsError (List (Tree × Tree))
  | _, [] => .ok []
  | index, element :: rest => do
    let pair ← pairOf index element
    return pair :: (← pairsFrom (index + 1) rest)

/-- Whether two keys are the same key: a boolean is the same as the number it counts as. -/
def sameKey (a b : Tree) : Bool :=
  let asNumber : Tree → Tree
    | .bool b => .number (.int (if b then 1 else 0))
    | t => t
  match asNumber a, asNumber b with
  | .null, .null => true
  | .string s, .string t => s == t
  | .number x, .number y => x.equal y
  | _, _ => false

/-- The entries that pairs make, a later value replacing an earlier one in its place. -/
def putEntry (key value : Tree) : List (Tree × Tree) → List (Tree × Tree)
  | [] => [(key, value)]
  | (k, old) :: rest =>
    if sameKey k key then (k, value) :: rest else (k, old) :: putEntry key value rest

def entriesOfPairs (pairs : List (Tree × Tree)) : List (Tree × Tree) :=
  pairs.foldl (fun entries (key, value) => putEntry key value entries) []

/-- The entries of options, however they are given. -/
def optionEntries (t : Tree) : Except OptionsError (List (Tree × Tree)) :=
  match t with
  | .null => .ok []
  | .object members => .ok (members.map fun (key, value) => (.string key, value))
  | t =>
    match t.parts? with
    | some parts => (pairsFrom 0 parts).map entriesOfPairs
    | none => .error (.notIterable t.typeName)

/-- The error on an entry that no option has. -/
def strayEntry (key : Tree) : Option (Except OptionsError (String × EntryError)) :=
  match key with
  | .string name =>
    if (OptionName.ofName? name).isSome then none else some (.ok (name, .unknownName))
  | .bool b => some (.ok ((if b then "1" else "0"), .nameExpected))
  | key =>
    match key.shown with
    | .ok text => some (.ok (text, .nameExpected))
    | .error cause => some (.error (.unwritable cause))

def entryNamed (entries : List (Tree × Tree)) (name : String) : Option Tree :=
  (entries.find? fun (key, _) => sameKey key (.string name)).map (·.2)

/-- The options of a tree: an option that is not given is off. Errors come in the order of the
options first, then for the entries that are none. -/
def Options.ofTree (t : Tree) : Except OptionsError Options := do
  let entries ← optionEntries t
  let value (name : OptionName) : Except EntryError Bool :=
    match entryNamed entries name.name with
    | some v => booleanOf v
    | none => .ok false
  let known := OptionName.all.filterMap fun name =>
    match value name with
    | .ok _ => none
    | .error e => some (name.name, e)
  let stray ← (entries.filterMap fun (key, _) => strayEntry key).mapM id
  if (known ++ stray).isEmpty then
    return Options.ofFunction fun name => (value name).toOption.getD false
  else throw (.entries (known ++ stray))

end TreeSchema
