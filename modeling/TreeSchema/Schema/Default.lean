import TreeSchema.Pattern.Search
import TreeSchema.Schema.Keyword
import TreeSchema.Schema.Options

/-!
Default values for members that an object lacks. The schema that governs a key
is the one declared for it, else that of the first pattern that finds the key
and has a schema, else the one for additional members.
-/

namespace TreeSchema

def schemaOfProperties (schema : Members) (key : String) : Option Members :=
  match schema.get? "properties" with
  | some (.object properties) =>
    match Members.get? properties key with
    | some (.object s) => some s
    | _ => none
  | _ => none

/-- The schema of the first pattern that finds `key` and has one; patterns that cannot be read
find nothing. -/
def schemaAmongPatterns (key : String) : Members → Except Failure (Option Members)
  | [] => .ok none
  | (pattern, t) :: rest =>
    match Pattern.compile pattern "" with
    | .error cause => .error cause
    | .ok (.error _) => schemaAmongPatterns key rest
    | .ok (.ok regex) =>
      match t with
      | .object s => if regex.finds key then .ok (some s) else schemaAmongPatterns key rest
      | _ => schemaAmongPatterns key rest

def schemaOfPatterns (schema : Members) (key : String) : Except Failure (Option Members) :=
  match schema.get? "patternProperties" with
  | some (.object patterns) => schemaAmongPatterns key patterns
  | _ => .ok none

def schemaOfAdditional (schema : Members) : Option Members :=
  match (schema.get? "additionalProperties").bind Additional.ofTree? with
  | some (.schema s) => some s
  | _ => none

/-- The schema that governs a key of an object. -/
def propertySchema (schema : Members) (key : String) : Except Failure (Option Members) :=
  match schemaOfProperties schema key with
  | some s => .ok (some s)
  | none => do
    match ← schemaOfPatterns schema key with
    | some s => return some s
    | none => return schemaOfAdditional schema

/-- The value that stands for a type when a schema gives no default. -/
def TypeName.implicitDefault : TypeName → Tree
  | .null => .null
  | .boolean => .bool true
  | .integer => .number (.int 0)
  | .number => .number (.int 0)
  | .string => .string ""
  | .object => .object []
  | .array => .array []

/-- The value for a missing member: the default of its schema, else that of its first type. -/
def defaultFor (s : Members) (options : Options) : Option Tree :=
  match s.get? "default" with
  | some t => some t
  | none =>
    if options.noImplicitDefault then none
    else
      match declaredTypes s with
      | .ok (t :: _) => some t.implicitDefault
      | _ => none

/-- The object with a default under a key, if there is a default for the key. -/
def withDefault? (members schema : Members) (key : String) (options : Options) :
    Except Failure (Option Members) := do
  match ← propertySchema schema key with
  | none => return none
  | some s => return (defaultFor s options).map (members.put key)

/-- What is written under a key is the default of the schema that governs it. -/
theorem exists_of_withDefault? {members schema filled : Members} {key : String} {options : Options}
    (h : withDefault? members schema key options = .ok (some filled)) :
    ∃ s t, propertySchema schema key = .ok (some s) ∧ defaultFor s options = some t ∧
      filled = members.put key t := by
  unfold withDefault? at h
  match governs : propertySchema schema key with
  | .error cause => rw [governs] at h; cases h
  | .ok none => rw [governs] at h; cases h
  | .ok (some s) =>
    rw [governs] at h
    cases default : defaultFor s options with
    | none => simp [bind, Except.bind, pure, Except.pure, default] at h
    | some t =>
      simp only [bind, Except.bind, pure, Except.pure, default, Option.map_some, Except.ok.injEq,
        Option.some.injEq] at h
      exact ⟨s, t, rfl, default, h.symm⟩

/-- A default is written under its key. -/
theorem eq_put_of_withDefault? {members schema filled : Members} {key : String} {options : Options}
    (h : withDefault? members schema key options = .ok (some filled)) :
    ∃ t, filled = members.put key t := by
  obtain ⟨-, t, -, -, eq⟩ := exists_of_withDefault? h
  exact ⟨t, eq⟩

end TreeSchema
