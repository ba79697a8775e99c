import TreeSchema.Run.Node
import TreeSchema.Schema.Default

/-!
Stages for objects: required keys, declared members, members found by patterns,
the members beyond those, dependencies, and the number of members. A coercing
run fills in defaults and removes what is forbidden.
-/

namespace TreeSchema

namespace Tree

def members : Tree → Members
  | .object members => members
  | _ => []

def putMember (node : Tree) (key : String) (t : Tree) : Tree :=
  match node with
  | .object members => .object (Members.put members key t)
  | node => node

@[simp] theorem members_object (members : Members) : (Tree.object members).members = members := rfl

theorem eq_object_of_get? {node t : Tree} {key : String} (h : node.members.get? key = some t) :
    node = .object node.members := by
  cases node with
  | object members => rfl
  | _ => cases h

theorem putMember_of_get? {node t : Tree} {key : String} (h : node.members.get? key = some t) :
    node.putMember key t = node := by
  cases node with
  | object members => exact congrArg object (Members.put_of_get? h)
  | _ => cases h

end Tree

namespace Stage

/-- Checks the member under a key, if it is there, against a schema. -/
def visitMember (visit : Visit) (config : Config) (schema : Tree) (path : Pointer) (key : String) :
    Stage := fun p =>
  match p.node.members.get? key with
  | none => skip p
  | some t => join config (visit config t schema) (p.node.putMember key) (.key key) path p

theorem visitMember_of_none {visit : Visit} {config : Config} {key : String} {p : Progress}
    (h : p.node.members.get? key = none) (schema : Tree) (path : Pointer) :
    visitMember visit config schema path key p = skip p := by
  simp [visitMember, h]

theorem visitMember_of_some {visit : Visit} {config : Config} {key : String} {p : Progress}
    {t : Tree} (h : p.node.members.get? key = some t) (schema : Tree) (path : Pointer) :
    visitMember visit config schema path key p =
      join config (visit config t schema) (p.node.putMember key) (.key key) path p := by
  simp [visitMember, h]

/-- Gives a key a default and goes on, or rejects the node when there is none. -/
def fillIn (config : Config) (schema : Members) (key : String) (v : Violation) : Stage := fun p =>
  reading (Interruption.ofFailure (withDefault? p.node.members schema key config.options)) (fun
    | some members => replace (.object members)
    | none => reject config v) p

section

variable {config : Config} {schema : Members} {key : String} {v : Violation} {p : Progress}

theorem fillIn_of_failure {cause : Failure}
    (h : withDefault? p.node.members schema key config.options = .error cause) :
    fillIn config schema key v p = interrupt (.failure cause) p := by
  simp [fillIn, h, Interruption.ofFailure]

theorem fillIn_of_none (h : withDefault? p.node.members schema key config.options = .ok none) :
    fillIn config schema key v p = reject config v p := by
  simp [fillIn, h, Interruption.ofFailure]

theorem fillIn_of_some {members : Members}
    (h : withDefault? p.node.members schema key config.options = .ok (some members)) :
    fillIn config schema key v p = replace (.object members) p := by
  simp [fillIn, h, Interruption.ofFailure]

end

/-! Required keys -/

def requireKey (config : Config) (schema : Members) (index : Nat) (key : String) : Stage := fun p =>
  if p.node.members.has key then skip p
  else if config.coercing then fillIn config schema key (.requiredMissing index key) p
  else reject config (.requiredMissing index key) p

section

variable {config : Config} {key : String} {p : Progress}

theorem requireKey_of_has (h : p.node.members.has key = true) (schema : Members) (index : Nat) :
    requireKey config schema index key p = skip p :=
  if_pos h

theorem requireKey_of_coercing (h : p.node.members.has key ≠ true)
    (coercing : config.coercing = true) (schema : Members) (index : Nat) :
    requireKey config schema index key p =
      fillIn config schema key (.requiredMissing index key) p :=
  (if_neg h).trans (if_pos coercing)

theorem requireKey_of_plain (h : p.node.members.has key ≠ true) (plain : config.coercing ≠ true)
    (schema : Members) (index : Nat) :
    requireKey config schema index key p = reject config (.requiredMissing index key) p :=
  (if_neg h).trans (if_neg plain)

end

def checkRequired (config : Config) (schema : Members) : Stage :=
  match schema.get? "required" with
  | none => skip
  | some (.array items) =>
    match Tree.strings? items with
    | some keys => sequence (keys.mapIdx (requireKey config schema))
    | none => malformed (.key "required") .required
  | some _ => malformed (.key "required") .required

/-! Declared members -/

/-- Whether a schema of a member says itself what its default is. -/
def hasDefault : Tree → Bool
  | .object s => Members.has s "default"
  | _ => false

def fillDeclared (config : Config) (schema : Members) (key : String) (s : Tree) : Stage := fun p =>
  if !p.node.members.has key && config.coercing && config.options.setMissingToDefault &&
      hasDefault s then
    fillIn config schema key (.noDefault key) p
  else skip p

section

variable {config : Config} {key : String} {s : Tree} {p : Progress}

theorem fillDeclared_of_missing (h : (!p.node.members.has key && config.coercing &&
    config.options.setMissingToDefault && hasDefault s) = true) (schema : Members) :
    fillDeclared config schema key s p = fillIn config schema key (.noDefault key) p :=
  if_pos h

theorem fillDeclared_of_not_missing (h : ¬ (!p.node.members.has key && config.coercing &&
    config.options.setMissingToDefault && hasDefault s) = true) (schema : Members) :
    fillDeclared config schema key s p = skip p :=
  if_neg h

end

def checkProperty (visit : Visit) (config : Config) (schema : Members) (property : String × Tree) :
    Stage :=
  sequence
    [fillDeclared config schema property.1 property.2,
      visitMember visit config property.2 (.entry "properties" (.key property.1)) property.1]

def checkProperties (visit : Visit) (config : Config) (schema : Members) : Stage :=
  match schema.get? "properties" with
  | none => skip
  | some (.object properties) => sequence (properties.map (checkProperty visit config schema))
  | some _ => malformed (.key "properties") (.objectExpected "properties")

/-! Members found by patterns -/

def readPattern (path : Pointer) (pattern : String) : Except Interruption Pattern.Regex := do
  match ← Interruption.ofFailure (Pattern.compile pattern "") with
  | .ok regex => return regex
  | .error r => Interruption.malformed path (.pattern r)

theorem readPattern_eq_ok_iff {path : Pointer} {pattern : String} {regex : Pattern.Regex} :
    readPattern path pattern = .ok regex ↔ Pattern.compile pattern "" = .ok (.ok regex) := by
  match compiled : Pattern.compile pattern "" with
  | .error cause => simp [readPattern, compiled, Interruption.ofFailure, bind, Except.bind]
  | .ok (.error r) =>
    simp [readPattern, compiled, Interruption.ofFailure, Interruption.malformed, bind, Except.bind]
  | .ok (.ok regex) =>
    simp [readPattern, compiled, Interruption.ofFailure, bind, Except.bind, pure, Except.pure]

def checkFound (visit : Visit) (config : Config) (s : Tree) (path : Pointer)
    (regex : Pattern.Regex) : Stage := fun p =>
  sequence ((p.node.members.keys.filter regex.finds).map (visitMember visit config s path)) p

def checkPattern (visit : Visit) (config : Config) (entry : String × Tree) : Stage :=
  let path := Pointer.entry "patternProperties" (.key entry.1)
  reading (readPattern path entry.1) (checkFound visit config entry.2 path)

def checkPatterns (visit : Visit) (config : Config) (schema : Members) : Stage :=
  match schema.get? "patternProperties" with
  | none => skip
  | some (.object patterns) => sequence (patterns.map (checkPattern visit config))
  | some _ => malformed (.key "patternProperties") (.objectExpected "patternProperties")

/-! Members beyond those -/

/-- The patterns of a schema that can be read. -/
def regexes (schema : Members) : List Pattern.Regex :=
  ((schema.get? "patternProperties").map Tree.members).getD [] |>.filterMap fun (pattern, _) =>
    match Pattern.compile pattern "" with
    | .ok (.ok regex) => some regex
    | _ => none

/-- The keys of an object that are neither declared nor found by a pattern. -/
def extraKeys (schema members : Members) : List String :=
  let declared := ((schema.get? "properties").map Tree.members).getD []
  let found := regexes schema
  members.keys.filter fun key => !declared.has key && !found.any (·.finds key)

def checkExtra (visit : Visit) (config : Config) (policy : Additional) (key : String) : Stage :=
  match policy with
  | .any => skip
  | .schema s => visitMember visit config (.object s) (.key "additionalProperties") key
  | .forbidden => fun p =>
    if config.coercing then replace (.object (p.node.members.erase key)) p
    else reject config (.additionalProperty key) p

section

variable {visit : Visit} {config : Config} {key : String} {p : Progress}

theorem checkExtra_of_coercing (coercing : config.coercing = true) :
    checkExtra visit config .forbidden key p = replace (.object (p.node.members.erase key)) p :=
  if_pos coercing

theorem checkExtra_of_plain (plain : config.coercing ≠ true) :
    checkExtra visit config .forbidden key p = reject config (.additionalProperty key) p :=
  if_neg plain

end

def checkAdditional (visit : Visit) (config : Config) (schema : Members) : Stage :=
  match schema.get? "additionalProperties" with
  | none => skip
  | some t =>
    match Additional.ofTree? t with
    | none => malformed (.key "additionalProperties") (.additional "additionalProperties")
    | some policy => fun p =>
      sequence ((extraKeys schema p.node.members).map (checkExtra visit config policy)) p

/-! Dependencies -/

def requireOther (config : Config) (key other : String) (index : Option Nat) : Stage := fun p =>
  if p.node.members.has other then skip p
  else reject config (.dependencyMissing key other index) p

theorem requireOther_of_has {config : Config} {other : String} {p : Progress}
    (h : p.node.members.has other = true) (key : String) (index : Option Nat) :
    requireOther config key other index p = skip p :=
  if_pos h

theorem requireOther_of_not_has {config : Config} {other : String} {p : Progress}
    (h : p.node.members.has other ≠ true) (key : String) (index : Option Nat) :
    requireOther config key other index p =
      reject config (.dependencyMissing key other index) p :=
  if_neg h

def checkDependency (visit : Visit) (config : Config) (entry : String × Tree) : Stage :=
  let path := Pointer.entry "dependencies" (.key entry.1)
  match Dependency.ofTree? entry.2 with
  | none => malformed path .dependency
  | some dependency => fun p =>
    if !p.node.members.has entry.1 then skip p
    else
      match dependency with
      | .schema s => visitSelf visit config (.object s) path p
      | .keys names =>
        sequence (names.mapIdx fun index name => requireOther config entry.1 name (some index)) p
      | .key name => requireOther config entry.1 name none p

def checkDependencies (visit : Visit) (config : Config) (schema : Members) : Stage :=
  match schema.get? "dependencies" with
  | none => skip
  | some (.object dependencies) => sequence (dependencies.map (checkDependency visit config))
  | some _ => malformed (.key "dependencies") (.objectExpected "dependencies")

/-! All of it -/

/-- The members that count: without nulls, where the schema and the options say so. -/
def countedMembers (options : Options) (schema members : Members) : Members :=
  match options.ignoreNullProperties, schema.get? "ignoreNullProperties" with
  | true, some (.bool true) => members.filter fun m => !m.2.isNull
  | _, _ => members

/-- All members count, or all but those that are null. -/
theorem countedMembers_cases (options : Options) (schema : Members) :
    (∀ members, countedMembers options schema members = members) ∨
      ∀ members, countedMembers options schema members = members.filter fun m => !m.2.isNull := by
  unfold countedMembers
  split
  · exact .inr fun _ => rfl
  · exact .inl fun _ => rfl

/-- The stages that visit members. -/
def memberStages (visit : Visit) (config : Config) (schema : Members) : List Stage :=
  [checkProperties visit config schema,
    checkPatterns visit config schema,
    checkAdditional visit config schema]

def objectStages (visit : Visit) (config : Config) (schema : Members) : List Stage :=
  checkRequired config schema ::
    (memberStages visit config schema ++
      [checkDependencies visit config schema,
        checkConstraints config (Constraint.ofObjects schema)])

theorem forall_mem_objectStages {visit : Visit} {config : Config} {schema : Members}
    {P : Stage → Prop} :
    (∀ stage ∈ objectStages visit config schema, P stage) ↔
      P (checkRequired config schema) ∧ P (checkProperties visit config schema) ∧
        P (checkPatterns visit config schema) ∧ P (checkAdditional visit config schema) ∧
        P (checkDependencies visit config schema) ∧
        P (checkConstraints config (Constraint.ofObjects schema)) := by
  simp [objectStages, memberStages]

def checkObject (visit : Visit) (config : Config) (schema : Members) : Stage := fun p =>
  match p.node with
  | .object members =>
    sequence (objectStages visit config schema)
      { p with node := .object (countedMembers config.options schema members) }
  | _ => skip p

end Stage

end TreeSchema
