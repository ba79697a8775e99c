import TreeSchema.Finding.Code
import TreeSchema.Pointer

/-!
Findings: one violation each, with the place in the data and the keyword that
rejected it. A finding about alternatives carries one group of findings for
each alternative that failed.
-/

namespace TreeSchema

structure Finding where
  code : Code
  dataPath : Pointer
  schemaPath : Pointer
  message : String
  groups : List (List Finding)

namespace Finding

mutual

/-- The finding seen from further up: both paths, and those of all nested findings, start
with the given ones. -/
def under (data schema : Pointer) : Finding → Finding
  | ⟨code, dataPath, schemaPath, message, groups⟩ =>
    ⟨code, data ++ dataPath, schema ++ schemaPath, message, underGroups data schema groups⟩

def underGroups (data schema : Pointer) : List (List Finding) → List (List Finding)
  | [] => []
  | group :: rest => underGroup data schema group :: underGroups data schema rest

def underGroup (data schema : Pointer) : List Finding → List Finding
  | [] => []
  | f :: rest => f.under data schema :: underGroup data schema rest

end

theorem underGroup_eq_map (data schema : Pointer) (group : List Finding) :
    underGroup data schema group = group.map (under data schema) := by
  induction group with
  | nil => rfl
  | cons f rest ih => rw [underGroup, ih, List.map_cons]

theorem underGroups_eq_map (data schema : Pointer) (groups : List (List Finding)) :
    underGroups data schema groups = groups.map fun group => group.map (under data schema) := by
  induction groups with
  | nil => rfl
  | cons group rest ih => rw [underGroups, ih, List.map_cons, underGroup_eq_map]

@[simp] theorem code_under (data schema : Pointer) (f : Finding) :
    (f.under data schema).code = f.code := by
  cases f
  rfl

@[simp] theorem dataPath_under (data schema : Pointer) (f : Finding) :
    (f.under data schema).dataPath = data ++ f.dataPath := by
  cases f
  rfl

@[simp] theorem schemaPath_under (data schema : Pointer) (f : Finding) :
    (f.under data schema).schemaPath = schema ++ f.schemaPath := by
  cases f
  rfl

@[simp] theorem message_under (data schema : Pointer) (f : Finding) :
    (f.under data schema).message = f.message := by
  cases f
  rfl

@[simp] theorem groups_under (data schema : Pointer) (f : Finding) :
    (f.under data schema).groups = f.groups.map fun group => group.map (under data schema) := by
  cases f
  exact underGroups_eq_map ..

/-- The second finding is the first itself, or stands in one of its groups, at any depth. -/
inductive Nested : Finding → Finding → Prop where
  | self (f : Finding) : Nested f f
  | inside {f g h : Finding} {group : List Finding} (mem : group ∈ f.groups) (among : g ∈ group)
      (nested : Nested g h) : Nested f h

/-- What is nested in a finding is seen from further up together with it. -/
theorem Nested.of_under {data schema : Pointer} {f h : Finding}
    (nested : Nested (f.under data schema) h) :
    ∃ g, Nested f g ∧ h = g.under data schema := by
  generalize seen : f.under data schema = f' at nested
  induction nested generalizing f with
  | self =>
    cases seen
    exact ⟨f, .self f, rfl⟩
  | inside mem among _ ih =>
    cases seen
    rw [groups_under] at mem
    obtain ⟨own, there, rfl⟩ := List.mem_map.1 mem
    obtain ⟨g', member, rfl⟩ := List.mem_map.1 among
    obtain ⟨h', nested, rfl⟩ := ih rfl
    exact ⟨h', .inside there member nested, rfl⟩

/-- The finding as a line of a report. -/
def line (f : Finding) : String :=
  s!"{f.dataPath.label}: {f.message} [{f.code.name}]"

end Finding

/-- Whether a run stops at its first finding or goes on. -/
inductive Mode | failFast | collectAll
  deriving DecidableEq

namespace Mode

def all : List Mode := [.failFast, .collectAll]

def name : Mode → String
  | .failFast => "fail_fast"
  | .collectAll => "collect_all"

def ofName? (s : String) : Option Mode :=
  all.find? (·.name == s)

/-- Adds a finding to those held, in order, and says whether there is to be more. A cap counts
for collecting runs only. -/
def add (mode : Mode) (cap : Option Nat) (held : List Finding) (f : Finding) :
    List Finding × Bool :=
  match mode, cap with
  | .failFast, _ => (if held.isEmpty then [f] else held, false)
  | .collectAll, none => (held ++ [f], true)
  | .collectAll, some k =>
    let now := if held.length < k then held ++ [f] else held
    (now, now.length < k)

end Mode

end TreeSchema
