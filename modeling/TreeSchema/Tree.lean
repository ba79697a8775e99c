import TreeSchema.Number.Basic

/-!
Data trees: the values that documents hold and that schemas are written in.
The members of an object keep the order in which they were first written; a
well formed tree has each key at most once in every object. What an operation
on members does is said by its effect on `keys` and on `get?`.
-/

namespace TreeSchema

inductive Tree where
  | null
  | bool (b : Bool)
  | number (n : Number)
  | string (s : String)
  | array (items : List Tree)
  | object (members : List (String × Tree))
  deriving Inhabited

/-- The kinds of tree, with the integers and the other numbers as one kind. -/
inductive Kind | null | boolean | number | string | array | object
  deriving DecidableEq

def Kind.name : Kind → String
  | .null => "null"
  | .boolean => "boolean"
  | .number => "number"
  | .string => "string"
  | .array => "array"
  | .object => "object"

abbrev Members := List (String × Tree)

namespace Members

def keys (ms : Members) : List String :=
  ms.map (·.1)

def has (ms : Members) (key : String) : Bool :=
  ms.any (·.1 == key)

def get? : Members → String → Option Tree
  | [], _ => none
  | (k, t) :: rest, key => if k = key then some t else get? rest key

/-- Gives `key` a value: in its place if it is there, else at the end. -/
def put : Members → String → Tree → Members
  | [], key, t => [(key, t)]
  | (k, old) :: rest, key, t => if k = key then (k, t) :: rest else (k, old) :: put rest key t

def erase (ms : Members) (key : String) : Members :=
  ms.filter (·.1 != key)

@[simp] theorem keys_nil : keys [] = [] := rfl

@[simp] theorem keys_cons (k : String) (t : Tree) (ms : Members) :
    keys ((k, t) :: ms) = k :: keys ms := rfl

theorem has_iff_mem_keys (ms : Members) (key : String) : ms.has key = true ↔ key ∈ ms.keys := by
  simp [has, keys]

theorem isSome_get? (ms : Members) (key : String) : (ms.get? key).isSome = ms.has key := by
  induction ms with
  | nil => rfl
  | cons m ms ih => grind [get?, has]

/-- Members with the same value under a key have the key alike. -/
theorem has_congr {ms ns : Members} {key : String} (h : ms.get? key = ns.get? key) :
    ms.has key = ns.has key := by
  rw [← isSome_get?, h, isSome_get?]

/-- A key that is written is read back, and no other key changes. -/
theorem get?_put (ms : Members) (key other : String) (t : Tree) :
    (ms.put key t).get? other = if key = other then some t else ms.get? other := by
  induction ms with
  | nil => simp [put, get?]
  | cons m ms ih =>
    obtain ⟨k, old⟩ := m
    grind [put, get?]

/-- A new key goes to the end, and a key that is there keeps its place. -/
theorem keys_put (ms : Members) (key : String) (t : Tree) :
    (ms.put key t).keys = if key ∈ ms.keys then ms.keys else ms.keys ++ [key] := by
  induction ms with
  | nil => simp [put]
  | cons m ms ih =>
    obtain ⟨k, old⟩ := m
    grind [put, keys_cons]

/-- Writing the value that is there changes nothing. -/
theorem put_of_get? {ms : Members} {key : String} {t : Tree} (h : ms.get? key = some t) :
    ms.put key t = ms := by
  induction ms with
  | nil => cases h
  | cons m ms ih =>
    obtain ⟨k, old⟩ := m
    grind [put, get?]

theorem get?_erase (ms : Members) (key other : String) :
    (ms.erase key).get? other = if key = other then none else ms.get? other := by
  induction ms with
  | nil => simp [erase, get?]
  | cons m ms ih =>
    obtain ⟨k, t⟩ := m
    grind [erase, get?]

theorem keys_erase (ms : Members) (key : String) :
    (ms.erase key).keys = ms.keys.filter (· != key) := by
  induction ms with
  | nil => rfl
  | cons m ms ih => grind [erase, keys]

end Members

namespace Tree

def kind : Tree → Kind
  | .null => .null
  | .bool _ => .boolean
  | .number _ => .number
  | .string _ => .string
  | .array _ => .array
  | .object _ => .object

/-- The value has no parts. -/
def Scalar (t : Tree) : Prop :=
  t.kind ≠ .array ∧ t.kind ≠ .object

def isNull : Tree → Bool
  | .null => true
  | _ => false

/-- The names in an array of strings. -/
def strings? : List Tree → Option (List String)
  | [] => some []
  | .string s :: rest => (strings? rest).map (s :: ·)
  | _ :: _ => none

theorem mem_strings?_iff {items : List Tree} {names : List String} {name : String}
    (read : strings? items = some names) : name ∈ names ↔ .string name ∈ items := by
  induction items generalizing names with
  | nil => cases read; simp
  | cons t rest ih =>
    cases t with
    | string s =>
      obtain ⟨more, read', rfl⟩ := Option.map_eq_some_iff.1 read
      simp [ih read']
    | _ => cases read

mutual

/-- The number of levels of nesting, one for a leaf. -/
def height : Tree → Nat
  | .array items => heightItems items + 1
  | .object members => heightMembers members + 1
  | _ => 1

def heightItems : List Tree → Nat
  | [] => 0
  | t :: rest => max t.height (heightItems rest)

def heightMembers : List (String × Tree) → Nat
  | [] => 0
  | (_, t) :: rest => max t.height (heightMembers rest)

end

mutual

/-- Each key stands once in every object of the tree. -/
def WellFormed : Tree → Prop
  | .array items => WellFormedItems items
  | .object members => (Members.keys members).Nodup ∧ WellFormedMembers members
  | _ => True

def WellFormedItems : List Tree → Prop
  | [] => True
  | t :: rest => t.WellFormed ∧ WellFormedItems rest

def WellFormedMembers : List (String × Tree) → Prop
  | [] => True
  | (_, t) :: rest => t.WellFormed ∧ WellFormedMembers rest

end

theorem WellFormed.nodup {members : Members} (h : (object members).WellFormed) :
    members.keys.Nodup :=
  h.1

theorem wellFormed_array_iff {items : List Tree} :
    (array items).WellFormed ↔ ∀ t ∈ items, t.WellFormed := by
  change WellFormedItems items ↔ _
  induction items with
  | nil => exact iff_of_true trivial (List.forall_mem_nil _)
  | cons t rest ih => rw [WellFormedItems, ih, List.forall_mem_cons]

theorem wellFormed_object_iff {members : Members} :
    (object members).WellFormed ↔ members.keys.Nodup ∧ ∀ m ∈ members, m.2.WellFormed := by
  have parts : WellFormedMembers members ↔ ∀ m ∈ members, m.2.WellFormed := by
    induction members with
    | nil => exact iff_of_true trivial (List.forall_mem_nil _)
    | cons m rest ih => rw [WellFormedMembers, ih, List.forall_mem_cons]
  exact and_congr_right' parts

theorem WellFormed.of_mem_items {t : Tree} {items : List Tree} (h : (array items).WellFormed)
    (mem : t ∈ items) : t.WellFormed :=
  wellFormed_array_iff.1 h t mem

theorem WellFormed.of_mem_members {m : String × Tree} {members : Members}
    (h : (object members).WellFormed) (mem : m ∈ members) : m.2.WellFormed :=
  (wellFormed_object_iff.1 h).2 m mem

theorem WellFormed.filter {members : Members} (h : (object members).WellFormed)
    (keeps : String × Tree → Bool) : (object (members.filter keeps)).WellFormed :=
  wellFormed_object_iff.2 ⟨h.nodup.sublist (List.filter_sublist.map _),
    fun _ mem => h.of_mem_members (List.mem_filter.1 mem).1⟩

end Tree

end TreeSchema
