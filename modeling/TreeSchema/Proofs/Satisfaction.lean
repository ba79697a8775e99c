import TreeSchema.Proofs.Constraint
import TreeSchema.Run.Array
import TreeSchema.Run.Object
import TreeSchema.Schema.Position

/-!
What schemas mean, said without runs. `Conforms` says keyword by keyword what a
schema asks of data, given what it is to satisfy the schemas inside it, and
`Satisfies` closes this up over the whole schema. Keywords that are malformed
ask for nothing here: a run does not come to a verdict on them.
-/

namespace TreeSchema

/-! ### Keywords with schemas -/

namespace Members

def Declares (s : Members) (key : String) : Prop :=
  ∃ entries, s.get? "properties" = some (.object entries) ∧ Members.has entries key = true

/-- The pattern, which has the schema `t` in `patternProperties`, finds the key. -/
def Finds (s : Members) (t : Tree) (key : String) : Prop :=
  ∃ entries pattern regex, s.get? "patternProperties" = some (.object entries) ∧
    (pattern, t) ∈ entries ∧ Pattern.compile pattern "" = .ok (.ok regex) ∧ regex.finds key = true

end Members

theorem mem_membersAt_iff {s : Members} {keyword : String} {m : String × Tree} :
    m ∈ ((s.get? keyword).map Tree.members).getD [] ↔
      ∃ entries, s.get? keyword = some (.object entries) ∧ m ∈ entries := by
  cases found : s.get? keyword with
  | none => simp
  | some t => cases t <;> simp [Tree.members]

theorem mem_regexes_iff {s : Members} {regex : Pattern.Regex} :
    regex ∈ Stage.regexes s ↔ ∃ entries pattern t,
      s.get? "patternProperties" = some (.object entries) ∧ (pattern, t) ∈ entries ∧
        Pattern.compile pattern "" = .ok (.ok regex) := by
  unfold Stage.regexes
  rw [List.mem_filterMap]
  constructor
  · rintro ⟨⟨pattern, t⟩, mem, compiles⟩
    obtain ⟨entries, found, mem⟩ := mem_membersAt_iff.1 mem
    dsimp only at compiles
    split at compiles
    · next compiled =>
      cases compiles
      exact ⟨entries, pattern, t, found, mem, compiled⟩
    · cases compiles
  · rintro ⟨entries, pattern, t, found, mem, compiled⟩
    exact ⟨(pattern, t), mem_membersAt_iff.2 ⟨entries, found, mem⟩, by simp [compiled]⟩

theorem mem_extraKeys_iff {s members : Members} {key : String} :
    key ∈ Stage.extraKeys s members ↔
      members.has key = true ∧ ¬ s.Declares key ∧ ∀ t, ¬ s.Finds t key := by
  have declares : (((s.get? "properties").map Tree.members).getD []).has key = true ↔
      s.Declares key := by
    simp only [Members.has, List.any_eq_true, mem_membersAt_iff, Members.Declares]
    constructor
    · rintro ⟨m, ⟨entries, found, mem⟩, eq⟩
      exact ⟨entries, found, m, mem, eq⟩
    · rintro ⟨entries, found, m, mem, eq⟩
      exact ⟨m, ⟨entries, found, mem⟩, eq⟩
  have finds : (Stage.regexes s).any (·.finds key) = true ↔ ∃ t, s.Finds t key := by
    simp only [List.any_eq_true, mem_regexes_iff, Members.Finds]
    constructor
    · rintro ⟨regex, ⟨entries, pattern, t, found, mem, compiled⟩, finds⟩
      exact ⟨t, entries, pattern, regex, found, mem, compiled, finds⟩
    · rintro ⟨t, entries, pattern, regex, found, mem, compiled, finds⟩
      exact ⟨regex, ⟨entries, pattern, t, found, mem, compiled⟩, finds⟩
  rw [Stage.extraKeys, List.mem_filter, ← Members.has_iff_mem_keys, Bool.and_eq_true,
    Bool.not_eq_true', Bool.not_eq_true', ← Bool.not_eq_true, ← Bool.not_eq_true, declares, finds,
    not_exists]

/-- What a value for additional members or items asks of one of them. -/
def Admits (sat : Tree → Tree → Prop) (policy : Option Tree) (t : Tree) : Prop :=
  policy ≠ some (.bool false) ∧ ∀ m, policy = some (.object m) → sat (.object m) t

theorem admits_iff_of_read {sat : Tree → Tree → Prop} {t : Tree} {policy : Additional}
    (read : Additional.ofTree? t = some policy) {u : Tree} :
    Admits sat (some t) u ↔ policy ≠ .forbidden ∧ ∀ m, policy = .schema m → sat (.object m) u := by
  unfold Additional.ofTree? at read
  split at read <;> cases read <;> simp [Admits]

theorem admits_iff_of_additionalItems {sat : Tree → Tree → Prop} {s : Members} {policy : Additional}
    (read : Stage.additionalItems s = .ok policy) {u : Tree} :
    Admits sat (s.get? "additionalItems") u ↔
      policy ≠ .forbidden ∧ ∀ m, policy = .schema m → sat (.object m) u := by
  unfold Stage.additionalItems at read
  split at read
  · next absent =>
    cases read
    simp [Admits, absent]
  · next t found =>
    split at read
    · next read' =>
      cases read
      rw [found]
      exact admits_iff_of_read read'
    · cases read

/-- What the value of a dependency asks of an object. -/
def Depends (sat : Tree → Tree → Prop) (members : Members) : Tree → Prop
  | .object m => sat (.object m) (.object members)
  | .array names => ∀ name, .string name ∈ names → members.has name = true
  | .string name => members.has name = true
  | _ => True

/-- The keywords for objects hold of the members that count. -/
structure ConformsObject (sat : Tree → Tree → Prop) (s members : Members) : Prop where
  required : ∀ names, s.get? "required" = some (.array names) → ∀ key, .string key ∈ names →
    members.has key = true
  properties : ∀ entries, s.get? "properties" = some (.object entries) → ∀ key t,
    (key, t) ∈ entries → ∀ u, members.get? key = some u → sat t u
  patterns : ∀ t key u, s.Finds t key → members.get? key = some u → sat t u
  additional : ∀ key u, members.get? key = some u → ¬ s.Declares key → (∀ t, ¬ s.Finds t key) →
    Admits sat (s.get? "additionalProperties") u
  dependencies : ∀ entries, s.get? "dependencies" = some (.object entries) → ∀ key t,
    (key, t) ∈ entries → members.has key = true → Depends sat members t

/-- The keywords for items hold: one schema for all, or one for each place. -/
structure ConformsArray (sat : Tree → Tree → Prop) (s : Members) (items : List Tree) : Prop where
  uniform : ∀ m, s.get? "items" = some (.object m) → ∀ u ∈ items, sat (.object m) u
  places : ∀ schemas, s.get? "items" = some (.array schemas) → ∀ (index : Nat) t u,
    schemas[index]? = some t → items[index]? = some u → sat t u
  beyond : ∀ schemas, s.get? "items" = some (.array schemas) → ∀ (index : Nat) u,
    schemas[index]? = none → items[index]? = some u → Admits sat (s.get? "additionalItems") u

/-- One item of the list has the property, and no other. -/
def ExactlyOne {α : Type} (P : α → Prop) (xs : List α) : Prop :=
  ∃ before x after, xs = before ++ x :: after ∧ P x ∧ ∀ y ∈ before ++ after, ¬ P y

theorem not_exactlyOne_nil {α : Type} {P : α → Prop} : ¬ ExactlyOne P [] := by
  rintro ⟨before, x, after, split, -⟩
  simp at split

theorem exactlyOne_cons {α : Type} {P : α → Prop} {x : α} {xs : List α} :
    ExactlyOne P (x :: xs) ↔ (P x ∧ ∀ y ∈ xs, ¬ P y) ∨ (¬ P x ∧ ExactlyOne P xs) := by
  constructor
  · rintro ⟨before, y, after, split, holds, others⟩
    cases before with
    | nil =>
      cases split
      exact .inl ⟨holds, others⟩
    | cons z before =>
      cases split
      exact .inr ⟨others _ List.mem_cons_self, before, y, after, rfl, holds,
        fun u mem => others u (List.mem_cons_of_mem _ mem)⟩
  · rintro (⟨holds, others⟩ | ⟨fails, before, y, after, rfl, holds, others⟩)
    · exact ⟨[], x, xs, rfl, holds, others⟩
    · refine ⟨x :: before, y, after, rfl, holds, fun u mem => ?_⟩
      rcases List.mem_cons.1 mem with rfl | mem
      · exact fails
      · exact others u mem

theorem exactlyOne_congr {α : Type} {P Q : α → Prop} {xs : List α} (same : ∀ x ∈ xs, P x ↔ Q x) :
    ExactlyOne P xs ↔ ExactlyOne Q xs := by
  refine exists_congr fun before => exists_congr fun x => exists_congr fun after => ?_
  refine and_congr_right fun split => ?_
  subst split
  refine and_congr (same x (by simp)) (forall₂_congr fun y mem => not_congr (same y ?_))
  simp only [List.mem_append, List.mem_cons] at mem ⊢
  exact mem.imp id .inr

/-- The combinations hold. -/
structure ConformsBranches (sat : Tree → Tree → Prop) (s : Members) (d : Tree) : Prop where
  allOf : ∀ schemas, s.get? "allOf" = some (.array schemas) → ∀ t ∈ schemas, sat t d
  anyOf : ∀ schemas, s.get? "anyOf" = some (.array schemas) → ∃ t ∈ schemas, sat t d
  oneOf : ∀ schemas, s.get? "oneOf" = some (.array schemas) → ExactlyOne (sat · d) schemas
  negated : ∀ t, s.get? "not" = some t → ¬ sat t d

/-- The data as it counts after the type and the choices: an object may leave out its nulls. -/
def Tree.counted (options : Options) (s : Members) : Tree → Tree
  | .object members => .object (Stage.countedMembers options s members)
  | t => t

/-- All keywords of a schema hold of the data, where `sat` tells what satisfies a schema inside. -/
structure Conforms (options : Options) (sat : Tree → Tree → Prop) (s : Members) (d : Tree) :
    Prop where
  type : ∀ types, s.has "type" = true → declaredTypes s = .ok types → types.any d.hasType = true
  enum : ∀ choices, s.get? "enum" = some (.array choices) →
    ∃ choice ∈ choices, d.equal choice = true
  object : ∀ members, d = .object members →
    ConformsObject sat s (Stage.countedMembers options s members)
  array : ∀ items, d = .array items → ConformsArray sat s items
  constraints : ∀ c, Constraint.Declared s c → c.Holds (d.counted options s)
  branches : ConformsBranches sat s (d.counted options s)

/-! ### Only the schemas inside count -/

section

variable {sat sat' : Tree → Tree → Prop} {s : Members}

theorem ConformsObject.of_iff {members : Members}
    (same : ∀ t, SubSchema s t → ∀ d, sat t d ↔ sat' t d) (h : ConformsObject sat s members) :
    ConformsObject sat' s members where
  required := h.required
  properties entries found key t mem u value :=
    (same t (.property found mem) u).1 (h.properties entries found key t mem u value)
  patterns t key u finds value := by
    obtain ⟨entries, pattern, regex, found, mem, -⟩ := id finds
    exact (same t (.pattern found mem) u).1 (h.patterns t key u finds value)
  additional key u value declared found := by
    obtain ⟨allowed, satisfies⟩ := h.additional key u value declared found
    exact ⟨allowed, fun m eq => (same _ (.additional eq) u).1 (satisfies m eq)⟩
  dependencies entries found key t mem present := by
    have depends := h.dependencies entries found key t mem present
    cases t with
    | object m => exact (same _ (.dependency found mem) _).1 depends
    | _ => exact depends

theorem ConformsArray.of_iff {items : List Tree}
    (same : ∀ t, SubSchema s t → ∀ d, sat t d ↔ sat' t d) (h : ConformsArray sat s items) :
    ConformsArray sat' s items where
  uniform m found u mem := (same _ (.items found) u).1 (h.uniform m found u mem)
  places schemas found index t u place value :=
    (same t (.place found (List.mem_of_getElem? place)) u).1
      (h.places schemas found index t u place value)
  beyond schemas found index u past value := by
    obtain ⟨allowed, satisfies⟩ := h.beyond schemas found index u past value
    exact ⟨allowed, fun m eq => (same _ (.additionalItem eq) u).1 (satisfies m eq)⟩

theorem ConformsBranches.of_iff {d : Tree} (same : ∀ t, SubSchema s t → ∀ d, sat t d ↔ sat' t d)
    (h : ConformsBranches sat s d) : ConformsBranches sat' s d where
  allOf schemas found t mem :=
    (same t (.branch (by decide) found mem) d).1 (h.allOf schemas found t mem)
  anyOf schemas found := by
    obtain ⟨t, mem, satisfies⟩ := h.anyOf schemas found
    exact ⟨t, mem, (same t (.branch (by decide) found mem) d).1 satisfies⟩
  oneOf schemas found :=
    (exactlyOne_congr fun t mem => same t (.branch (by decide) found mem) d).1
      (h.oneOf schemas found)
  negated t found satisfies :=
    h.negated t found ((same t (.negated found) d).2 satisfies)

theorem conforms_congr {options : Options} {d : Tree}
    (same : ∀ t, SubSchema s t → ∀ d, sat t d ↔ sat' t d) :
    Conforms options sat s d ↔ Conforms options sat' s d := by
  have forward {sat sat' : Tree → Tree → Prop}
      (same : ∀ t, SubSchema s t → ∀ d, sat t d ↔ sat' t d) (h : Conforms options sat s d) :
      Conforms options sat' s d :=
    { h with
      object := fun members eq => (h.object members eq).of_iff same
      array := fun items eq => (h.array items eq).of_iff same
      branches := h.branches.of_iff same }
  exact ⟨forward same, forward fun t sub d => (same t sub d).symm⟩

end

/-- The data satisfies the schema. -/
def Satisfies (options : Options) : Tree → Tree → Prop
  | .object s, d => Conforms options (fun t u => ∃ _ : SubSchema s t, Satisfies options t u) s d
  | _, _ => False
termination_by schema => schema.height
decreasing_by exact SubSchema.height_lt ‹_›

theorem satisfies_object_iff {options : Options} {s : Members} {d : Tree} :
    Satisfies options (.object s) d ↔ Conforms options (Satisfies options) s d := by
  rw [Satisfies]
  exact conforms_congr fun t sub d => exists_prop_of_true sub

end TreeSchema
