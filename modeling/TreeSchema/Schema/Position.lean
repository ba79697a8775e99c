import TreeSchema.Tree

/-!
Where schemas stand inside a schema. `SubSchema s t` lists the places, one
constructor for each keyword whose value holds schemas; `Position` follows such
places down from the root, and `Everywhere` says that a property holds of every
schema met on the way. A schema lower than the one it stands in has a smaller
height, so facts about schemas go by induction over these places.
-/

namespace TreeSchema

/-! ### Heights of parts -/

namespace Tree

theorem height_le_heightItems {t : Tree} {items : List Tree} (h : t ∈ items) :
    t.height ≤ heightItems items := by
  induction items with
  | nil => cases h
  | cons u rest ih =>
    rw [heightItems]
    rcases List.mem_cons.1 h with rfl | h
    · exact Nat.le_max_left ..
    · exact Nat.le_trans (ih h) (Nat.le_max_right ..)

theorem height_le_heightMembers {m : String × Tree} {members : Members} (h : m ∈ members) :
    m.2.height ≤ heightMembers members := by
  induction members with
  | nil => cases h
  | cons n rest ih =>
    obtain ⟨k, t⟩ := n
    rw [heightMembers]
    rcases List.mem_cons.1 h with rfl | h
    · exact Nat.le_max_left ..
    · exact Nat.le_trans (ih h) (Nat.le_max_right ..)

theorem height_pos (t : Tree) : 0 < t.height := by
  cases t <;> simp [height]

end Tree

namespace Members

theorem mem_of_get? {ms : Members} {key : String} {t : Tree} (h : ms.get? key = some t) :
    (key, t) ∈ ms := by
  induction ms with
  | nil => cases h
  | cons m ms ih =>
    obtain ⟨k, u⟩ := m
    grind [get?]

theorem height_le_of_get? {ms : Members} {key : String} {t : Tree} (h : ms.get? key = some t) :
    t.height ≤ Tree.heightMembers ms :=
  Tree.height_le_heightMembers (mem_of_get? h)

end Members

/-! ### Schemas inside a schema -/

/-- The keywords that combine a list of schemas. -/
def branchKeywords : List String := ["allOf", "anyOf", "oneOf"]

/-- `t` stands inside the schema `s` where a schema is expected. -/
inductive SubSchema (s : Members) : Tree → Prop where
  | property {entries : Members} {key : String} {t : Tree}
      (found : s.get? "properties" = some (.object entries)) (mem : (key, t) ∈ entries) :
      SubSchema s t
  | pattern {entries : Members} {key : String} {t : Tree}
      (found : s.get? "patternProperties" = some (.object entries)) (mem : (key, t) ∈ entries) :
      SubSchema s t
  | additional {m : Members} (found : s.get? "additionalProperties" = some (.object m)) :
      SubSchema s (.object m)
  | dependency {entries : Members} {key : String} {m : Members}
      (found : s.get? "dependencies" = some (.object entries))
      (mem : (key, .object m) ∈ entries) : SubSchema s (.object m)
  | items {m : Members} (found : s.get? "items" = some (.object m)) : SubSchema s (.object m)
  | place {schemas : List Tree} {t : Tree} (found : s.get? "items" = some (.array schemas))
      (mem : t ∈ schemas) : SubSchema s t
  | additionalItem {m : Members} (found : s.get? "additionalItems" = some (.object m)) :
      SubSchema s (.object m)
  | branch {keyword : String} {schemas : List Tree} {t : Tree} (combines : keyword ∈ branchKeywords)
      (found : s.get? keyword = some (.array schemas)) (mem : t ∈ schemas) : SubSchema s t
  | negated {t : Tree} (found : s.get? "not" = some t) : SubSchema s t

namespace Members

/-- The value of a keyword, where it is an object and so may be a schema. -/
def schemaAt (s : Members) (keyword : String) : List Tree :=
  match s.get? keyword with
  | some (.object m) => [.object m]
  | _ => []

/-- The values inside the value of a keyword, which is an object. -/
def entriesAt (s : Members) (keyword : String) : List Tree :=
  match s.get? keyword with
  | some (.object entries) => entries.map (·.2)
  | _ => []

def itemsAt (s : Members) (keyword : String) : List Tree :=
  match s.get? keyword with
  | some (.array items) => items
  | _ => []

/-- The schemas inside a schema, by keyword. -/
def subSchemas (s : Members) : List Tree :=
  s.entriesAt "properties" ++ s.entriesAt "patternProperties" ++
    s.schemaAt "additionalProperties" ++
    (s.entriesAt "dependencies").filter (·.kind = .object) ++
    s.schemaAt "items" ++ s.itemsAt "items" ++ s.schemaAt "additionalItems" ++
    branchKeywords.flatMap s.itemsAt ++ (s.get? "not").toList

variable {s : Members} {keyword : String} {t : Tree}

theorem mem_schemaAt : t ∈ s.schemaAt keyword ↔
    ∃ m, s.get? keyword = some (.object m) ∧ t = .object m := by
  unfold schemaAt
  split <;> simp_all

theorem mem_entriesAt : t ∈ s.entriesAt keyword ↔
    ∃ entries key, s.get? keyword = some (.object entries) ∧ (key, t) ∈ entries := by
  unfold entriesAt
  split <;> simp_all

theorem mem_itemsAt : t ∈ s.itemsAt keyword ↔
    ∃ items, s.get? keyword = some (.array items) ∧ t ∈ items := by
  unfold itemsAt
  split <;> simp_all

end Members

/-- The schemas inside a schema are those listed. -/
theorem mem_subSchemas_iff {s : Members} {t : Tree} : t ∈ s.subSchemas ↔ SubSchema s t := by
  simp only [Members.subSchemas, List.mem_append, List.mem_filter, List.mem_flatMap,
    Members.mem_schemaAt, Members.mem_entriesAt, Members.mem_itemsAt, Option.mem_toList,
    decide_eq_true_eq, or_assoc]
  constructor
  · rintro (⟨entries, key, found, mem⟩ | ⟨entries, key, found, mem⟩ | ⟨m, found, rfl⟩ |
      ⟨⟨entries, key, found, mem⟩, object⟩ | ⟨m, found, rfl⟩ | ⟨schemas, found, mem⟩ |
      ⟨m, found, rfl⟩ | ⟨keyword, combines, schemas, found, mem⟩ | found)
    · exact .property found mem
    · exact .pattern found mem
    · exact .additional found
    · cases t <;> cases object
      exact .dependency found mem
    · exact .items found
    · exact .place found mem
    · exact .additionalItem found
    · exact .branch combines found mem
    · exact .negated found
  · intro h
    cases h with
    | dependency found mem => grind [Tree.kind]
    | _ => grind

/-- The value of a keyword is no lower than what stands inside it. -/
theorem SubSchema.height_le {s : Members} {t : Tree} (h : SubSchema s t) :
    t.height ≤ Tree.heightMembers s := by
  cases h with
  | property found mem | pattern found mem | dependency found mem =>
    have := Members.height_le_of_get? found
    have := Tree.height_le_heightMembers mem
    simp only [Tree.height] at *
    omega
  | place found mem | branch _ found mem =>
    have := Members.height_le_of_get? found
    have := Tree.height_le_heightItems mem
    simp only [Tree.height] at *
    omega
  | additional found | items found | additionalItem found | negated found =>
    exact Members.height_le_of_get? found

theorem SubSchema.height_lt {s : Members} {t : Tree} (h : SubSchema s t) :
    t.height < (Tree.object s).height := by
  have := h.height_le
  rw [Tree.height]
  omega

/-- The value of a keyword is as well formed as the schema. -/
theorem Members.wellFormed_of_get? {s : Members} {keyword : String} {t : Tree}
    (wellFormed : (Tree.object s).WellFormed) (found : s.get? keyword = some t) : t.WellFormed :=
  wellFormed.of_mem_members (Members.mem_of_get? found)

theorem SubSchema.wellFormed {s : Members} {t : Tree} (h : SubSchema s t)
    (wellFormed : (Tree.object s).WellFormed) : t.WellFormed := by
  cases h with
  | property found mem | pattern found mem | dependency found mem =>
    exact (Members.wellFormed_of_get? wellFormed found).of_mem_members mem
  | place found mem | branch _ found mem =>
    exact (Members.wellFormed_of_get? wellFormed found).of_mem_items mem
  | additional found | items found | additionalItem found | negated found =>
    exact Members.wellFormed_of_get? wellFormed found

/-- Induction over a schema: what holds of a schema whenever it holds of all schemas inside it. -/
theorem schema_induction {motive : Tree → Prop}
    (object : ∀ s, (∀ t, SubSchema s t → motive t) → motive (.object s))
    (other : ∀ t, (∀ s, t ≠ .object s) → motive t) (t : Tree) : motive t := by
  induction h : t.height using Nat.strongRecOn generalizing t with
  | ind n ih =>
    cases t with
    | object s => exact object s fun u sub => ih u.height (h ▸ sub.height_lt) u rfl
    | _ => exact other _ fun _ => nofun

/-- A place in a schema, at any depth, where a schema is expected. -/
inductive Position (root : Tree) : Tree → Prop where
  | here : Position root root
  | inside {s : Members} {t : Tree} (above : Position root (.object s)) (sub : SubSchema s t) :
      Position root t

/-- The places below a sub-schema are places of the whole. -/
theorem Position.of_sub {s : Members} {t u : Tree} (sub : SubSchema s t) (h : Position t u) :
    Position (.object s) u := by
  induction h with
  | here => exact .inside .here sub
  | inside _ sub' ih => exact .inside ih sub'

/-- A place below the root is a place of one of the schemas inside it. -/
theorem Position.eq_or_below {s : Members} {u : Tree} (h : Position (.object s) u) :
    u = .object s ∨ ∃ t, SubSchema s t ∧ Position t u := by
  induction h with
  | here => exact .inl rfl
  | @inside s' u above sub ih =>
    rcases ih with eq | ⟨t, sub', below⟩
    · cases eq
      exact .inr ⟨u, sub, .here⟩
    · exact .inr ⟨t, sub', .inside below sub⟩

/-- Every schema in `root`, the root included, has the property. -/
def Everywhere (P : Members → Prop) (root : Tree) : Prop :=
  ∀ s, Position root (.object s) → P s

namespace Everywhere

variable {P : Members → Prop} {s : Members}

theorem here (h : Everywhere P (.object s)) : P s :=
  h s .here

theorem inside {t : Tree} (h : Everywhere P (.object s)) (sub : SubSchema s t) : Everywhere P t :=
  fun u pos => h u (.of_sub sub pos)

theorem object_iff :
    Everywhere P (.object s) ↔ P s ∧ ∀ t ∈ s.subSchemas, Everywhere P t := by
  refine ⟨fun h => ⟨h.here, fun t mem => h.inside (mem_subSchemas_iff.1 mem)⟩, ?_⟩
  rintro ⟨self, parts⟩ u pos
  rcases pos.eq_or_below with eq | ⟨t, sub, below⟩
  · cases eq
    exact self
  · exact parts t (mem_subSchemas_iff.2 sub) u below

/-- A schema without parts need only have the property itself. -/
theorem leaf (none : s.subSchemas = []) (holds : P s) : Everywhere P (.object s) :=
  object_iff.2 ⟨holds, none ▸ List.forall_mem_nil _⟩

end Everywhere

end TreeSchema
