import TreeSchema.Proofs.Rearranging
import TreeSchema.Schema.Position
import TreeSchema.Tree.Address
import TreeSchema.Tree.Equality
import TreeSchema.Tree.Kind

/-!
Trees that match. Two trees match when they have the same shape, their numbers
correspond, and the members of their objects have the same keys in some order. With
numbers that are equal as values this is structural equality of well formed trees;
with numbers that are the very same, one tree is the other with its keys reordered.
So equality can be read the other way round and from tree to tree, and reordering
keys never changes it.
-/

namespace TreeSchema

/-! ### Trees -/

/-- Induction over a tree: what holds of a tree whenever it holds of its parts. -/
theorem Tree.induction {motive : Tree → Prop} (leaf : ∀ t : Tree, t.Scalar → motive t)
    (array : ∀ items, (∀ t ∈ items, motive t) → motive (.array items))
    (object : ∀ members : Members, (∀ m ∈ members, motive m.2) → motive (.object members))
    (t : Tree) : motive t := by
  induction h : t.height using Nat.strongRecOn generalizing t with
  | ind n ih =>
    cases t with
    | array items =>
      refine array items fun t mem => ih t.height ?_ t rfl
      have := Tree.height_le_heightItems mem
      rw [Tree.height] at h
      omega
    | object members =>
      refine object members fun m mem => ih m.2.height ?_ m.2 rfl
      have := Tree.height_le_heightMembers mem
      rw [Tree.height] at h
      omega
    | _ => exact leaf _ ⟨by rintro ⟨⟩, by rintro ⟨⟩⟩

/-- The members have the same key, and matching values. -/
inductive Member.Matches (R : Tree → Tree → Prop) : String × Tree → String × Tree → Prop where
  | intro {key : String} {t u : Tree} (value : R t u) : Matches R (key, t) (key, u)

/-- The trees have the same shape, up to the order of keys, and their numbers correspond. -/
inductive Tree.Matches (R : Number → Number → Prop) : Tree → Tree → Prop where
  | null : Matches R .null .null
  | bool (b : Bool) : Matches R (.bool b) (.bool b)
  | number {x y : Number} (value : R x y) : Matches R (.number x) (.number y)
  | string (s : String) : Matches R (.string s) (.string s)
  | array {xs ys : List Tree} (items : List.Forall₂ (Matches R) xs ys) :
      Matches R (.array xs) (.array ys)
  | object {xs ys : List (String × Tree)}
      (members : Rearranges (Member.Matches (Matches R)) xs ys) :
      Matches R (.object xs) (.object ys)

/-- One tree is the other with the keys of its objects in another order. -/
abbrev Tree.Reordered : Tree → Tree → Prop :=
  Tree.Matches Eq

/-! ### Members that match -/

namespace Members

variable {R : Tree → Tree → Prop} {ms ns : Members}

theorem perm_keys (h : Rearranges (Member.Matches R) ms ns) : ms.keys.Perm ns.keys :=
  (h.of_mem (S := fun m n => m.1 = n.1) fun _ _ _ _ same => by cases same; rfl).map.perm

theorem get?_cases (h : Rearranges (Member.Matches R) ms ns) (nodup : ms.keys.Nodup)
    (key : String) : ms.get? key = none ∧ ns.get? key = none ∨
      ∃ t u, ms.get? key = some t ∧ ns.get? key = some u ∧ R t u := by
  have nodup' : ns.keys.Nodup := (perm_keys h).nodup nodup
  cases found : ms.get? key with
  | some t =>
    obtain ⟨⟨_, u⟩, mem, ⟨value⟩⟩ := h.exists_left (mem_of_get? found)
    exact .inr ⟨t, u, rfl, get?_of_mem nodup' mem, value⟩
  | none =>
    cases found' : ns.get? key with
    | none => exact .inl ⟨rfl, rfl⟩
    | some u =>
      obtain ⟨⟨_, t⟩, mem, ⟨value⟩⟩ := h.exists_right (mem_of_get? found')
      cases found.symm.trans (get?_of_mem nodup mem)

theorem nodup_of_keys {ms : Members} (nodup : ms.keys.Nodup) : ms.Nodup :=
  List.Pairwise.of_map (·.1) (fun _ _ other same => other (congrArg (·.1) same)) nodup

theorem rearranges_of_get? (nodup : ms.keys.Nodup) (nodup' : ns.keys.Nodup)
    (keys : ∀ key, key ∈ ms.keys ↔ key ∈ ns.keys)
    (values : ∀ m ∈ ms, ∃ u, ns.get? m.1 = some u ∧ R m.2 u) :
    Rearranges (Member.Matches R) ms ns := by
  -- The members of the second object in the order of the first.
  let ordered : Members := ms.map fun m => (m.1, (ns.get? m.1).getD .null)
  have each : List.Forall₂ (Member.Matches R) ms ordered := by
    refine List.forall₂_map_right_iff.2 (List.forall₂_same.2 fun m mem => ?_)
    obtain ⟨u, found, value⟩ := values m mem
    rw [found]
    exact .intro value
  have keys_ordered : ordered.keys = ms.keys := by simp [ordered, Members.keys]
  refine ⟨each, (List.perm_ext_iff_of_nodup ?_ ?_).2 fun n => ?_⟩
  · exact nodup_of_keys (keys_ordered ▸ nodup)
  · exact nodup_of_keys nodup'
  · constructor
    · intro mem
      obtain ⟨m, among, rfl⟩ := List.mem_map.1 mem
      obtain ⟨u, found, -⟩ := values m among
      rw [found]
      exact mem_of_get? found
    · intro mem
      obtain ⟨m, among, same⟩ := List.mem_map.1 ((keys n.1).2 (List.mem_map.2 ⟨n, mem, rfl⟩))
      refine List.mem_map.2 ⟨m, among, ?_⟩
      rw [same, get?_of_mem nodup' mem]
      rfl

end Members

namespace Tree

namespace Matches

variable {R S T : Number → Number → Prop} {t u w : Tree}

theorem kind_eq (h : t.Matches R u) : t.kind = u.kind := by
  cases h <;> rfl

theorem wellFormed (h : t.Matches R u) (wellFormed : t.WellFormed) : u.WellFormed := by
  induction t using Tree.induction generalizing u with
  | leaf t scalar =>
    cases h with
    | array => exact absurd rfl scalar.1
    | object => exact absurd rfl scalar.2
    | _ => trivial
  | array xs ih =>
    cases h with
    | array items =>
      refine wellFormed_array_iff.2 fun y mem => ?_
      obtain ⟨x, among, same⟩ := (Rearranges.in_order items).exists_right mem
      exact ih x among same (wellFormed.of_mem_items among)
  | object xs ih =>
    cases h with
    | object members =>
      refine wellFormed_object_iff.2 ⟨(Members.perm_keys members).nodup wellFormed.nodup, ?_⟩
      intro n mem
      obtain ⟨m, among, ⟨value⟩⟩ := members.exists_right mem
      exact ih _ among value (wellFormed.of_mem_members among)

theorem symm (h : t.Matches R u) (follows : ∀ x y, R x y → S y x) : u.Matches S t := by
  induction t using Tree.induction generalizing u with
  | leaf t scalar =>
    cases h with
    | number value => exact .number (follows _ _ value)
    | array => exact absurd rfl scalar.1
    | object => exact absurd rfl scalar.2
    | _ => constructor
  | array xs ih =>
    cases h with
    | array items =>
      exact .array (List.Forall₂.flip (forall₂_of_mem items fun x mem _ _ same => ih x mem same))
  | object xs ih =>
    cases h with
    | object members =>
      refine .object (members.symm fun m mem n _ same => ?_)
      cases same with
      | intro value => exact .intro (ih _ mem value)

theorem trans (h : t.Matches R u) (h' : u.Matches S w)
    (follows : ∀ x y z, R x y → S y z → T x z) : t.Matches T w := by
  induction t using Tree.induction generalizing u w with
  | leaf t scalar =>
    cases h with
    | number value =>
      cases h' with
      | number value' => exact .number (follows _ _ _ value value')
    | array => exact absurd rfl scalar.1
    | object => exact absurd rfl scalar.2
    | _ =>
      cases h'
      constructor
  | array xs ih =>
    cases h with
    | array items =>
      cases h' with
      | array items' =>
        exact .array (forall₂_trans items items' fun x mem _ _ same same' => ih x mem same same')
  | object xs ih =>
    cases h with
    | object members =>
      cases h' with
      | object members' =>
        refine .object (members.trans members' fun m mem n o same same' => ?_)
        cases same with
        | intro value =>
          cases same' with
          | intro value' => exact .intro (ih _ mem value value')

theorem refl (t : Tree) : t.Reordered t := by
  induction t using Tree.induction with
  | leaf t scalar =>
    cases t with
    | number x => exact .number rfl
    | array => exact absurd rfl scalar.1
    | object => exact absurd rfl scalar.2
    | _ => constructor
  | array xs ih => exact .array (List.forall₂_same.2 ih)
  | object xs ih =>
    exact .object (.in_order (List.forall₂_same.2 fun m mem => .intro (ih m mem)))

end Matches

/-! ### Structural equality -/

theorem equal_array_iff {xs ys : List Tree} :
    (array xs).equal (array ys) = true ↔ List.Forall₂ (fun x y => x.equal y = true) xs ys := by
  rw [equal]
  induction xs generalizing ys with
  | nil => cases ys <;> simp [equalItems]
  | cons x xs ih => cases ys <;> simp [equalItems, ih]

theorem equal_object_iff {xs ys : Members} :
    (object xs).equal (object ys) = true ↔ (∀ key, key ∈ xs.keys ↔ key ∈ ys.keys) ∧
      ∀ m ∈ xs, ∃ y, ys.get? m.1 = some y ∧ m.2.equal y = true := by
  have keys : xs.sameKeys ys = true ↔ ∀ key, key ∈ xs.keys ↔ key ∈ ys.keys := by
    -- The keys are compared by one pass over each of the two objects.
    simp only [Members.sameKeys, Bool.and_eq_true, List.all_eq_true, Members.has_iff_mem_keys]
    have each (zs : Members) (P : String → Prop) : (∀ m ∈ zs, P m.1) ↔ ∀ key ∈ zs.keys, P key :=
      List.forall_mem_map.symm
    rw [each xs (· ∈ ys.keys), each ys (· ∈ xs.keys), ← forall_and]
    exact forall_congr' fun key => Iff.intro (fun h => ⟨h.1, h.2⟩) fun h => ⟨h.1, h.2⟩
  have values : equalMembers xs ys = true ↔
      ∀ m ∈ xs, ∃ y, ys.get? m.1 = some y ∧ m.2.equal y = true := by
    clear keys
    induction xs with
    | nil => simp [equalMembers]
    | cons m rest ih =>
      rw [equalMembers, Bool.and_eq_true, ih, List.forall_mem_cons]
      refine and_congr_left' ?_
      cases ys.get? m.1 <;> simp
  rw [equal, Bool.and_eq_true, keys, values]

theorem equal_iff_matches_of_scalar {t u : Tree} (scalar : t.Scalar) :
    t.equal u = true ↔ t.Matches (fun x y => x.equal y = true) u := by
  constructor
  · intro same
    have kind := kind_eq_of_equal same
    cases t <;> cases u <;> cases kind
    · exact .null
    · exact beq_iff_eq.1 same ▸ .bool _
    · exact .number same
    · exact beq_iff_eq.1 same ▸ .string _
    · exact absurd rfl scalar.1
    · exact absurd rfl scalar.2
  · intro same
    cases same with
    | null => rfl
    | bool b => exact beq_self_eq_true b
    | number value => exact value
    | string s => exact beq_self_eq_true s
    | array => exact absurd rfl scalar.1
    | object => exact absurd rfl scalar.2

/-- Well formed trees are equal when they match, with numbers that are equal. -/
theorem equal_iff_matches {t u : Tree} (wellFormed : t.WellFormed) (wellFormed' : u.WellFormed) :
    t.equal u = true ↔ t.Matches (fun x y => x.equal y = true) u := by
  induction t using Tree.induction generalizing u with
  | leaf t scalar => exact equal_iff_matches_of_scalar scalar
  | array xs ih =>
    constructor
    · intro same
      cases u with
      | array ys =>
        refine .array (forall₂_of_mem (equal_array_iff.1 same) fun x mem y mem' same => ?_)
        exact (ih x mem (wellFormed.of_mem_items mem) (wellFormed'.of_mem_items mem')).1 same
      | _ => cases same
    · intro same
      cases same with
      | array items =>
        refine equal_array_iff.2 (forall₂_of_mem items fun x mem y mem' same => ?_)
        exact (ih x mem (wellFormed.of_mem_items mem) (wellFormed'.of_mem_items mem')).2 same
  | object xs ih =>
    constructor
    · intro same
      cases u with
      | object ys =>
        obtain ⟨keys, values⟩ := equal_object_iff.1 same
        refine .object (Members.rearranges_of_get? wellFormed.nodup wellFormed'.nodup keys ?_)
        intro m mem
        obtain ⟨y, found, same⟩ := values m mem
        have part := wellFormed'.of_mem_members (Members.mem_of_get? found)
        exact ⟨y, found, (ih m mem (wellFormed.of_mem_members mem) part).1 same⟩
      | _ => cases same
    · intro same
      cases same with
      | object members =>
        refine equal_object_iff.2 ⟨fun key => (Members.perm_keys members).mem_iff, fun m mem => ?_⟩
        obtain ⟨⟨_, y⟩, mem', ⟨value⟩⟩ := members.exists_left mem
        have part := wellFormed'.of_mem_members mem'
        exact ⟨y, Members.get?_of_mem wellFormed'.nodup mem',
          (ih _ mem (wellFormed.of_mem_members mem) part).2 value⟩

/-- The trees are equal, and each key stands once in their objects. -/
structure Same (t u : Tree) : Prop where
  wellFormed : t.WellFormed
  matching : t.Matches (fun x y => x.equal y = true) u

namespace Same

variable {t u : Tree}

theorem of_equal (wellFormed : t.WellFormed) (wellFormed' : u.WellFormed)
    (same : t.equal u = true) : t.Same u :=
  ⟨wellFormed, (equal_iff_matches wellFormed wellFormed').1 same⟩

theorem symm (h : t.Same u) : u.Same t :=
  ⟨h.matching.wellFormed h.wellFormed, h.matching.symm fun _ _ => Number.equal_symm⟩

theorem isIntegral_eq (h : t.Same u) : t.isIntegral = u.isIntegral := by
  obtain ⟨-, matching⟩ := h
  cases matching with
  | number value => exact Number.isIntegral_eq_of_equal value
  | _ => rfl

theorem hasType_eq (h : t.Same u) : t.hasType = u.hasType := by
  funext type
  have kind := h.matching.kind_eq
  have numbers : t.isNumber = u.isNumber := by
    cases h.matching <;> rfl
  cases type <;> simp only [hasType, kind, numbers, h.isIntegral_eq]

theorem kindText_eq (h : t.Same u) : t.kindText = u.kindText := by
  rw [kindText, kindText, h.isIntegral_eq, h.matching.kind_eq]

/-- Equal trees equal the same trees, also when those are spelled in two ways. -/
theorem equal_eq {S : Number → Number → Prop} {v w : Tree} (h : t.Same u)
    (wellFormed : v.WellFormed) (spelled : v.Matches S w)
    (alike : ∀ x y, S x y → ∀ z : Number, z.equal x = z.equal y) : t.equal v = u.equal w := by
  -- `v` and `w` differ in numbers that `S` relates, and in no comparison that is made with them.
  have wellFormed' := spelled.wellFormed wellFormed
  have h' := h.symm
  rw [Bool.eq_iff_iff, equal_iff_matches h.wellFormed wellFormed,
    equal_iff_matches h'.wellFormed wellFormed']
  constructor
  · intro same
    have same : u.Matches (fun x y => x.equal y = true) v :=
      h'.matching.trans same fun _ _ _ => Number.equal_trans
    exact same.trans spelled fun _ _ _ equal other => alike _ _ other _ ▸ equal
  · intro same
    have same : t.Matches (fun x y => x.equal y = true) w :=
      h.matching.trans same fun _ _ _ => Number.equal_trans
    exact same.trans (spelled.symm (S := fun y x => S x y) fun _ _ => id)
      fun _ _ _ equal other => (alike _ _ other _).symm ▸ equal

theorem items {xs ys : List Tree} (h : (array xs).Same (array ys)) : List.Forall₂ Same xs ys := by
  obtain ⟨wellFormed, matching⟩ := h
  cases matching with
  | array items =>
    exact forall₂_of_mem items fun _ mem _ _ same => ⟨wellFormed.of_mem_items mem, same⟩

theorem members {ms ns : Members} (h : (object ms).Same (object ns)) :
    Rearranges (Member.Matches Same) ms ns := by
  obtain ⟨wellFormed, matching⟩ := h
  cases matching with
  | object members =>
    refine members.of_mem fun _ mem _ _ same => ?_
    obtain ⟨value⟩ := same
    exact .intro ⟨wellFormed.of_mem_members mem, value⟩

end Same

end Tree

end TreeSchema
