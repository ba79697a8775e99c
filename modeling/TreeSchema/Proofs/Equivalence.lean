import TreeSchema.Proofs.Matching
import TreeSchema.Proofs.Writing

/-!
Structural equality as a relation. It can be read in both directions and from tree to
tree, and a tree is equal to itself unless it has a number in it that is none. Equal
trees have equal nodes at every place, and a tree in which one node is replaced stays
equal to what it was just when the new node is equal to the old one.
-/

namespace TreeSchema

/-! ### Trees that equal themselves -/

theorem Number.equal_self_iff {x : Number} : x.equal x = true ↔ x ≠ .double .nan := by
  rw [equal_iff]
  constructor
  · rintro ⟨e, value, -⟩ rfl
    cases value
  · intro notNaN
    match x with
    | .int n => exact ⟨_, rfl, rfl⟩
    | .double .nan => exact absurd rfl notNaN
    | .double (.infinite true) | .double (.infinite false) => exact ⟨_, rfl, rfl⟩
    | .double (.finite ..) => exact ⟨_, rfl, rfl⟩

theorem Members.get?_map (ms : Members) (f : String → Tree → Tree) (key : String) :
    Members.get? (ms.map fun m => (m.1, f m.1 m.2)) key = (ms.get? key).map (f key) := by
  induction ms with
  | nil => rfl
  | cons m ms ih => grind [Members.get?]

namespace Tree

/-- Every number in the tree, at any depth, is a number. -/
def NaNFree (t : Tree) : Prop :=
  t.EachNumber (· ≠ .double .nan)

theorem nanFree_array_iff {items : List Tree} :
    (array items).NaNFree ↔ ∀ t ∈ items, t.NaNFree :=
  eachNumber_array_iff

theorem nanFree_object_iff {members : Members} :
    (object members).NaNFree ↔ ∀ m ∈ members, m.2.NaNFree :=
  eachNumber_object_iff

theorem equal_self_iff_of_scalar {t : Tree} (scalar : t.Scalar) :
    t.equal t = true ↔ t.NaNFree := by
  cases t with
  | number x => exact Number.equal_self_iff
  | array => exact absurd rfl scalar.1
  | object => exact absurd rfl scalar.2
  | null => exact iff_of_true rfl trivial
  | bool b => exact iff_of_true (beq_self_eq_true b) trivial
  | string s => exact iff_of_true (beq_self_eq_true s) trivial

theorem equal_self_iff {t : Tree} (wellFormed : t.WellFormed) :
    t.equal t = true ↔ t.NaNFree := by
  induction t using Tree.induction with
  | leaf t scalar => exact equal_self_iff_of_scalar scalar
  | array items ih =>
    rw [equal_array_iff, nanFree_array_iff, List.forall₂_same]
    exact forall₂_congr fun t mem => ih t mem (wellFormed.of_mem_items mem)
  | object members ih =>
    rw [equal_object_iff, nanFree_object_iff, and_iff_right fun _ => Iff.rfl]
    refine forall₂_congr fun m mem => ?_
    -- The value under a key of its own object is the member itself.
    rw [Members.get?_of_mem wellFormed.nodup mem, ← ih m mem (wellFormed.of_mem_members mem)]
    simp

/-! ### Equal nodes -/

/-- Equal trees have equal nodes at each place. -/
theorem exists_at?_of_equal {a b t : Tree} {steps : List String} (same : a.equal b = true)
    (found : a.at? steps = some t) : ∃ u, b.at? steps = some u ∧ t.equal u = true := by
  induction steps generalizing a b with
  | nil =>
    cases found
    exact ⟨b, rfl, same⟩
  | cons step rest ih =>
    rw [at?_cons, Option.bind_eq_some_iff] at found
    obtain ⟨part, value, inside⟩ := found
    have below : ∃ part', b.parts.get? step = some part' ∧ part.equal part' = true := by
      have kind := kind_eq_of_equal same
      cases a with
      | array xs =>
        cases b with
        | array ys =>
          obtain ⟨index, bound, at_step⟩ := List.mem_mapIdx.1 (Members.mem_of_get? value)
          cases at_step
          have items := equal_array_iff.1 same
          have bound' : index < ys.length := items.length_eq ▸ bound
          refine ⟨ys[index], ?_, items.get bound bound'⟩
          rw [get?_parts_array, List.getElem?_eq_getElem]
        | _ => cases kind
      | object ms =>
        cases b with
        | object ns => exact (equal_object_iff.1 same).2 _ (Members.mem_of_get? value)
        | _ => cases kind
      | _ => cases value
    obtain ⟨part', value', same⟩ := below
    obtain ⟨u, inside', same⟩ := ih same inside
    exact ⟨u, by rw [at?_cons, value', Option.bind_some, inside'], same⟩

/-! ### Replacing a node -/

/-- The tree with the node at the end of the steps, if there is one, replaced. -/
def replaceAt (t : Tree) (steps : List String) (u : Tree) : Tree :=
  match steps, t with
  | [], _ => u
  | step :: rest, .array items =>
    .array (items.mapIdx fun index part =>
      if Segment.text (.index index) = step then part.replaceAt rest u else part)
  | step :: rest, .object members =>
    .object (members.map fun m => (m.1, if m.1 = step then m.2.replaceAt rest u else m.2))
  | _ :: _, t => t

theorem get?_parts_replaceAt {t part : Tree} {step : String} (rest : List String) (u : Tree)
    (value : t.parts.get? step = some part) :
    (t.replaceAt (step :: rest) u).parts.get? step = some (part.replaceAt rest u) := by
  cases t with
  | array items =>
    obtain ⟨index, bound, at_step⟩ := List.mem_mapIdx.1 (Members.mem_of_get? value)
    cases at_step
    simp [replaceAt, get?_parts_array, bound]
  | object ms =>
    replace value : Members.get? ms step = some part := value
    have mapped := Members.get?_map ms (fun k t => if k = step then t.replaceAt rest u else t) step
    rw [value, Option.map_some, if_pos rfl] at mapped
    exact mapped
  | _ => cases value

theorem at?_replaceAt {t old : Tree} {steps : List String} (u : Tree)
    (found : t.at? steps = some old) : (t.replaceAt steps u).at? steps = some u := by
  induction steps generalizing t with
  | nil => rfl
  | cons step rest ih =>
    rw [at?_cons, Option.bind_eq_some_iff] at found
    obtain ⟨part, value, inside⟩ := found
    rw [at?_cons, get?_parts_replaceAt rest u value]
    exact ih inside

/-- A tree whose numbers are numbers stays equal to itself when a node gives way to an equal one. -/
theorem equal_replaceAt {t old u : Tree} {steps : List String} (wellFormed : t.WellFormed)
    (nanFree : t.NaNFree) (found : t.at? steps = some old) (same : old.equal u = true) :
    t.equal (t.replaceAt steps u) = true := by
  induction steps generalizing t with
  | nil =>
    cases found
    exact same
  | cons step rest ih =>
    rw [at?_cons, Option.bind_eq_some_iff] at found
    obtain ⟨part, value, inside⟩ := found
    cases t with
    | array items =>
      refine equal_array_iff.2 (List.forall₂_iff_get.2 ⟨by simp, fun index bound _ => ?_⟩)
      have mem : items[index] ∈ items := List.getElem_mem bound
      have formed := wellFormed.of_mem_items mem
      have numbers := nanFree_array_iff.1 nanFree _ mem
      simp only [List.get_eq_getElem, List.getElem_mapIdx]
      split
      · next here =>
        subst here
        rw [get?_parts_array, List.getElem?_eq_getElem bound, Option.some.injEq] at value
        exact ih formed numbers (value ▸ inside)
      · exact (equal_self_iff formed).2 numbers
    | object ms =>
      have keys : Members.keys (ms.map fun m =>
          (m.1, if m.1 = step then m.2.replaceAt rest u else m.2)) = Members.keys ms := by
        simp [Members.keys, Function.comp_def]
      refine equal_object_iff.2 ⟨fun key => keys ▸ Iff.rfl, fun m mem => ?_⟩
      have formed := wellFormed.of_mem_members mem
      have numbers := nanFree_object_iff.1 nanFree m mem
      have value' := Members.get?_of_mem wellFormed.nodup mem
      rw [Members.get?_map ms fun k t => if k = step then t.replaceAt rest u else t, value']
      refine ⟨_, rfl, ?_⟩
      split
      · next here =>
        subst here
        cases value'.symm.trans value
        exact ih formed numbers inside
      · exact (equal_self_iff formed).2 numbers
    | _ => cases value

/-! ### Equality -/

theorem equal_symm {a b : Tree} (wellFormed : a.WellFormed) (wellFormed' : b.WellFormed)
    (same : a.equal b = true) : b.equal a = true :=
  (equal_iff_matches wellFormed' wellFormed).2
    (Same.of_equal wellFormed wellFormed' same).symm.matching

theorem equal_trans {a b c : Tree} (wellFormed : a.WellFormed) (wellFormed' : b.WellFormed)
    (wellFormed'' : c.WellFormed) (same : a.equal b = true) (same' : b.equal c = true) :
    a.equal c = true := by
  have first := (equal_iff_matches wellFormed wellFormed').1 same
  have second := (equal_iff_matches wellFormed' wellFormed'').1 same'
  exact (equal_iff_matches wellFormed wellFormed'').2
    (first.trans second fun _ _ _ => Number.equal_trans)

theorem equal_of_reordered {a a' b b' : Tree} (wellFormed : a.WellFormed)
    (wellFormed' : b.WellFormed) (left : a.Reordered a') (right : b.Reordered b')
    (same : a.equal b = true) : a'.equal b' = true := by
  have matching := (equal_iff_matches wellFormed wellFormed').1 same
  refine (equal_iff_matches (left.wellFormed wellFormed) (right.wellFormed wellFormed')).2 ?_
  have back : a'.Reordered a := left.symm fun _ _ => Eq.symm
  exact (back.trans matching fun _ _ _ here value => here ▸ value).trans right
    fun _ _ _ value here => here ▸ value

/-- Equality of trees is symmetric and transitive, and holds of a tree and itself just when every
number in the tree is one. Reordering keys does not change it. A number may give way, at any depth,
to one of the same exact value, an integer to a double as well as a double to an integer; but never
to a boolean. -/
theorem equal_partial_equivalence {a b c : Tree} (wellFormed : a.WellFormed)
    (wellFormed' : b.WellFormed) (wellFormed'' : c.WellFormed) :
    a.equal b = b.equal a ∧
    (a.equal b = true → b.equal c = true → a.equal c = true) ∧
    (a.equal a = true ↔ a.NaNFree) ∧
    (∀ a' b', a.Reordered a' → b.Reordered b' → a'.equal b' = a.equal b) ∧
    (a.NaNFree → ∀ steps x y q, a.at? steps = some (.number x) →
      x.toRat? = some q → y.toRat? = some q → a.equal (a.replaceAt steps (.number y)) = true) ∧
    (∀ steps x bit, a.at? steps = some (.number x) →
      a.equal (a.replaceAt steps (.bool bit)) = false) := by
  refine ⟨Bool.eq_iff_iff.2 ⟨?_, ?_⟩, equal_trans wellFormed wellFormed' wellFormed'',
    equal_self_iff wellFormed, ?_, ?_, ?_⟩
  · exact equal_symm wellFormed wellFormed'
  · exact equal_symm wellFormed' wellFormed
  · intro a' b' left right
    refine Bool.eq_iff_iff.2 ⟨?_, equal_of_reordered wellFormed wellFormed' left right⟩
    exact equal_of_reordered (left.wellFormed wellFormed) (right.wellFormed wellFormed')
      (left.symm fun _ _ => Eq.symm) (right.symm fun _ _ => Eq.symm)
  · intro nanFree steps x y q found value value'
    exact equal_replaceAt wellFormed nanFree found (Number.equal_of_toRat? value value')
  · intro steps x bit found
    -- Equal trees would have equal nodes there, and a number never equals a boolean.
    refine Bool.eq_false_iff.2 fun same => ?_
    obtain ⟨u, found', same⟩ := exists_at?_of_equal same found
    cases (at?_replaceAt _ found).symm.trans found'
    cases same

/-- A parcel, the same with its keys in the other order, and with its size as a double. -/
def parcel : Tree :=
  .object [("size", .array [.number (.int 2), .null]), ("fragile", .bool true)]

def parcelReordered : Tree :=
  .object [("fragile", .bool true), ("size", .array [.number (.int 2), .null])]

def parcelRetyped : Tree :=
  .object [("size", .array [.number (.double (.ofInt 2)), .null]), ("fragile", .bool true)]

theorem equal_partial_equivalence_parcel :
    parcel.equal parcelRetyped = true ∧ parcelRetyped.equal parcel = true ∧
      parcel.equal parcelReordered = true ∧ parcelReordered.equal parcelRetyped = true ∧
      parcel.NaNFree ∧
      parcelRetyped = parcel.replaceAt ["size", "0"] (.number (.double (.ofInt 2))) ∧
      parcel.equal (parcel.replaceAt ["size", "0"] (.bool true)) = false := by
  have formed : parcel.WellFormed ∧ parcelRetyped.WellFormed ∧ parcelReordered.WellFormed := by
    simp [parcel, parcelRetyped, parcelReordered, WellFormed, WellFormedItems, WellFormedMembers,
      Members.keys]
  obtain ⟨symmetric, transitive, reflexive, reordered, retyped, masked⟩ :=
    equal_partial_equivalence formed.1 formed.2.1 formed.2.2
  have nanFree : parcel.NaNFree := reflexive.1 rfl
  have found : parcel.at? ["size", "0"] = some (.number (.int 2)) := rfl
  have same : parcel.equal parcelRetyped = true := retyped nanFree _ _ _ 2 found rfl rfl
  have swapped : parcel.Reordered parcelReordered :=
    .object ⟨.cons (.intro (.refl _)) (.cons (.intro (.refl _)) .nil), .swap ..⟩
  exact ⟨same, symmetric ▸ same, transitive same rfl, reordered _ _ swapped (.refl _) ▸ same,
    nanFree, rfl, masked _ _ _ found⟩

end Tree

end TreeSchema
