import TreeSchema.Proofs.Settling.Basic

/-!
Arrays that coercion has settled. Each turn of the loop over the items rewrites
one item, so the length stays and no item is rewritten twice.
-/

namespace TreeSchema

def Tree.IsArray (t : Tree) : Prop :=
  ∃ items, t = .array items

namespace Stage

variable {options : Options} {s : Members} {node after v : Tree} {index : Nat}

/-! ### Items -/

/-- What a turn at an index does to an array: the item there is made good, the others are kept. -/
structure Rewrites (P : Tree → Prop) (index : Nat) (node after : Tree) : Prop where
  array : node.IsArray → after.IsArray
  length : after.items.length = node.items.length
  others : ∀ other, other ≠ index → after.items[other]? = node.items[other]?
  good : ∀ u, after.items[index]? = some u → P u

namespace Rewrites

variable {P Q : Tree → Prop}

theorem same (good : ∀ u, node.items[index]? = some u → P u) : Rewrites P index node node :=
  ⟨id, rfl, fun _ _ => rfl, good⟩

theorem imp (h : Rewrites P index node after) (weaker : ∀ u, P u → Q u) :
    Rewrites Q index node after :=
  ⟨h.array, h.length, h.others, fun u value => weaker u (h.good u value)⟩

end Rewrites

theorem passes_visitItem {t : Tree} {path : Pointer} (part : Settles options t)
    (passes : Passes (visitItem run (.collecting options true) t path index) node after) :
    Rewrites (Settled options t) index node after := by
  match found : node.items[index]? with
  | none =>
    rw [passes_congr (visitItem_of_none found ..), passes_skip] at passes
    subst passes
    exact .same fun u value => nomatch found.symm.trans value
  | some d =>
    rw [passes_congr (visitItem_of_some found ..),
      passes_join (Config.collecting_remembers options true)] at passes
    obtain ⟨passed, eq⟩ := passes
    obtain ⟨items, rfl⟩ : node.IsArray := ⟨_, Tree.eq_array_of_getElem? found⟩
    obtain ⟨bound, -⟩ := List.getElem?_eq_some_iff.1 found
    subst eq
    refine ⟨fun _ => ⟨_, rfl⟩, List.length_set, fun other ne => ?_, fun u value => ?_⟩
    · exact List.getElem?_set_ne ne.symm
    · have written : some (run (.collecting options true) d t).node = some u :=
        (List.getElem?_set_self bound).symm.trans value
      cases written
      exact part d passed

theorem settled_visitItem {t : Tree} (settled : ∀ u, node.items[index]? = some u →
    Settled options t u) (path : Pointer) (coercing : Bool) :
    Passes (visitItem run (.collecting options coercing) t path index) node node := by
  match found : node.items[index]? with
  | none => exact (passes_congr (visitItem_of_none found ..)).2 (passes_skip.2 rfl)
  | some u =>
    obtain ⟨passed, same⟩ := settled u found coercing
    rw [passes_congr (visitItem_of_some found ..),
      passes_join (Config.collecting_remembers options coercing), same]
    refine ⟨passed, ?_⟩
    split
    · exact (Tree.putItem_of_getElem? found).symm
    · rfl

theorem passes_eachItem {f : Nat → Stage} {P : Nat → Tree → Prop} (keeps : ∀ index, Keeps (f index))
    (turn : ∀ index n n', Passes (f index) n n' → Rewrites (P index) index n n')
    (array : node.IsArray) (passes : Passes (eachItem f) node after) :
    after.IsArray ∧ ∀ (index : Nat) u, after.items[index]? = some u → P index u := by
  have loop : Passes (sequence ((List.range node.items.length).map f)) node after := passes
  have seen := passes_map
    (I := fun n => n.IsArray ∧ n.items.length = node.items.length)
    (G := fun index n => ∀ u, n.items[index]? = some u → P index u)
    keeps
    (fun index _ n n' inv turns => by
      have h := turn index n n' turns
      exact ⟨⟨h.array inv.1, h.length.trans inv.2⟩, h.good⟩)
    (List.nodup_range.imp fun ne n n' _ good turns u value =>
      good u ((turn _ n n' turns).others _ ne ▸ value))
    ⟨array, rfl⟩ loop
  refine ⟨seen.1.1, fun index u value => seen.2 index ?_ u value⟩
  obtain ⟨bound, -⟩ := List.getElem?_eq_some_iff.1 value
  exact List.mem_range.2 (seen.1.2 ▸ bound)

theorem settled_eachItem {f : Nat → Stage}
    (turn : ∀ (index : Nat) u, v.items[index]? = some u → Passes (f index) v v) :
    Passes (eachItem f) v v := by
  have each : ∀ stage ∈ (List.range v.items.length).map f, Passes stage v v := by
    intro stage mem
    obtain ⟨index, among, rfl⟩ := List.mem_map.1 mem
    exact turn index _ (List.getElem?_eq_getElem (List.mem_range.1 among))
  exact (passes_congr rfl).2 (passes_sequence_same each)

/-! ### Places -/

/-- What is settled at a place: the item, by the schema there or else by what is allowed beyond. -/
def SettledPlace (options : Options) (schemas : List Tree) (policy : Additional) (index : Nat)
    (u : Tree) : Prop :=
  (∀ t, schemas[index]? = some t → Settled options t u) ∧
    (schemas[index]? = none → policy.LetsStand options u)

section

variable {schemas : List Tree} {policy : Additional}

theorem passes_checkPlace (places : ∀ t ∈ schemas, Settles options t)
    (part : ∀ m, policy = .schema m → Settles options (.object m))
    (passes : Passes (checkPlace run (.collecting options true) schemas policy index) node after) :
    Rewrites (SettledPlace options schemas policy index) index node after := by
  unfold checkPlace at passes
  split at passes
  · next t place =>
    refine (passes_visitItem (places t (List.mem_of_getElem? place)) passes).imp fun u settled => ?_
    simpa [SettledPlace, place] using settled
  · next past =>
    cases policy with
    | any =>
      have same : after = node := passes_skip.1 passes
      subst same
      exact .same fun u _ => by simp [SettledPlace, Additional.LetsStand, past]
    | schema m =>
      refine (passes_visitItem (part m rfl) passes).imp fun u settled => ?_
      simpa [SettledPlace, Additional.LetsStand, past] using settled
    | forbidden =>
      exact absurd passes (not_passes_reject (Config.collecting_remembers options true) _)

theorem settled_checkPlace {u : Tree} (value : v.items[index]? = some u)
    (settled : SettledPlace options schemas policy index u) (coercing : Bool) :
    Passes (checkPlace run (.collecting options coercing) schemas policy index) v v := by
  have visited {t : Tree} (settled : Settled options t u) (path : Pointer) :
      Passes (visitItem run (.collecting options coercing) t path index) v v := by
    refine settled_visitItem (fun w value' => ?_) path coercing
    cases value.symm.trans value'
    exact settled
  unfold checkPlace
  split
  · next t place => exact visited (settled.1 t place) _
  · next past =>
    cases policy with
    | any => exact passes_skip.2 rfl
    | schema m => exact visited ((settled.2 past).2 m rfl) _
    | forbidden => exact absurd rfl (settled.2 past).1

end

/-! ### All of it -/

/-- Every item is settled by what is asked of it. -/
theorem passes_checkItems (parts : ∀ t, SubSchema s t → Settles options t)
    (array : node.IsArray)
    (passes : Passes (checkItems run (.collecting options true) s) node after) :
    after.IsArray ∧ ConformsArray (Settled options) s after.items := by
  have walk := keeps_walk options true
  unfold checkItems at passes
  split at passes
  · next absent =>
    rw [passes_skip] at passes
    subst passes
    exact ⟨array, ⟨by simp [absent], by simp [absent], by simp [absent]⟩⟩
  · next m found =>
    have part : Settles options (.object m) := parts _ (.items found)
    obtain ⟨array, settled⟩ := passes_eachItem
      (fun index => walk.visitItem (keeps_parts options true _) _ index)
      (fun index n n' turns => passes_visitItem part turns) array passes
    refine ⟨array, ⟨fun m' found' u mem => ?_, fun _ found' => (nomatch found.symm.trans found'),
      fun _ found' => (nomatch found.symm.trans found')⟩⟩
    cases found.symm.trans found'
    obtain ⟨index, value⟩ := List.getElem?_of_mem mem
    exact settled index u value
  · next schemas found =>
    obtain ⟨policy, read, passes⟩ := passes_reading.1 passes
    have part (m : Members) (eq : policy = .schema m) : Settles options (.object m) := by
      subst eq
      exact parts _ (.additionalItem (additionalItems_eq_object read))
    obtain ⟨array, settled⟩ := passes_eachItem
      (fun index => walk.checkPlace (fun _ _ => keeps_parts options true _)
        (fun _ _ => keeps_parts options true _) index)
      (fun index n n' turns =>
        passes_checkPlace (fun t mem => parts t (.place found mem)) part turns) array passes
    refine ⟨array, ⟨fun _ found' => (nomatch found.symm.trans found'), fun schemas' found' => ?_,
      fun schemas' found' => ?_⟩⟩
    · cases found.symm.trans found'
      exact fun index t u place value => (settled index u value).1 t place
    · cases found.symm.trans found'
      exact fun index u past value =>
        (admits_iff_of_additionalItems read).2 ((settled index u value).2 past)
  · exact absurd passes not_passes_malformed

theorem settled_checkItems
    (passes : Passes (checkItems run (.collecting options true) s) node after)
    (settled : ConformsArray (Settled options) s v.items) (coercing : Bool) :
    Passes (checkItems run (.collecting options coercing) s) v v := by
  unfold checkItems at passes ⊢
  split at passes
  · exact passes_skip.2 rfl
  · next m found =>
    refine settled_eachItem fun index u value => settled_visitItem (fun w value' => ?_) ..
    exact settled.uniform m found w (List.mem_of_getElem? value')
  · next schemas found =>
    obtain ⟨policy, read, -⟩ := passes_reading.1 passes
    rw [read, reading_ok]
    refine settled_eachItem fun index u value => settled_checkPlace value ⟨?_, ?_⟩ coercing
    · exact fun t place => settled.places schemas found index t u place value
    · exact fun past =>
        (admits_iff_of_additionalItems read).1 (settled.beyond schemas found index u past value)
  · exact absurd passes not_passes_malformed

theorem settled_checkArray (parts : ∀ t, SubSchema s t → Settles options t) {items : List Tree}
    (passes : Passes (checkArray run (.collecting options true) s) (.array items) after) :
    ∃ items', after = .array items' ∧ ∀ coercing,
      Passes (checkArray run (.collecting options coercing) s) after after := by
  have keeps : Keeps (checkConstraints (.collecting options true) (Constraint.ofArrays s)) :=
    (keeps_walk options true).checkConstraints _
  have both : Passes (sequence [checkItems run (.collecting options true) s,
      checkConstraints (.collecting options true) (Constraint.ofArrays s)]) (.array items) after :=
    passes
  obtain ⟨mid, visits, limits⟩ := (passes_cons (.sequence (by simpa using keeps))).1 both
  rw [sequence_singleton] at limits
  obtain ⟨judged, rfl⟩ := passes_checkConstraints_iff.1 limits
  obtain ⟨⟨items', rfl⟩, settled⟩ := passes_checkItems parts ⟨items, rfl⟩ visits
  refine ⟨items', rfl, fun coercing => (passes_congr rfl).2 (passes_sequence_same ?_)⟩
  intro stage mem
  simp only [List.mem_cons, List.not_mem_nil, or_false] at mem
  rcases mem with rfl | rfl
  · exact settled_checkItems visits settled coercing
  · exact passes_checkConstraints_iff.2 ⟨judged, rfl⟩

end Stage

end TreeSchema
