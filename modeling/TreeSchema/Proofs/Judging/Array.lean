import TreeSchema.Proofs.Judging.Basic

/-!
What the stages for arrays judge: what is asked at the index of an item is asked
of the item.
-/

namespace TreeSchema.Stage

variable {options : Options} {v : Visit} {sat : Tree → Tree → Prop} {node : Tree} {s : Members}

theorem judges_visitItem {t : Tree} (part : Decides options v sat t) (path : Pointer)
    (index : Nat) :
    Judges (visitItem v (.collecting options false) t path index) node node
      (∀ u, node.items[index]? = some u → sat t u) := by
  match found : node.items[index]? with
  | none =>
    exact (Judges.skip.iff (by simp)).at_node fun _ => visitItem_of_none found ..
  | some u =>
    have joined : Judges (Stage.join (.collecting options false) (v (.collecting options false) u t)
        (node.putItem index) (.index index) path) node node (sat t u) :=
      .join options (part u) (node.putItem index) (.index index) path
    exact (joined.iff (by simp)).at_node fun _ => visitItem_of_some found ..

theorem judges_eachItem {f : Nat → Stage} {P : Nat → Tree → Prop}
    (each : ∀ index u, node.items[index]? = some u → Judges (f index) node node (P index u)) :
    Judges (eachItem f) node node (∀ index u, node.items[index]? = some u → P index u) := by
  have all : ∀ index ∈ List.range node.items.length,
      Judges (f index) node node (∀ u, node.items[index]? = some u → P index u) := by
    intro index mem
    obtain ⟨u, found⟩ : ∃ u, node.items[index]? = some u :=
      ⟨_, List.getElem?_eq_getElem (List.mem_range.1 mem)⟩
    exact (each index u found).iff (by simp [found])
  refine Judges.at_node ((Judges.map all).iff ⟨fun h index u found => ?_, fun h index _ => h index⟩)
    fun _ => rfl
  exact h index (List.mem_range.2 (List.getElem?_eq_some_iff.1 found).1) u found

theorem judges_checkPlace {schemas : List Tree} {policy : Additional}
    (places : ∀ t ∈ schemas, Decides options v sat t)
    (part : ∀ m, policy = .schema m → Decides options v sat (.object m)) {index : Nat} {u : Tree}
    (value : node.items[index]? = some u) :
    Judges (checkPlace v (.collecting options false) schemas policy index) node node
      ((∀ t, schemas[index]? = some t → sat t u) ∧ (schemas[index]? = none →
        policy ≠ .forbidden ∧ ∀ m, policy = .schema m → sat (.object m) u)) := by
  unfold checkPlace
  split
  · next t place =>
    exact (judges_visitItem (places t (List.mem_of_getElem? place)) _ index).iff
      (by simp [place, value])
  · next past =>
    cases policy with
    | any => exact Judges.skip.iff (by simp [past])
    | schema m => exact (judges_visitItem (part m rfl) _ index).iff (by simp [past, value])
    | forbidden => exact (Judges.reject options node _).iff (by simp [past])

theorem judges_checkItems (parts : ∀ t, SubSchema s t → Decides options v sat t) :
    Judges (checkItems v (.collecting options false) s) node node
      (ConformsArray sat s node.items) := by
  unfold checkItems
  split
  · next absent =>
    exact Judges.skip.iff (iff_of_true trivial ⟨by simp_all, by simp_all, by simp_all⟩)
  · next m found =>
    have each (index : Nat) (u : Tree) (value : node.items[index]? = some u) :
        Judges (visitItem v (.collecting options false) (.object m) (.key "items") index) node node
          (sat (.object m) u) :=
      (judges_visitItem (parts _ (.items found)) _ index).iff (by simp [value])
    refine (judges_eachItem each).iff ⟨fun all => ?_, fun h index u value => ?_⟩
    · refine ⟨fun m' found' u mem => ?_, fun _ found' => (nomatch found.symm.trans found'),
        fun _ found' => (nomatch found.symm.trans found')⟩
      obtain ⟨index, value⟩ := List.getElem?_of_mem mem
      cases found.symm.trans found'
      exact all index u value
    · exact h.uniform m found u (List.mem_of_getElem? value)
  · next schemas found =>
    unfold Stage.reading
    split
    · next policy read =>
      have part (m : Members) (eq : policy = .schema m) : Decides options v sat (.object m) := by
        subst eq
        exact parts _ (.additionalItem (additionalItems_eq_object read))
      have each (index : Nat) (u : Tree) (value : node.items[index]? = some u) :=
        judges_checkPlace (fun t mem => parts t (.place found mem)) part value
      refine (judges_eachItem each).iff ⟨fun all => ?_, fun h index u value => ⟨?_, ?_⟩⟩
      · refine ⟨fun _ found' => (nomatch found.symm.trans found'), fun schemas' found' => ?_,
          fun schemas' found' => ?_⟩
        · cases found.symm.trans found'
          exact fun index t u place value => (all index u value).1 t place
        · cases found.symm.trans found'
          exact fun index u past value =>
            (admits_iff_of_additionalItems read).2 ((all index u value).2 past)
      · exact fun t place => h.places schemas found index t u place value
      · exact fun past =>
          (admits_iff_of_additionalItems read).1 (h.beyond schemas found index u past value)
    · exact .interrupt _
  · exact .malformed _ _

theorem judges_checkArray {items : List Tree}
    (parts : ∀ t, SubSchema s t → Decides options v sat t) :
    Judges (checkArray v (.collecting options false) s) (.array items) (.array items)
      (ConformsArray sat s items ∧ ∀ c, Constraint.Declared s c → c.Holds (.array items)) := by
  have lengths : Judges (checkConstraints (.collecting options false) (Constraint.ofArrays s))
      (.array items) (.array items) (∀ c, Constraint.Declared s c → c.Holds (.array items)) :=
    judges_checkConstraints fun cs read => Constraint.ofArrays_holds_iff read items
  have all := (judges_checkItems parts).cons (lengths.cons .nil)
  exact (all.iff (by simp [Tree.items])).at_node fun _ => rfl

end TreeSchema.Stage
