import TreeSchema.Proofs.Mirroring.Node

/-!
Stages for arrays, side by side. Items keep their order, and so do the schemas of
places.
-/

namespace TreeSchema

theorem getElem?_cases {α β : Type} {R : α → β → Prop} {xs : List α} {ys : List β}
    (each : List.Forall₂ R xs ys) (index : Nat) : xs[index]? = none ∧ ys[index]? = none ∨
      ∃ x y, xs[index]? = some x ∧ ys[index]? = some y ∧ R x y := by
  induction each generalizing index with
  | nil => exact .inl ⟨rfl, rfl⟩
  | cons related _ ih =>
    cases index with
    | zero => exact .inr ⟨_, _, rfl, rfl, related⟩
    | succ index => exact ih index

theorem Tree.Same.forall₂_items {n n' : Tree} (same : n.Same n') :
    List.Forall₂ Tree.Same n.items n'.items := by
  have matching := same.matching
  cases matching with
  | array => exact same.items
  | _ => exact .nil

namespace Stage.Mirrors

variable {options : Options} {n n' : Tree} {s s' : Members}

theorem visitItem {t t' : Tree} (alike : Alike options t t') (same : n.Same n') (path : Pointer)
    (index : Nat) :
    Mirrors (visitItem run (.collecting options false) t path index)
      (Stage.visitItem run (.collecting options false) t' path index) n n' n n' := by
  obtain ⟨found, found'⟩ | ⟨u, u', found, found', part⟩ :=
    getElem?_cases same.forall₂_items index
  · exact skip.at_node (fun _ => visitItem_of_none found ..) fun _ => visitItem_of_none found' ..
  · exact (join (alike u u' part) (n.putItem index) (n'.putItem index) _ _).at_node
      (fun _ => visitItem_of_some found ..) fun _ => visitItem_of_some found' ..

theorem eachItem {f g : Nat → Stage} (same : n.Same n')
    (each : ∀ index, Mirrors (f index) (g index) n n' n n') :
    Mirrors (eachItem f) (Stage.eachItem g) n n' n n' := by
  have indices : (List.range n.items.length).Perm (List.range n'.items.length) :=
    same.forall₂_items.length_eq ▸ .refl _
  exact (perm indices each).at_node (fun _ => rfl) fun _ => rfl

variable (h : Twins options s s') (same : n.Same n')

include h same

theorem checkPlace {schemas schemas' : List Tree} {policy policy' : Additional}
    (found : s.get? "items" = some (.array schemas))
    (places : List.Forall₂ Tree.Reordered schemas schemas') (alike : policy.Alike options policy')
    (index : Nat) :
    Mirrors (checkPlace run (.collecting options false) schemas policy index)
      (Stage.checkPlace run (.collecting options false) schemas' policy' index) n n' n n' := by
  unfold Stage.checkPlace
  rw [places.length_eq]
  obtain ⟨beyond, beyond'⟩ | ⟨t, t', place, place', reordered⟩ := getElem?_cases places index
  · simp only [beyond, beyond']
    cases alike with
    | any => exact skip
    | schema alike => exact visitItem alike same ..
    | forbidden => exact reject options _
  · simp only [place, place']
    have alike := h.parts t t' (.place found (List.mem_of_getElem? place)) reordered
    exact visitItem alike same ..

theorem checkItems :
    Mirrors (checkItems run (.collecting options false) s)
      (Stage.checkItems run (.collecting options false) s') n n' n n' := by
  unfold Stage.checkItems
  obtain ⟨found, found'⟩ | ⟨t, t', found, found', reordered⟩ := h.get?_cases "items"
  · simp only [found, found']
    exact skip
  · simp only [found, found']
    cases reordered with
    | object members =>
      have alike := h.parts _ _ (.items found) (.object members)
      exact eachItem same fun index => visitItem alike same _ index
    | array places =>
      dsimp only
      unfold additionalItems
      obtain ⟨beyond, beyond'⟩ | ⟨t, t', beyond, beyond', reordered⟩ :=
        h.get?_cases "additionalItems"
      · simp only [beyond, beyond']
        exact eachItem same (checkPlace h same found places .any)
      · simp only [beyond, beyond']
        have alike (m : Members) (eq : t = .object m) : Alike options t t' :=
          h.parts _ _ (eq ▸ .additionalItem (eq ▸ beyond)) reordered
        obtain ⟨read, read'⟩ | ⟨policy, policy', read, read', alike⟩ :=
          Additional.read_cases reordered alike
        · simp only [read, read']
          exact interrupt _ _
        · simp only [read, read']
          exact eachItem same (checkPlace h same found places alike)
    | _ => exact malformed ..

theorem checkArray :
    Mirrors (checkArray run (.collecting options false) s)
      (Stage.checkArray run (.collecting options false) s') n n' n n' := by
  have matching := same.matching
  cases matching with
  | array items =>
    have lengths := checkConstraints options (Constraint.readAlike_ofArrays h) same
    exact ((checkItems h same).cons (lengths.cons nil)).at_node (fun _ => rfl) fun _ => rfl
  | _ => exact skip.at_node (fun _ => rfl) fun _ => rfl

end Stage.Mirrors

end TreeSchema
