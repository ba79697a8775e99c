import Mathlib.Data.List.Perm.Basic
import TreeSchema.Finding

/-!
Lists that match in some order. `Rearranges R` pairs the items of two lists by a
relation, whatever the order of the second; two findings are rearrangements of each
other when they tell the same and their groups are, one by one and at any depth.
-/

namespace TreeSchema

/-- Some order of the second list matches the first one item by item. -/
inductive Rearranges {α β : Type} (R : α → β → Prop) : List α → List β → Prop where
  | intro {zs : List β} {xs : List α} {ys : List β} (each : List.Forall₂ R xs zs)
      (perm : zs.Perm ys) : Rearranges R xs ys

theorem forall₂_of_mem {α β : Type} {R S : α → β → Prop} {xs : List α} {ys : List β}
    (each : List.Forall₂ R xs ys) (follows : ∀ x ∈ xs, ∀ y ∈ ys, R x y → S x y) :
    List.Forall₂ S xs ys := by
  obtain ⟨length, related⟩ := List.forall₂_iff_zip.1 each
  refine List.forall₂_iff_zip.2 ⟨length, fun mem => ?_⟩
  obtain ⟨left, right⟩ := List.of_mem_zip mem
  exact follows _ left _ right (related mem)

theorem forall₂_trans {α β γ : Type} {R : α → β → Prop} {S : β → γ → Prop} {T : α → γ → Prop}
    {xs : List α} {ys : List β} {zs : List γ} (first : List.Forall₂ R xs ys)
    (second : List.Forall₂ S ys zs) (follows : ∀ x ∈ xs, ∀ y z, R x y → S y z → T x z) :
    List.Forall₂ T xs zs := by
  induction first generalizing zs with
  | nil =>
    cases second
    exact .nil
  | @cons x y xs ys related _ ih =>
    cases second with
    | cons related' rest =>
      exact .cons (follows x List.mem_cons_self y _ related related')
        (ih rest fun x mem => follows x (List.mem_cons_of_mem _ mem))

namespace Rearranges

section

variable {α β γ δ : Type} {R S : α → β → Prop} {xs xs' : List α} {ys ys' : List β}

theorem in_order (each : List.Forall₂ R xs ys) : Rearranges R xs ys :=
  ⟨each, .refl ys⟩

theorem nil : Rearranges R [] [] :=
  in_order .nil

theorem singleton {x : α} {y : β} (related : R x y) : Rearranges R [x] [y] :=
  in_order (.cons related .nil)

theorem of_perm {R : α → α → Prop} {xs ys : List α} (perm : xs.Perm ys)
    (refl : ∀ x ∈ xs, R x x) : Rearranges R xs ys :=
  ⟨List.forall₂_same.2 refl, perm⟩

theorem of_mem (h : Rearranges R xs ys) (follows : ∀ x ∈ xs, ∀ y ∈ ys, R x y → S x y) :
    Rearranges S xs ys := by
  obtain ⟨each, perm⟩ := h
  exact ⟨forall₂_of_mem each fun x left z right => follows x left z (perm.mem_iff.1 right), perm⟩

theorem perm_right (h : Rearranges R xs ys) (perm : ys.Perm ys') : Rearranges R xs ys' := by
  obtain ⟨each, perm'⟩ := h
  exact ⟨each, perm'.trans perm⟩

theorem append (h : Rearranges R xs ys) (h' : Rearranges R xs' ys') :
    Rearranges R (xs ++ xs') (ys ++ ys') := by
  obtain ⟨each, perm⟩ := h
  obtain ⟨each', perm'⟩ := h'
  exact ⟨List.rel_append each each', perm.append perm'⟩

theorem map {T : γ → δ → Prop} {f : α → γ} {g : β → δ}
    (h : Rearranges (fun x y => T (f x) (g y)) xs ys) : Rearranges T (xs.map f) (ys.map g) := by
  obtain ⟨each, perm⟩ := h
  exact ⟨List.forall₂_map_left_iff.2 (List.forall₂_map_right_iff.2 each), perm.map g⟩

theorem filter {p : α → Bool} {q : β → Bool} (h : Rearranges R xs ys)
    (keeps : ∀ x y, R x y → p x = q y) : Rearranges R (xs.filter p) (ys.filter q) := by
  obtain @⟨zs, _, _, each, perm⟩ := h
  have kept : List.Forall₂ R (xs.filter p) (zs.filter q) :=
    List.rel_filter (fun x y related => Bool.eq_iff_iff.1 (keeps x y related)) each
  exact ⟨kept, perm.filter q⟩

theorem flatMap {T : γ → δ → Prop} {f : α → List γ} {g : β → List δ} (h : Rearranges R xs ys)
    (gives : ∀ x ∈ xs, ∀ y ∈ ys, R x y → Rearranges T (f x) (g y)) :
    Rearranges T (xs.flatMap f) (ys.flatMap g) := by
  obtain @⟨zs, _, _, each, perm⟩ := h
  -- First with the second list in the order of the first, then the order is changed back.
  have ordered : Rearranges T (xs.flatMap f) (zs.flatMap g) := by
    have given := forall₂_of_mem each fun x left z right => gives x left z (perm.mem_iff.1 right)
    clear gives perm each
    induction given with
    | nil => exact nil
    | cons related _ ih => exact related.append ih
  exact ordered.perm_right (perm.flatMap_right g)

theorem perm {xs ys : List α} (h : Rearranges Eq xs ys) : xs.Perm ys := by
  obtain ⟨each, perm⟩ := h
  rw [List.forall₂_eq_eq_eq] at each
  exact each ▸ perm

theorem perm_filterMap {f : α → Option γ} {g : β → Option γ} (h : Rearranges R xs ys)
    (same : ∀ x y, R x y → f x = g y) : (xs.filterMap f).Perm (ys.filterMap g) := by
  have mapped : (xs.map f).Perm (ys.map g) :=
    (h.of_mem fun x _ y _ related => same x y related).map.perm
  rw [← Function.id_comp f, ← Function.id_comp g, ← List.filterMap_map, ← List.filterMap_map]
  exact mapped.filterMap id

theorem length_eq (h : Rearranges R xs ys) : xs.length = ys.length := by
  obtain ⟨each, perm⟩ := h
  exact each.length_eq.trans perm.length_eq

theorem eq_nil_iff (h : Rearranges R xs ys) : xs = [] ↔ ys = [] := by
  rw [← List.length_eq_zero_iff, h.length_eq, List.length_eq_zero_iff]

theorem symm {T : β → α → Prop} (h : Rearranges R xs ys)
    (follows : ∀ x ∈ xs, ∀ y ∈ ys, R x y → T y x) : Rearranges T ys xs := by
  obtain ⟨each, perm⟩ := h
  -- Turned round, the permutation stands in front of the match; it moves behind it.
  have turned : List.Forall₂ T _ xs := List.Forall₂.flip <|
    forall₂_of_mem each fun x left z right => follows x left z (perm.mem_iff.1 right)
  obtain ⟨zs, each', perm'⟩ := List.perm_comp_forall₂ perm.symm turned
  exact ⟨each', perm'⟩

theorem exists_left (h : Rearranges R xs ys) {x : α} (mem : x ∈ xs) : ∃ y ∈ ys, R x y := by
  obtain ⟨each, perm⟩ := h
  obtain ⟨index, bound, rfl⟩ := List.mem_iff_getElem.1 mem
  have partner := each.get bound (each.length_eq ▸ bound)
  exact ⟨_, perm.mem_iff.1 (List.get_mem ..), partner⟩

theorem exists_right (h : Rearranges R xs ys) {y : β} (mem : y ∈ ys) : ∃ x ∈ xs, R x y :=
  (h.symm (T := fun y x => R x y) fun _ _ _ _ => id).exists_left mem

end

theorem trans {α β γ : Type} {R : α → β → Prop} {S : β → γ → Prop} {T : α → γ → Prop}
    {xs : List α} {ys : List β} {zs : List γ} (first : Rearranges R xs ys)
    (second : Rearranges S ys zs) (follows : ∀ x ∈ xs, ∀ y z, R x y → S y z → T x z) :
    Rearranges T xs zs := by
  obtain ⟨each, perm⟩ := first
  obtain ⟨each', perm'⟩ := second
  -- What the second list matches, its other order matches as well.
  obtain ⟨ws, each'', perm''⟩ := List.perm_comp_forall₂ perm each'
  exact ⟨forall₂_trans each each'' follows, perm''.trans perm'⟩

end Rearranges

/-! ### Findings -/

namespace Finding

/-- Induction over a finding: what holds of a finding whenever it holds of those in its groups. -/
theorem induction {motive : Finding → Prop}
    (each : ∀ f : Finding, (∀ group ∈ f.groups, ∀ g ∈ group, motive g) → motive f) (f : Finding) :
    motive f :=
  each f fun group _ g _ => induction each g
termination_by sizeOf f
decreasing_by
  cases f
  have := List.sizeOf_lt_of_mem ‹group ∈ _›
  have := List.sizeOf_lt_of_mem ‹g ∈ group›
  simp only [Finding.mk.sizeOf_spec]
  simp only at *
  omega

/-- The findings tell the same, and so do their groups, one by one and each in some order. -/
inductive Rearranged : Finding → Finding → Prop where
  | intro {code : Code} {dataPath schemaPath : Pointer} {message : String}
      {groups groups' : List (List Finding)}
      (each : List.Forall₂ (Rearranges Rearranged) groups groups') :
      Rearranged ⟨code, dataPath, schemaPath, message, groups⟩
        ⟨code, dataPath, schemaPath, message, groups'⟩

theorem Rearranged.refl (f : Finding) : f.Rearranged f := by
  induction f using Finding.induction with
  | each f inside =>
    cases f
    exact .intro (List.forall₂_same.2 fun group among =>
      .in_order (List.forall₂_same.2 (inside group among)))

theorem Rearranged.under {f g : Finding} (h : f.Rearranged g) (data path : Pointer) :
    (f.under data path).Rearranged (g.under data path) := by
  induction f using Finding.induction generalizing g with
  | each f inside =>
    cases h with
    | intro each =>
      simp only [Finding.under, underGroups_eq_map]
      refine .intro (List.forall₂_map_left_iff.2 (List.forall₂_map_right_iff.2 ?_))
      exact forall₂_of_mem each fun group among _ _ related =>
        (related.of_mem fun f mem _ _ related => inside group among f mem related).map

end Finding

end TreeSchema
