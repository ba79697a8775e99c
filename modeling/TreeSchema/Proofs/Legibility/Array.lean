import TreeSchema.Proofs.Legibility.Node

/-!
What the stages for arrays attest. An array without items keeps nothing from being read:
what is allowed beyond the places is read before the items are gone through. It is read
only where `items` lists schemas for places.
-/

namespace TreeSchema

/-- The runs on items come to their ends. -/
structure ItemsEnded (options : Options) (s : Members) (n : Tree) : Prop where
  items : ∀ m, s.get? "items" = some (.object m) → ∀ (index : Nat) u,
    n.items[index]? = some u → Ended options u (.object m)
  places : ∀ schemas, s.get? "items" = some (.array schemas) → ∀ (index : Nat) u,
    n.items[index]? = some u → ∀ t, schemas[index]? = some t → Ended options u t
  additional : ∀ schemas, s.get? "items" = some (.array schemas) → ∀ (index : Nat) u,
    n.items[index]? = some u → ∀ m, s.get? "additionalItems" = some (.object m) →
      schemas[index]? = none → Ended options u (.object m)

variable {options : Options} {s : Members} {d n : Tree} {blame : Fault → Prop}

theorem ItemsEnded.of_no_items (none : n.items = []) : ItemsEnded options s n := by
  constructor <;> simp [none]

namespace Stage

theorem Attests.eachItem {f : Nat → Stage} {P : Nat → Prop}
    (each : ∀ index, Attests blame (P index) (f index) n n) :
    Attests blame (∀ index u, n.items[index]? = some u → P index) (eachItem f) n n := by
  have all : Attests blame (∀ index ∈ List.range n.items.length, P index)
      (sequence ((List.range n.items.length).map f)) n n := .map fun index _ => each index
  refine (all.mono fun holds index u value => ?_).at_node fun _ => rfl
  exact holds index (List.mem_range.2 (List.getElem?_eq_some_iff.1 value).1)

theorem attests_visitItem {t : Tree} {path : Pointer} {index : Nat}
    (counted : n = d.counted options s)
    (consults : ∀ u, n.items[index]? = some u → Consults options s n u t path) :
    Attests (Stems options s d) (∀ u, n.items[index]? = some u → Ended options u t)
      (visitItem run (.collecting options false) t path index) n n := by
  match found : n.items[index]? with
  | none => exact (Attests.skip fun _ => nofun).at_node fun _ => visitItem_of_none found ..
  | some u =>
    have part := attests_part counted (consults u found) (n.putItem index) (.index index)
    refine (part.mono fun ended v value => ?_).at_node fun _ => visitItem_of_some found ..
    cases value
    exact ended

theorem attests_checkPlace {schemas : List Tree} {policy : Additional} (index : Nat)
    (counted : n = d.counted options s) (found : s.get? "items" = some (.array schemas))
    (read : additionalItems s = .ok policy) :
    Attests (Stems options s d)
      (∀ u, n.items[index]? = some u → (∀ t, schemas[index]? = some t → Ended options u t) ∧
        ∀ m, s.get? "additionalItems" = some (.object m) → schemas[index]? = none →
          Ended options u (.object m))
      (checkPlace run (.collecting options false) schemas policy index) n n := by
  unfold checkPlace
  match place : schemas[index]? with
  | some t =>
    have part := attests_visitItem counted fun u value => .place found place value
    refine part.mono fun ended u value => ⟨fun t' place' => ?_, fun _ _ => nofun⟩
    cases place'
    exact ended u value
  | none =>
    have reads {m : Members} (beyond : s.get? "additionalItems" = some (.object m)) :
        policy = .schema m := by
      simpa [additionalItems, beyond, Additional.ofTree?] using read.symm
    cases policy with
    | any => exact .skip fun _ _ => ⟨fun _ => nofun, fun _ beyond => nomatch reads beyond⟩
    | forbidden => exact .reject _ fun _ _ => ⟨fun _ => nofun, fun _ beyond => nomatch reads beyond⟩
    | schema m =>
      have part := attests_visitItem counted fun u value =>
        .additionalItem found place (additionalItems_eq_object read) value
      refine part.mono fun ended u value => ⟨fun _ => nofun, fun m' beyond _ => ?_⟩
      cases reads beyond
      exact ended u value

theorem attests_additionalItems (kind : d.kind = .array) {schemas : List Tree}
    (found : s.get? "items" = some (.array schemas)) :
    TreeSchema.Attests (Stems options s d) (s.Fits ⟨"additionalItems", Tree.isAdditional⟩)
      (additionalItems s) := by
  have concerns : ⟨"additionalItems", Tree.isAdditional⟩ ∈ s.shapes d.kind :=
    concerns_of_kind kind (by simp [Members.shapesOfKind, found, Tree.isArray])
  unfold additionalItems
  split
  · next absent => exact .ok (Members.fits_of_none absent)
  · next t beyond =>
    split
    · next policy read =>
      exact .ok (Members.fits_of_some beyond (by simp [Tree.isAdditional, read]))
    · next unread =>
      exact .fault (.keyword concerns beyond (by simp [Tree.isAdditional, unread]))

theorem attests_checkItems (kind : d.kind = .array) (counted : n = d.counted options s) :
    Attests (Stems options s d)
      ((s.Fits ⟨"items", Tree.isItems⟩ ∧ ((s.get? "items").any Tree.isArray = true →
          s.Fits ⟨"additionalItems", Tree.isAdditional⟩)) ∧ ItemsEnded options s n)
      (checkItems run (.collecting options false) s) n n := by
  have concerns : ⟨"items", Tree.isItems⟩ ∈ s.shapes d.kind :=
    concerns_of_kind kind
  unfold checkItems
  split
  · next absent =>
    exact .skip ⟨⟨Members.fits_of_none absent, by simp [absent]⟩,
      ⟨by simp [absent], by simp [absent], by simp [absent]⟩⟩
  · next m found =>
    have each (index : Nat) : Attests (Stems options s d)
        (∀ u, n.items[index]? = some u → Ended options u (.object m))
        (visitItem run (.collecting options false) (.object m) (.key "items") index) n n :=
      attests_visitItem counted fun u value => .items found value
    refine (Attests.eachItem each).mono fun ended =>
      ⟨⟨Members.fits_of_some found rfl, by simp [found, Tree.isArray]⟩, ?_⟩
    refine ⟨fun m' found' index u value => ?_, by simp [found], by simp [found]⟩
    cases found.symm.trans found'
    exact ended index u value u value
  · next schemas found =>
    have read : TreeSchema.Attests (Stems options s d) _ (additionalItems s) :=
      attests_additionalItems kind found
    have each (policy : Additional) (read : additionalItems s = .ok policy) :=
      Attests.eachItem fun index => attests_checkPlace index counted found read
    refine (Attests.reading read each).mono ?_
    rintro ⟨fits, ended⟩
    refine ⟨⟨Members.fits_of_some found rfl, fun _ => fits⟩, by simp [found],
      fun schemas' found' index u value => ?_, fun schemas' found' index u value => ?_⟩
    · cases found.symm.trans found'
      exact (ended index u value u value).1
    · cases found.symm.trans found'
      exact (ended index u value u value).2
  · next v other others found =>
    refine .malformed (.keyword concerns found ?_)
    cases v with
    | object m => exact absurd rfl (other m)
    | array schemas => exact absurd rfl (others schemas)
    | _ => rfl

theorem attests_checkArray :
    Attests (Stems options s d)
      ((d.kind = .array → ∀ x ∈ s.shapesOfKind .array, s.Fits x) ∧
        ItemsEnded options s (d.counted options s))
      (checkArray run (.collecting options false) s) (d.counted options s)
      (d.counted options s) := by
  cases d with
  | array items =>
    let d := Tree.array items
    have array : d.kind = .array := rfl
    have stages : Attests (Stems options s d) _
        (sequence [checkItems run (.collecting options false) s,
          checkConstraints (.collecting options false) (Constraint.ofArrays s)]) d d :=
      (attests_checkItems array rfl).cons <|
        (attests_checkConstraints (Constraint.attests_ofArrays array)).cons .nil
    refine (stages.mono ?_).at_node fun _ => rfl
    rintro ⟨⟨⟨fits, more⟩, ended⟩, limits, -⟩
    refine ⟨fun _ => ?_, ended⟩
    simp only [Members.shapesOfKind, List.forall_mem_append, List.forall_mem_cons]
    refine ⟨⟨fits, limits.1, limits.2, List.forall_mem_nil _⟩, ?_⟩
    split
    · next places => exact List.forall_mem_singleton.2 (more places)
    · exact List.forall_mem_nil _
  | _ =>
    refine (Attests.skip ⟨fun kind => ?_, .of_no_items rfl⟩).at_node fun _ => rfl
    cases kind

end Stage

end TreeSchema
