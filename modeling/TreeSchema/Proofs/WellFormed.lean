import TreeSchema.Proofs.Location

/-!
Runs keep trees well formed. A default comes from inside the schema, what a
conversion makes has no parts, and a member is written under its key or under a
new one, so that each key of an object still stands in one place.
-/

namespace TreeSchema

theorem subSchema_of_schemaOfProperties {s m : Members} {key : String}
    (declared : schemaOfProperties s key = some m) : SubSchema s (.object m) := by
  unfold schemaOfProperties at declared
  split at declared
  · next entries found =>
    split at declared
    · next value =>
      cases declared
      exact .property found (Members.mem_of_get? value)
    · cases declared
  · cases declared

theorem mem_of_schemaAmongPatterns {entries m : Members} {key : String}
    (first : schemaAmongPatterns key entries = .ok (some m)) :
    ∃ pattern, (pattern, .object m) ∈ entries := by
  induction entries with
  | nil => cases first
  | cons entry rest ih =>
    obtain ⟨pattern, t⟩ := entry
    have later (first : schemaAmongPatterns key rest = .ok (some m)) :
        ∃ other, (other, .object m) ∈ (pattern, t) :: rest := by
      obtain ⟨other, mem⟩ := ih first
      exact ⟨other, List.mem_cons_of_mem _ mem⟩
    unfold schemaAmongPatterns at first
    split at first
    · cases first
    · exact later first
    · split at first
      · split at first
        · cases first
          exact ⟨pattern, List.mem_cons_self⟩
        · exact later first
      · exact later first

theorem subSchema_of_schemaOfPatterns {s m : Members} {key : String}
    (first : schemaOfPatterns s key = .ok (some m)) : SubSchema s (.object m) := by
  unfold schemaOfPatterns at first
  split at first
  · next entries found =>
    obtain ⟨pattern, mem⟩ := mem_of_schemaAmongPatterns first
    exact .pattern found mem
  · cases first

theorem subSchema_of_schemaOfAdditional {s m : Members}
    (additional : schemaOfAdditional s = some m) : SubSchema s (.object m) := by
  unfold schemaOfAdditional at additional
  split at additional
  · next read =>
    cases additional
    obtain ⟨t, found, read⟩ := Option.bind_eq_some_iff.1 read
    rw [Additional.eq_object read] at found
    exact .additional found
  · cases additional

theorem subSchema_of_propertySchema {s m : Members} {key : String}
    (governs : propertySchema s key = .ok (some m)) : SubSchema s (.object m) := by
  unfold propertySchema at governs
  split at governs
  · next declared =>
    cases governs
    exact subSchema_of_schemaOfProperties declared
  · match first : schemaOfPatterns s key with
    | .error cause =>
      rw [first] at governs
      cases governs
    | .ok (some s') =>
      rw [first] at governs
      cases governs
      exact subSchema_of_schemaOfPatterns first
    | .ok none =>
      rw [first] at governs
      exact subSchema_of_schemaOfAdditional (Except.ok.inj governs)

theorem TypeName.wellFormed_implicitDefault (type : TypeName) :
    type.implicitDefault.WellFormed := by
  cases type with
  | object => exact ⟨List.nodup_nil, trivial⟩
  | _ => exact trivial

theorem Members.wellFormed_of_defaultFor {s : Members} {options : Options} {t : Tree}
    (wellFormed : (Tree.object s).WellFormed) (filled : defaultFor s options = some t) :
    t.WellFormed := by
  unfold defaultFor at filled
  split at filled
  · next found =>
    cases filled
    exact wellFormed_of_get? wellFormed found
  · split at filled
    · cases filled
    · split at filled
      · next type _ _ =>
        cases filled
        exact type.wellFormed_implicitDefault
      · cases filled

theorem wellFormed_of_withDefault? {members s filled : Members} {key : String} {options : Options}
    (wellFormed : (Tree.object s).WellFormed)
    (fills : withDefault? members s key options = .ok (some filled)) :
    ∃ t : Tree, t.WellFormed ∧ filled = members.put key t := by
  unfold withDefault? at fills
  match governs : propertySchema s key with
  | .error cause =>
    rw [governs] at fills
    cases fills
  | .ok none =>
    rw [governs] at fills
    cases fills
  | .ok (some m) =>
    rw [governs] at fills
    obtain ⟨t, default, rfl⟩ := Option.map_eq_some_iff.1 (Except.ok.inj fills)
    have inside := (subSchema_of_propertySchema governs).wellFormed wellFormed
    exact ⟨t, Members.wellFormed_of_defaultFor inside default, rfl⟩

theorem Members.mem_of_mem_put {ms : Members} {key : String} {t : Tree} {m : String × Tree}
    (mem : m ∈ ms.put key t) : m ∈ ms ∨ m = (key, t) := by
  induction ms with
  | nil => exact .inr (List.mem_singleton.1 mem)
  | cons n ms ih => grind [put]

theorem Tree.WellFormed.put {members : Members} (h : (object members).WellFormed) (key : String)
    {t : Tree} (wellFormed : t.WellFormed) : (object (members.put key t)).WellFormed := by
  refine wellFormed_object_iff.2 ⟨?_, fun m mem => ?_⟩
  · rw [Members.keys_put]
    split
    · exact h.nodup
    · next fresh =>
      refine List.nodup_append.2 ⟨h.nodup, by simp, fun a mem b last => ?_⟩
      cases List.mem_singleton.1 last
      exact fun same => fresh (same ▸ mem)
  · rcases Members.mem_of_mem_put mem with mem | rfl
    · exact h.of_mem_members mem
    · exact wellFormed

theorem Tree.WellFormed.set {items : List Tree} (h : (array items).WellFormed) (index : Nat)
    {t : Tree} (wellFormed : t.WellFormed) : (array (items.set index t)).WellFormed := by
  refine wellFormed_array_iff.2 fun u mem => ?_
  rcases List.mem_or_eq_of_mem_set mem with mem | rfl
  · exact h.of_mem_items mem
  · exact wellFormed

theorem Tree.WellFormed.members {t : Tree} (h : t.WellFormed) : (object t.members).WellFormed := by
  cases t with
  | object members => exact h
  | _ => exact ⟨List.nodup_nil, trivial⟩

theorem Tree.WellFormed.placed {s : Members} {n u u' t : Tree} {place : Tree → Tree}
    {data path : Pointer} (h : n.WellFormed) (applies : Applies s n u t place data path)
    (part : u'.WellFormed) : (place u').WellFormed := by
  cases applies with
  | property _ _ value | pattern _ _ _ _ value | additional _ _ value =>
    rw [eq_object_of_get? value] at h ⊢
    exact h.put _ part
  | items _ value | place _ _ value | additionalItem _ _ _ value =>
    rw [eq_array_of_getElem? value] at h ⊢
    exact h.set _ part
  | dependency | branch => exact part

/-! ### Runs -/

theorem Endures.wellFormed (config : Config) {s : Members}
    (wellFormed : (Tree.object s).WellFormed) : Endures config s Tree.WellFormed where
  counted {members} formed := by
    rcases Stage.countedMembers_cases config.options s with all | filters
    · rwa [all]
    · rw [filters]
      exact formed.filter _
  converted _ _ _ _ _ converts := by
    obtain ⟨rule, -, -, converts⟩ := exists_rule_of_convertTo converts
    exact Rule.wellFormed_of_convert converts
  filled _ _ _ _ key _ formed _ fills := by
    obtain ⟨t, inner, rfl⟩ := wellFormed_of_withDefault? wellFormed fills
    exact formed.members.put key inner
  erased _ _ _ _ _ _ _ formed := formed.members.filter _

/-- What a run on well formed data leaves is well formed. -/
theorem run_wellFormed (config : Config) (schema : Tree) :
    schema.WellFormed → ∀ d : Tree, d.WellFormed → (run config d schema).node.WellFormed := by
  induction schema using schema_induction with
  | object s parts =>
    intro wellFormed d formed
    have upholds : Upholds config s Tree.WellFormed :=
      { Endures.wellFormed config wellFormed with
        placed := fun _ _ u t _ _ _ formed applies => by
          have inside := Tree.inherited_wellFormed.of_applies formed applies
          have sub := applies.subSchema
          exact formed.placed applies (parts t sub (sub.wellFormed wellFormed) u inside) }
    exact (run_accounts upholds formed).1
  | other t other =>
    intro _ d formed
    rw [run_of_not_object other]
    exact formed

theorem Upholds.wellFormed (config : Config) {s : Members}
    (wellFormed : (Tree.object s).WellFormed) : Upholds config s Tree.WellFormed :=
  { Endures.wellFormed config wellFormed with
    placed := fun _ _ u t _ _ _ formed applies => by
      have inside := Tree.inherited_wellFormed.of_applies formed applies
      have sub := applies.subSchema.wellFormed wellFormed
      exact formed.placed applies (run_wellFormed config t sub u inside) }

end TreeSchema
