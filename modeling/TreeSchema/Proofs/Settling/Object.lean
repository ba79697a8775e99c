import TreeSchema.Proofs.Settling.Basic

/-!
Objects that coercion has settled. Required keys are filled in first and never
removed, as they are declared; a declared member is converted once, by its own
schema; the others are converted or removed last.
-/

namespace TreeSchema

def Tree.IsObject (t : Tree) : Prop :=
  ∃ members, t = .object members

namespace Stage

variable {options : Options} {s : Members} {node after v : Tree} {key : String}

/-! ### Required keys -/

theorem passes_fillIn {coercing : Bool} {violation : Violation}
    (passes : Passes (fillIn (.collecting options coercing) s key violation) node after) :
    ∃ u, after = .object (node.members.put key u) := by
  match filled : withDefault? node.members s key options with
  | .error cause =>
    rw [passes_congr (fillIn_of_failure filled)] at passes
    exact absurd passes not_passes_interrupt
  | .ok none =>
    rw [passes_congr (fillIn_of_none filled)] at passes
    exact absurd passes (not_passes_reject (Config.collecting_remembers options coercing) _)
  | .ok (some members) =>
    rw [passes_congr (fillIn_of_some filled), passes_replace] at passes
    obtain ⟨u, rfl⟩ := eq_put_of_withDefault? filled
    exact ⟨u, passes⟩

theorem has_put {members : Members} {other : String} {t : Tree} :
    (members.put key t).has other = true ↔ key = other ∨ members.has other = true := by
  rw [← Members.isSome_get?, Members.get?_put, ← Members.isSome_get?]
  split <;> simp_all

theorem passes_requireKey {index : Nat}
    (passes : Passes (requireKey (.collecting options true) s index key) node after)
    (object : node.IsObject) :
    after.IsObject ∧ after.members.has key = true ∧
      ∀ other, node.members.has other = true → after.members.has other = true := by
  by_cases present : node.members.has key = true
  · rw [passes_congr (requireKey_of_has present ..), passes_skip] at passes
    subst passes
    exact ⟨object, present, fun _ => id⟩
  · rw [passes_congr (requireKey_of_coercing present rfl ..)] at passes
    obtain ⟨u, rfl⟩ := passes_fillIn passes
    exact ⟨⟨_, rfl⟩, has_put.2 (.inl rfl), fun other has => has_put.2 (.inr has)⟩

theorem passes_checkRequired
    (passes : Passes (checkRequired (.collecting options true) s) node after)
    (object : node.IsObject) :
    after.IsObject ∧ ∀ names, s.get? "required" = some (.array names) → ∀ key,
      .string key ∈ names → after.members.has key = true := by
  unfold checkRequired at passes
  split at passes
  · next absent =>
    rw [passes_skip] at passes
    exact ⟨passes ▸ object, by simp [absent]⟩
  · next items found =>
    split at passes
    · next keys read =>
      rw [List.mapIdx_eq_zipIdx_map] at passes
      have seen := passes_map (I := Tree.IsObject)
        (G := fun (entry : String × Nat) n => n.members.has entry.1 = true)
        (fun entry => (keeps_walk options true).requireKey s entry.2 entry.1)
        (fun entry _ n n' object passes =>
          ⟨(passes_requireKey passes object).1, (passes_requireKey passes object).2.1⟩)
        (List.pairwise_of_forall fun x y n n' object has passes =>
          (passes_requireKey passes object).2.2 x.1 has) object passes
      refine ⟨seen.1, fun names found' key mem => ?_⟩
      cases found.symm.trans found'
      obtain ⟨index, bound, place⟩ := List.mem_iff_getElem.1 ((Tree.mem_strings?_iff read).2 mem)
      exact seen.2 (key, index) (List.mem_zipIdx_iff_getElem?.2 (by simp [← place]))
    · exact absurd passes not_passes_malformed
  · exact absurd passes not_passes_malformed

theorem settled_checkRequired
    (passes : Passes (checkRequired (.collecting options true) s) node after)
    (present : ∀ names, s.get? "required" = some (.array names) → ∀ key, .string key ∈ names →
      v.members.has key = true) (coercing : Bool) :
    Passes (checkRequired (.collecting options coercing) s) v v := by
  unfold checkRequired at passes ⊢
  split at passes
  · exact passes_skip.2 rfl
  · next items found =>
    split at passes
    · next keys read =>
      refine passes_sequence_same fun stage mem => ?_
      obtain ⟨index, bound, rfl⟩ := List.mem_mapIdx.1 mem
      have has := present items found _ ((Tree.mem_strings?_iff read).1 (List.getElem_mem bound))
      exact (passes_congr (requireKey_of_has has ..)).2 (passes_skip.2 rfl)
    · exact absurd passes not_passes_malformed
  · exact absurd passes not_passes_malformed

/-! ### Members -/

theorem passes_visitMember {t : Tree} {path : Pointer} (part : Settles options t)
    (passes : Passes (visitMember run (.collecting options true) t path key) node after) :
    after = node ∧ node.members.get? key = none ∨
      ∃ u, after = .object (node.members.put key u) ∧ node.members.has key = true ∧
        Settled options t u := by
  match found : node.members.get? key with
  | none =>
    rw [passes_congr (visitMember_of_none found ..), passes_skip] at passes
    exact .inl ⟨passes, rfl⟩
  | some d =>
    rw [passes_congr (visitMember_of_some found ..),
      passes_join (Config.collecting_remembers options true)] at passes
    obtain ⟨passed, rfl⟩ := passes
    refine .inr ⟨_, ?_, ?_, part d passed⟩
    · rw [Tree.eq_object_of_get? found]
      rfl
    · rw [← Members.isSome_get?, found]
      rfl

theorem settled_visitMember {t : Tree} (settled : ∀ u, node.members.get? key = some u →
    Settled options t u) (path : Pointer) (coercing : Bool) :
    Passes (visitMember run (.collecting options coercing) t path key) node node := by
  match found : node.members.get? key with
  | none => exact (passes_congr (visitMember_of_none found ..)).2 (passes_skip.2 rfl)
  | some u =>
    obtain ⟨passed, same⟩ := settled u found coercing
    rw [passes_congr (visitMember_of_some found ..),
      passes_join (Config.collecting_remembers options coercing), same]
    refine ⟨passed, ?_⟩
    split
    · exact (Tree.putMember_of_get? found).symm
    · rfl

/-- What seeing to a member does to an object: the member is settled, the others are kept. -/
structure SeesTo (options : Options) (t : Tree) (key : String) (node after : Tree) : Prop where
  object : node.IsObject → after.IsObject
  others : ∀ other, other ≠ key → after.members.get? other = node.members.get? other
  settled : ∀ u, after.members.get? key = some u → Settled options t u

theorem seesTo_visitMember {t : Tree} {path : Pointer} (part : Settles options t)
    (passes : Passes (visitMember run (.collecting options true) t path key) node after) :
    SeesTo options t key node after ∧ after.members.has key = node.members.has key := by
  rcases passes_visitMember part passes with ⟨rfl, absent⟩ | ⟨u, rfl, present, settled⟩
  · exact ⟨⟨id, fun _ _ => rfl, fun u found => nomatch absent.symm.trans found⟩, rfl⟩
  · refine ⟨⟨fun _ => ⟨_, rfl⟩, fun other ne => ?_, fun w found => ?_⟩, ?_⟩
    · simp [Members.get?_put, ne.symm]
    · simp only [Tree.members_object, Members.get?_put, if_pos] at found
      cases found
      exact settled
    · rw [present]
      exact has_put.2 (.inl rfl)

/-! ### Declared members -/

/-- A declared member has been seen to: it is settled, and it is there if it has a default. -/
structure Seen (options : Options) (entry : String × Tree) (node : Tree) : Prop where
  settled : ∀ u, node.members.get? entry.1 = some u → Settled options entry.2 u
  filled : options.setMissingToDefault = true → hasDefault entry.2 = true →
    node.members.has entry.1 = true

theorem Seen.of_get?_eq {entry : String × Tree} (seen : Seen options entry node)
    (same : after.members.get? entry.1 = node.members.get? entry.1) :
    Seen options entry after where
  settled u found := seen.settled u (same ▸ found)
  filled sets default := by
    rw [← Members.isSome_get?, same, Members.isSome_get?]
    exact seen.filled sets default

theorem passes_fillDeclared {t : Tree}
    (passes : Passes (fillDeclared (.collecting options true) s key t) node after) :
    (after = node ∨ ∃ u, after = .object (node.members.put key u)) ∧
      (options.setMissingToDefault = true → hasDefault t = true →
        after.members.has key = true) := by
  by_cases missing : (!node.members.has key && true && options.setMissingToDefault &&
      hasDefault t) = true
  · rw [passes_congr (fillDeclared_of_missing missing s)] at passes
    obtain ⟨u, rfl⟩ := passes_fillIn passes
    exact ⟨.inr ⟨u, rfl⟩, fun _ _ => has_put.2 (.inl rfl)⟩
  · rw [passes_congr (fillDeclared_of_not_missing missing s), passes_skip] at passes
    subst passes
    refine ⟨.inl rfl, fun sets default => ?_⟩
    simpa [sets, default] using missing

theorem passes_checkProperty {entry : String × Tree} (part : Settles options entry.2)
    (passes : Passes (checkProperty run (.collecting options true) s entry) node after) :
    SeesTo options entry.2 entry.1 node after ∧ Seen options entry after ∧
      ∀ other, node.members.has other = true → after.members.has other = true := by
  have visits := (keeps_walk options true).visitMember (keeps_parts options true entry.2)
    (.entry "properties" (.key entry.1)) entry.1
  have tail : Keeps (sequence [visitMember run (.collecting options true) entry.2
      (.entry "properties" (.key entry.1)) entry.1]) := .sequence (by simpa using visits)
  obtain ⟨mid, fills, visit⟩ := (passes_cons tail).1 passes
  rw [sequence_singleton] at visit
  obtain ⟨filled, there⟩ := passes_fillDeclared fills
  obtain ⟨sees, same⟩ := seesTo_visitMember part visit
  have others (other : String) (ne : other ≠ entry.1) :
      after.members.get? other = node.members.get? other := by
    rw [sees.others other ne]
    rcases filled with rfl | ⟨u, rfl⟩
    · rfl
    · simp [Members.get?_put, ne.symm]
  refine ⟨⟨fun object => sees.object ?_, others, sees.settled⟩, ⟨sees.settled, ?_⟩, ?_⟩
  · rcases filled with rfl | ⟨u, rfl⟩
    · exact object
    · exact ⟨_, rfl⟩
  · exact fun sets default => same ▸ there sets default
  · intro other has
    by_cases eq : other = entry.1
    · subst eq
      rw [same]
      rcases filled with rfl | ⟨u, rfl⟩
      · exact has
      · exact has_put.2 (.inl rfl)
    · rwa [Members.has_congr (others other eq)]

theorem settled_checkProperty {entry : String × Tree} (seen : Seen options entry v)
    (coercing : Bool) :
    Passes (checkProperty run (.collecting options coercing) s entry) v v := by
  refine passes_sequence_same fun stage mem => ?_
  simp only [List.mem_cons, List.not_mem_nil, or_false] at mem
  rcases mem with rfl | rfl
  · refine (passes_congr (fillDeclared_of_not_missing (fun missing => ?_) s)).2 (passes_skip.2 rfl)
    simp only [Bool.and_eq_true, Bool.not_eq_true'] at missing
    obtain ⟨⟨⟨absent, -⟩, sets⟩, default⟩ := missing
    exact Bool.false_ne_true (absent.symm.trans (seen.filled sets default))
  · exact settled_visitMember seen.settled ..

/-- Each declared member is seen to by its own schema, and no key goes. -/
theorem passes_checkProperties (parts : ∀ t, SubSchema s t → Settles options t)
    (nodup : ∀ entries, s.get? "properties" = some (.object entries) →
      (Members.keys entries).Nodup)
    (passes : Passes (checkProperties run (.collecting options true) s) node after)
    (object : node.IsObject) :
    after.IsObject ∧ (∀ other, node.members.has other = true → after.members.has other = true) ∧
      ∀ entries, s.get? "properties" = some (.object entries) → ∀ entry ∈ entries,
        Seen options entry after := by
  unfold checkProperties at passes
  split at passes
  · next absent =>
    rw [passes_skip] at passes
    subst passes
    exact ⟨object, fun _ => id, by simp [absent]⟩
  · next entries found =>
    have part (entry : String × Tree) (mem : entry ∈ entries) : Settles options entry.2 :=
      parts entry.2 (.property found mem)
    have seen := passes_map (f := checkProperty run (.collecting options true) s)
      (I := fun n => n.IsObject ∧ ∀ other, node.members.has other = true →
        n.members.has other = true)
      (G := Seen options)
      (fun entry => (keeps_walk options true).checkProperty s (keeps_parts options true _))
      (fun entry mem n n' inv turns => by
        obtain ⟨sees, seen, stays⟩ := passes_checkProperty (part entry mem) turns
        exact ⟨⟨sees.object inv.1, fun other has => stays other (inv.2 other has)⟩, seen⟩)
      ?_ ⟨object, fun _ => id⟩ passes
    · refine ⟨seen.1.1, seen.1.2, fun entries' found' => ?_⟩
      cases found.symm.trans found'
      exact seen.2
    · -- No key is declared twice, so a turn leaves what the earlier ones have seen to.
      refine (List.pairwise_map.1 (nodup entries found)).imp_of_mem ?_
      intro x y memX memY ne n n' _ seen turns
      exact seen.of_get?_eq ((passes_checkProperty (part y memY) turns).1.others x.1 ne)
  · exact absurd passes not_passes_malformed

theorem settled_checkProperties
    (passes : Passes (checkProperties run (.collecting options true) s) node after)
    (seen : ∀ entries, s.get? "properties" = some (.object entries) → ∀ entry ∈ entries,
      Seen options entry v) (coercing : Bool) :
    Passes (checkProperties run (.collecting options coercing) s) v v := by
  unfold checkProperties at passes ⊢
  split at passes
  · exact passes_skip.2 rfl
  · next entries found =>
    refine passes_sequence_same fun stage mem => ?_
    obtain ⟨entry, among, rfl⟩ := List.mem_map.1 mem
    exact settled_checkProperty (seen entries found entry among) coercing
  · exact absurd passes not_passes_malformed

/-! ### Additional members -/

/-- What seeing to a member beyond the declared ones does to an object: the member may stand or is
gone, the others are kept, and no key is new. -/
structure Sifts (options : Options) (policy : Additional) (key : String) (node after : Tree) :
    Prop where
  object : node.IsObject → after.IsObject
  others : ∀ other, other ≠ key → after.members.get? other = node.members.get? other
  old : after.members.has key = true → node.members.has key = true
  stands : ∀ u, after.members.get? key = some u → policy.LetsStand options u

theorem passes_checkExtra {policy : Additional}
    (part : ∀ m, policy = .schema m → Settles options (.object m))
    (passes : Passes (checkExtra run (.collecting options true) policy key) node after) :
    Sifts options policy key node after := by
  cases policy with
  | any =>
    have same : after = node := passes_skip.1 passes
    subst same
    exact ⟨id, fun _ _ => rfl, id, fun u _ => ⟨nofun, nofun⟩⟩
  | schema m =>
    obtain ⟨sees, same⟩ := seesTo_visitMember (part m rfl) passes
    refine ⟨sees.object, sees.others, fun has => same ▸ has, fun u found => ⟨nofun, ?_⟩⟩
    rintro _ ⟨⟩
    exact sees.settled u found
  | forbidden =>
    rw [passes_congr (checkExtra_of_coercing rfl), passes_replace] at passes
    subst passes
    have gone : (Members.erase node.members key).get? key = none := by simp [Members.get?_erase]
    refine ⟨fun _ => ⟨_, rfl⟩, fun other ne => ?_, fun has => ?_, fun u found => ?_⟩
    · simp [Members.get?_erase, ne.symm]
    · rw [Tree.members_object, ← Members.isSome_get?, gone] at has
      cases has
    · exact nomatch gone.symm.trans found

/-- The loop over the keys beyond the declared ones: it lets them stand or removes them, and does
not touch the declared members. -/
theorem passes_checkExtras {policy : Additional} {keys : List String}
    (part : ∀ m, policy = .schema m → Settles options (.object m))
    (beyond : ∀ key ∈ keys, ¬ s.Declares key)
    (passes : Passes (sequence (keys.map (checkExtra run (.collecting options true) policy))) node
      after) (object : node.IsObject) :
    after.IsObject ∧ (∀ key, s.Declares key → after.members.get? key = node.members.get? key) ∧
      (∀ key, after.members.has key = true → node.members.has key = true) ∧
      ∀ key ∈ keys, ∀ u, after.members.get? key = some u → policy.LetsStand options u := by
  have seen := passes_map
    (I := fun n => n.IsObject ∧
      (∀ other, s.Declares other → n.members.get? other = node.members.get? other) ∧
      ∀ other, n.members.has other = true → node.members.has other = true)
    (G := fun key n => ∀ u, n.members.get? key = some u → policy.LetsStand options u)
    (fun key => (keeps_walk options true).checkExtra (fun m _ => keeps_parts options true _) key)
    (fun key mem n n' inv turns => by
      obtain ⟨object, declared, old⟩ := inv
      have sifts := passes_checkExtra part turns
      refine ⟨⟨sifts.object object, fun other declares => ?_, fun other has => ?_⟩, sifts.stands⟩
      · have ne : other ≠ key := fun eq => beyond key mem (eq ▸ declares)
        exact (sifts.others other ne).trans (declared other declares)
      · by_cases eq : other = key
        · exact old other (eq ▸ sifts.old (eq ▸ has))
        · exact old other (Members.has_congr (sifts.others other eq) ▸ has))
    -- A key may come twice: then its later turn makes it good again.
    (List.pairwise_of_forall fun x y n n' _ stands turns => by
      have sifts := passes_checkExtra part turns
      by_cases eq : x = y
      · exact eq ▸ sifts.stands
      · exact fun u value => stands u (sifts.others x eq ▸ value))
    ⟨object, fun _ _ => rfl, fun _ => id⟩ passes
  exact ⟨seen.1.1, seen.1.2.1, seen.1.2.2, seen.2⟩

/-- Members beyond the declared ones are settled or removed, and the declared ones are kept. -/
theorem passes_checkAdditional
    (part : ∀ m, s.get? "additionalProperties" = some (.object m) → Settles options (.object m))
    (passes : Passes (checkAdditional run (.collecting options true) s) node after)
    (object : node.IsObject) :
    after.IsObject ∧ (∀ key, s.Declares key → after.members.get? key = node.members.get? key) ∧
      ∀ key ∈ extraKeys s after.members, ∀ u, after.members.get? key = some u →
        Admits (Settled options) (s.get? "additionalProperties") u := by
  unfold checkAdditional at passes
  split at passes
  · next absent =>
    rw [passes_skip] at passes
    subst passes
    exact ⟨object, fun _ _ => rfl, by simp [absent, Admits]⟩
  · next t found =>
    split at passes
    · exact absurd passes not_passes_malformed
    · next policy read =>
      have part (m : Members) (eq : policy = .schema m) : Settles options (.object m) := by
        subst eq
        rw [Additional.eq_object read] at found
        exact part m found
      have loop : Passes (sequence ((extraKeys s node.members).map
          (checkExtra run (.collecting options true) policy))) node after := passes
      obtain ⟨object, declared, old, stands⟩ := passes_checkExtras part
        (fun key extra => (mem_extraKeys_iff.1 extra).2.1) loop object
      refine ⟨object, declared, fun key extra u value => ?_⟩
      -- A key that is extra in the end has been so from the start.
      have before := mem_extraKeys_iff.1 extra
      rw [found, admits_iff_of_read read]
      exact stands key (mem_extraKeys_iff.2 ⟨old key before.1, before.2⟩) u value

theorem settled_checkExtra {policy : Additional} (present : v.members.has key = true)
    (stands : ∀ u, v.members.get? key = some u → policy.LetsStand options u) (coercing : Bool) :
    Passes (checkExtra run (.collecting options coercing) policy key) v v := by
  cases policy with
  | any => exact passes_skip.2 rfl
  | schema m => exact settled_visitMember (fun u value => (stands u value).2 m rfl) ..
  | forbidden =>
    -- A forbidden member is not there, but this one is.
    rw [← Members.isSome_get?, Option.isSome_iff_exists] at present
    obtain ⟨u, value⟩ := present
    exact absurd rfl (stands u value).1

theorem settled_checkAdditional
    (passes : Passes (checkAdditional run (.collecting options true) s) node after)
    (settled : ∀ key ∈ extraKeys s v.members, ∀ u, v.members.get? key = some u →
      Admits (Settled options) (s.get? "additionalProperties") u) (coercing : Bool) :
    Passes (checkAdditional run (.collecting options coercing) s) v v := by
  unfold checkAdditional at passes ⊢
  split
  · exact passes_skip.2 rfl
  · next t found =>
    split
    · next unread =>
      simp only [found, unread] at passes
      exact absurd passes not_passes_malformed
    · next policy read =>
      have each : ∀ stage ∈ (extraKeys s v.members).map
          (checkExtra run (.collecting options coercing) policy), Passes stage v v := by
        intro stage mem
        obtain ⟨key, extra, rfl⟩ := List.mem_map.1 mem
        simp only [found, admits_iff_of_read read] at settled
        exact settled_checkExtra (mem_extraKeys_iff.1 extra).1 (settled key extra) coercing
      exact (passes_congr rfl).2 (passes_sequence_same each)

/-! ### All of it -/

theorem passes_checkObject_iff {coercing : Bool} {members : Members}
    (countsAll : options.ignoreNullProperties = false) :
    Passes (checkObject run (.collecting options coercing) s) (.object members) after ↔
      PassesAll (objectStages run (.collecting options coercing) s) (.object members) after := by
  have all : countedMembers options s members = members := by
    unfold countedMembers
    rw [countsAll]
  have keeps : ∀ stage ∈ objectStages run (.collecting options coercing) s, Keeps stage := by
    have walk := (Keeps.closed (Config.collecting_remembers options coercing)).walk run s
    exact forall_mem_objectStages.2 ⟨walk.checkRequired members trivial,
      walk.checkProperties members trivial, walk.checkPatterns, walk.checkAdditional,
      walk.checkDependencies, (keeps_walk options coercing).checkConstraints _⟩
  rw [← passes_sequence keeps]
  exact passes_congr (by simp [checkObject, Config.collecting, all])

/-- The object that the object stages leave passes them as it is. -/
theorem settled_checkObject (single : s.SinglePass)
    (countsAll : options.ignoreNullProperties = false)
    (parts : ∀ t, SubSchema s t → Settles options t)
    (nodup : ∀ entries, s.get? "properties" = some (.object entries) →
      (Members.keys entries).Nodup) {members : Members}
    (passes : Passes (checkObject run (.collecting options true) s) (.object members) after) :
    ∃ members', after = .object members' ∧ ∀ coercing,
      Passes (checkObject run (.collecting options coercing) s) after after := by
  obtain ⟨n₁, required, n₂, properties, n₃, patterns, n₄, additional, n₅, dependencies, _, counts,
    rfl⟩ := (passes_checkObject_iff countsAll).1 passes
  have noPatterns (coercing : Bool) :
      checkPatterns run (.collecting options coercing) s = skip := by
    simp [checkPatterns, single.absent "patternProperties" (by decide)]
  have noDependencies (coercing : Bool) :
      checkDependencies run (.collecting options coercing) s = skip := by
    simp [checkDependencies, single.absent "dependencies" (by decide)]
  -- Only required keys, declared members and the others are seen to; the rest leaves the object.
  rw [noPatterns, passes_skip] at patterns
  rw [noDependencies, passes_skip] at dependencies
  obtain ⟨judged, same⟩ := passes_checkConstraints_iff.1 counts
  subst patterns dependencies same
  obtain ⟨object, present⟩ := passes_checkRequired required ⟨members, rfl⟩
  obtain ⟨object, stays, seen⟩ := passes_checkProperties parts nodup properties object
  obtain ⟨object, declared, settled⟩ := passes_checkAdditional
    (fun m found => parts _ (.additional found)) additional object
  -- A required key is declared, so no later stage removes it.
  have present (names : List Tree) (found : s.get? "required" = some (.array names)) (key : String)
      (mem : .string key ∈ names) : after.members.has key = true := by
    rw [Members.has_congr (declared key (single.required names found key mem))]
    exact stays key (present names found key mem)
  have seen (entries : Members) (found : s.get? "properties" = some (.object entries))
      (entry : String × Tree) (mem : entry ∈ entries) : Seen options entry after := by
    have key : Members.has entries entry.1 = true :=
      (Members.has_iff_mem_keys ..).2 (List.mem_map_of_mem mem)
    exact (seen entries found entry mem).of_get?_eq (declared entry.1 ⟨entries, found, key⟩)
  obtain ⟨members', rfl⟩ := object
  refine ⟨members', rfl, fun coercing => (passes_checkObject_iff countsAll).2 ?_⟩
  exact ⟨_, settled_checkRequired required present coercing,
    _, settled_checkProperties properties seen coercing,
    _, noPatterns coercing ▸ passes_skip.2 rfl,
    _, settled_checkAdditional additional settled coercing,
    _, noDependencies coercing ▸ passes_skip.2 rfl,
    _, passes_checkConstraints_iff.2 ⟨judged, rfl⟩, rfl⟩

end Stage

end TreeSchema
