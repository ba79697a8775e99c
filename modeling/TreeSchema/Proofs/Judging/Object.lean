import TreeSchema.Proofs.Judging.Basic

/-!
What the stages for objects judge: together they ask for the object keywords of
the members that count.
-/

namespace TreeSchema.Stage

variable {options : Options} {v : Visit} {sat : Tree → Tree → Prop} {node : Tree} {s : Members}

theorem judges_visitMember {t : Tree} (part : Decides options v sat t) (path : Pointer)
    (key : String) :
    Judges (visitMember v (.collecting options false) t path key) node node
      (∀ u, node.members.get? key = some u → sat t u) := by
  match found : node.members.get? key with
  | none =>
    exact (Judges.skip.iff (by simp)).at_node fun _ => visitMember_of_none found ..
  | some u =>
    have joined : Judges (Stage.join (.collecting options false) (v (.collecting options false) u t)
        (node.putMember key) (.key key) path) node node (sat t u) :=
      .join options (part u) (node.putMember key) (.key key) path
    exact (joined.iff (by simp)).at_node fun _ => visitMember_of_some found ..

theorem judges_requireKey (options : Options) (index : Nat) (key : String) :
    Judges (requireKey (.collecting options false) s index key) node node
      (node.members.has key = true) := by
  by_cases present : node.members.has key = true
  · exact (Judges.skip.iff (by simp [present])).at_node fun _ => requireKey_of_has present ..
  · have rejects := Judges.reject options node (.requiredMissing index key)
    exact (rejects.iff (by simp [present])).at_node fun _ =>
      requireKey_of_plain present Bool.false_ne_true ..

theorem judges_checkRequired (options : Options) (s : Members) :
    Judges (checkRequired (.collecting options false) s) node node
      (∀ names, s.get? "required" = some (.array names) → ∀ key, .string key ∈ names →
        node.members.has key = true) := by
  unfold checkRequired
  split
  · next absent => exact Judges.skip.iff (by simp [absent])
  · next items found =>
    split
    · next keys read =>
      refine (Judges.mapIdx fun index key _ => judges_requireKey options index key).iff ?_
      simp [found, Tree.mem_strings?_iff read]
    · exact .malformed _ _
  · exact .malformed _ _

theorem judges_checkProperties (parts : ∀ t, SubSchema s t → Decides options v sat t) :
    Judges (checkProperties v (.collecting options false) s) node node
      (∀ entries, s.get? "properties" = some (.object entries) → ∀ key t, (key, t) ∈ entries →
        ∀ u, node.members.get? key = some u → sat t u) := by
  unfold checkProperties
  split
  · next absent => exact Judges.skip.iff (by simp [absent])
  · next entries found =>
    have each (entry : String × Tree) (mem : entry ∈ entries) :
        Judges (checkProperty v (.collecting options false) s entry) node node
          (∀ u, node.members.get? entry.1 = some u → sat entry.2 u) := by
      have fill : Judges (fillDeclared (.collecting options false) s entry.1 entry.2) node node
          True := Judges.skip.at_node fun held => by simp [fillDeclared]
      have part := parts entry.2 (.property found mem)
      exact (fill.cons ((judges_visitMember part _ entry.1).cons .nil)).iff (by simp)
    exact (Judges.map each).iff (by simp [found])
  · exact .malformed _ _

theorem judges_checkFound {t : Tree} (part : Decides options v sat t) (path : Pointer)
    (regex : Pattern.Regex) :
    Judges (checkFound v (.collecting options false) t path regex) node node
      (∀ key ∈ node.members.keys.filter regex.finds, ∀ u, node.members.get? key = some u →
        sat t u) := by
  have each : ∀ key ∈ node.members.keys.filter regex.finds,
      Judges (visitMember v (.collecting options false) t path key) node node
        (∀ u, node.members.get? key = some u → sat t u) :=
    fun key _ => judges_visitMember part path key
  exact (Judges.map each).at_node fun _ => rfl

theorem judges_checkPatterns (parts : ∀ t, SubSchema s t → Decides options v sat t) :
    Judges (checkPatterns v (.collecting options false) s) node node
      (∀ t key u, s.Finds t key → node.members.get? key = some u → sat t u) := by
  unfold checkPatterns
  split
  · next absent => exact Judges.skip.iff (by simp [Members.Finds, absent])
  · next entries found =>
    have each (entry : String × Tree) (mem : entry ∈ entries) :
        Judges (checkPattern v (.collecting options false) entry) node node
          (∀ regex, readPattern (.entry "patternProperties" (.key entry.1)) entry.1 = .ok regex →
            ∀ key ∈ node.members.keys.filter regex.finds, ∀ u,
              node.members.get? key = some u → sat entry.2 u) :=
      .reading fun regex _ => judges_checkFound (parts entry.2 (.pattern found mem)) _ regex
    refine (Judges.map each).iff ⟨fun all t key u finds value => ?_, fun all entry mem => ?_⟩
    · obtain ⟨entries', pattern, regex, found', mem, compiles, finds⟩ := finds
      cases found.symm.trans found'
      refine all (pattern, t) mem regex (readPattern_eq_ok_iff.2 compiles) key ?_ u value
      have present : key ∈ node.members.keys := by
        rw [← Members.has_iff_mem_keys, ← Members.isSome_get?, value]
        rfl
      exact List.mem_filter.2 ⟨present, finds⟩
    · intro regex read key among u value
      exact all entry.2 key u ⟨entries, entry.1, regex, found, mem, readPattern_eq_ok_iff.1 read,
        (List.mem_filter.1 among).2⟩ value
  · exact .malformed _ _

theorem judges_checkExtra {policy : Additional}
    (part : ∀ m, policy = .schema m → Decides options v sat (.object m)) {key : String}
    (present : node.members.has key = true) :
    Judges (checkExtra v (.collecting options false) policy key) node node
      (∀ u, node.members.get? key = some u →
        policy ≠ .forbidden ∧ ∀ m, policy = .schema m → sat (.object m) u) := by
  cases policy with
  | any => exact Judges.skip.iff (by simp)
  | schema m => exact (judges_visitMember (part m rfl) _ key).iff (by simp)
  | forbidden =>
    rw [← Members.isSome_get?, Option.isSome_iff_exists] at present
    have rejects := Judges.reject options node (.additionalProperty key)
    exact (rejects.iff (by simp [present])).at_node fun _ => checkExtra_of_plain Bool.false_ne_true

theorem judges_checkAdditional (parts : ∀ t, SubSchema s t → Decides options v sat t) :
    Judges (checkAdditional v (.collecting options false) s) node node
      (∀ key u, node.members.get? key = some u → ¬ s.Declares key → (∀ t, ¬ s.Finds t key) →
        Admits sat (s.get? "additionalProperties") u) := by
  unfold checkAdditional
  split
  · next absent => exact Judges.skip.iff (by simp [absent, Admits])
  · next t found =>
    split
    · exact .malformed _ _
    · next policy read =>
      have part (m : Members) (eq : policy = .schema m) : Decides options v sat (.object m) := by
        subst eq
        rw [Additional.eq_object read] at found
        exact parts _ (.additional found)
      have each : ∀ key ∈ extraKeys s node.members,
          Judges (checkExtra v (.collecting options false) policy key) node node
            (∀ u, node.members.get? key = some u →
              policy ≠ .forbidden ∧ ∀ m, policy = .schema m → sat (.object m) u) :=
        fun key extra => judges_checkExtra part (mem_extraKeys_iff.1 extra).1
      refine Judges.at_node ((Judges.map each).iff ?_) fun _ => rfl
      simp only [mem_extraKeys_iff, found, admits_iff_of_read read]
      refine ⟨fun all key u value declared found => ?_, fun all key extra u value => ?_⟩
      · have present : node.members.has key = true := by
          rw [← Members.isSome_get?, value]
          rfl
        exact all key ⟨present, declared, found⟩ u value
      · exact all key u value extra.2.1 extra.2.2

theorem judges_requireOther (options : Options) (key other : String) (index : Option Nat) :
    Judges (requireOther (.collecting options false) key other index) node node
      (node.members.has other = true) := by
  by_cases present : node.members.has other = true
  · exact (Judges.skip.iff (by simp [present])).at_node fun _ => requireOther_of_has present ..
  · have rejects := Judges.reject options node (.dependencyMissing key other index)
    exact (rejects.iff (by simp [present])).at_node fun _ => requireOther_of_not_has present ..

theorem judges_checkDependency {members : Members} {entry : String × Tree}
    (part : ∀ m, entry.2 = .object m → Decides options v sat (.object m)) :
    Judges (checkDependency v (.collecting options false) entry) (.object members) (.object members)
      (members.has entry.1 = true → Depends sat members entry.2) := by
  obtain ⟨key, t⟩ := entry
  unfold checkDependency
  split
  · exact .malformed _ _
  · next dependency read =>
    by_cases present : members.has key = true
    · cases t with
      | object m =>
        cases read
        have self : Judges (visitSelf v (.collecting options false) (.object m)
            (.entry "dependencies" (.key key))) (.object members) (.object members)
            (members.has key = true → Depends sat members (.object m)) :=
          (judges_visitSelf (part m rfl) _).iff (by simp [present, Depends])
        exact self.at_node fun held => by simp [Tree.members, present]
      | array items =>
        obtain ⟨names, strings, rfl⟩ := Option.map_eq_some_iff.1 read
        have each (index : Nat) : ∀ name ∈ names,
            Judges (requireOther (.collecting options false) key name (some index))
              (.object members) (.object members) (members.has name = true) :=
          fun name _ => judges_requireOther options key name (some index)
        have names : (∀ name ∈ names, members.has name = true) ↔
            (members.has key = true → Depends sat members (.array items)) := by
          simp [present, Depends, Tree.mem_strings?_iff strings]
        exact ((Judges.mapIdx each).iff names).at_node fun held => by simp [Tree.members, present]
      | string name =>
        cases read
        have other : Judges (requireOther (.collecting options false) key name none)
            (.object members) (.object members)
            (members.has key = true → Depends sat members (.string name)) :=
          (judges_requireOther options key name none).iff (by simp [present, Depends, Tree.members])
        exact other.at_node fun held => by simp [Tree.members, present]
      | _ => cases read
    · exact (Judges.skip.iff (by simp [present])).at_node fun held => by
        simp [Tree.members, present]

theorem judges_checkDependencies {members : Members}
    (parts : ∀ t, SubSchema s t → Decides options v sat t) :
    Judges (checkDependencies v (.collecting options false) s) (.object members) (.object members)
      (∀ entries, s.get? "dependencies" = some (.object entries) → ∀ key t, (key, t) ∈ entries →
        members.has key = true → Depends sat members t) := by
  unfold checkDependencies
  split
  · next absent => exact Judges.skip.iff (by simp [absent])
  · next entries found =>
    have each (entry : String × Tree) (mem : entry ∈ entries) :
        Judges (checkDependency v (.collecting options false) entry) (.object members)
          (.object members) (members.has entry.1 = true → Depends sat members entry.2) :=
      judges_checkDependency fun m eq => by
        obtain ⟨key, t⟩ := entry
        subst eq
        exact parts _ (.dependency found mem)
    exact (Judges.map each).iff (by simp [found])
  · exact .malformed _ _

theorem judges_checkObject {members : Members}
    (parts : ∀ t, SubSchema s t → Decides options v sat t) :
    Judges (checkObject v (.collecting options false) s) (.object members)
      (.object (countedMembers options s members))
      (ConformsObject sat s (countedMembers options s members) ∧
        ∀ c, Constraint.Declared s c → c.Holds (.object (countedMembers options s members))) := by
  have counts : Judges (checkConstraints (.collecting options false) (Constraint.ofObjects s))
      (.object (countedMembers options s members)) (.object (countedMembers options s members))
      (∀ c, Constraint.Declared s c → c.Holds (.object (countedMembers options s members))) :=
    judges_checkConstraints fun cs read => Constraint.ofObjects_holds_iff read _
  have all := (judges_checkRequired options s).cons <| (judges_checkProperties parts).cons <|
    (judges_checkPatterns parts).cons <| (judges_checkAdditional parts).cons <|
    (judges_checkDependencies parts).cons <| counts.cons .nil
  refine Judges.at_node (all.iff ⟨?_, ?_⟩) fun _ => rfl
  · rintro ⟨required, properties, patterns, additional, dependencies, counts, -⟩
    exact ⟨⟨required, properties, patterns, additional, dependencies⟩, counts⟩
  · rintro ⟨h, counts⟩
    exact ⟨h.required, h.properties, h.patterns, h.additional, h.dependencies, counts, trivial⟩

end TreeSchema.Stage
