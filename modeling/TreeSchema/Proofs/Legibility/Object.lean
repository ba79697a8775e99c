import TreeSchema.Proofs.Legibility.Node

/-!
What the stages for objects attest. A required key that is missing, a pattern that finds
no key or a dependency of a key that is absent keep nothing from being read: the entries
of `patternProperties` and of `dependencies` are read before it is looked at which members
they concern.
-/

namespace TreeSchema

/-- The runs on members, and those on the object that dependencies ask for, come to their ends. -/
structure MembersEnded (options : Options) (s : Members) (n : Tree) : Prop where
  properties : ∀ entries, s.get? "properties" = some (.object entries) → ∀ entry ∈ entries,
    ∀ u, n.members.get? entry.1 = some u → Ended options u entry.2
  patterns : ∀ entries, s.get? "patternProperties" = some (.object entries) → ∀ entry ∈ entries,
    ∀ regex, Pattern.compile entry.1 "" = .ok (.ok regex) → ∀ key, regex.finds key = true →
      ∀ u, n.members.get? key = some u → Ended options u entry.2
  additional : ∀ m, s.get? "additionalProperties" = some (.object m) →
    ∀ key ∈ Stage.extraKeys s n.members, ∀ u, n.members.get? key = some u →
      Ended options u (.object m)
  dependencies : ∀ entries, s.get? "dependencies" = some (.object entries) → ∀ entry ∈ entries,
    ∀ m, entry.2 = .object m → n.members.has entry.1 = true → Ended options n (.object m)

variable {options : Options} {s : Members} {d n : Tree} {blame : Fault → Prop}

theorem MembersEnded.of_no_members (none : n.members = []) : MembersEnded options s n := by
  constructor <;> simp [none, Members.get?, Members.has]

theorem Stems.entry {name : String} {accepts : String × Tree → Bool} {entries : Members}
    {entry : String × Tree} {cause : Malformed}
    (concerns : ⟨name, Tree.isMembersWhere accepts⟩ ∈ s.shapes d.kind)
    (found : s.get? name = some (.object entries)) (mem : entry ∈ entries)
    (misfit : accepts entry = false) : Stems options s d ⟨.entry name (.key entry.1), cause⟩ :=
  .own (.entry concerns found mem misfit)

namespace Stage

/-! ### Required keys -/

theorem attests_requireKey (index : Nat) (key : String) :
    Attests blame True (requireKey (.collecting options false) s index key) n n := by
  by_cases present : n.members.has key = true
  · exact (Attests.skip trivial).at_node fun _ => requireKey_of_has present ..
  · exact .rejects trivial fun _ => requireKey_of_plain present Bool.false_ne_true ..

theorem attests_checkRequired (kind : d.kind = .object) :
    Attests (Stems options s d) (s.Fits ⟨"required", Tree.isNames⟩)
      (checkRequired (.collecting options false) s) n n := by
  have concerns : ⟨"required", Tree.isNames⟩ ∈ s.shapes d.kind :=
    concerns_of_kind kind
  unfold checkRequired
  split
  · next absent => exact .skip (Members.fits_of_none absent)
  · next items found =>
    split
    · next keys read =>
      have fits : s.Fits ⟨"required", Tree.isNames⟩ :=
        Members.fits_of_some found (by simp [Tree.isNames, read])
      have each : Attests (Stems options s d) _ (sequence
          (keys.mapIdx (requireKey (.collecting options false) s))) n n :=
        .mapIdx (P := fun _ _ => True) fun index key _ => attests_requireKey index key
      exact each.mono fun _ => fits
    · next unread =>
      exact .malformed (.keyword concerns found (by simp [Tree.isNames, unread]))
  · next v other found =>
    refine .malformed (.keyword concerns found ?_)
    cases v with
    | array items => exact absurd rfl (other items)
    | _ => rfl

/-! ### Members -/

theorem attests_visitMember {t : Tree} {path : Pointer} {key : String}
    (counted : n = d.counted options s)
    (consults : ∀ u, n.members.get? key = some u → Consults options s n u t path) :
    Attests (Stems options s d) (∀ u, n.members.get? key = some u → Ended options u t)
      (visitMember run (.collecting options false) t path key) n n := by
  match found : n.members.get? key with
  | none => exact (Attests.skip fun _ => nofun).at_node fun _ => visitMember_of_none found ..
  | some u =>
    have part := attests_part counted (consults u found) (n.putMember key) (.key key)
    refine (part.mono fun ended v value => ?_).at_node fun _ => visitMember_of_some found ..
    cases value
    exact ended

theorem attests_checkProperties (kind : d.kind = .object) (counted : n = d.counted options s) :
    Attests (Stems options s d) (s.Fits ⟨"properties", Tree.isMembers⟩ ∧
        ∀ entries, s.get? "properties" = some (.object entries) → ∀ entry ∈ entries,
          ∀ u, n.members.get? entry.1 = some u → Ended options u entry.2)
      (checkProperties run (.collecting options false) s) n n := by
  have concerns : ⟨"properties", Tree.isMembers⟩ ∈ s.shapes d.kind :=
    concerns_of_kind kind
  unfold checkProperties
  split
  · next absent => exact .skip ⟨Members.fits_of_none absent, by simp [absent]⟩
  · next entries found =>
    have each (entry : String × Tree) (mem : entry ∈ entries) :
        Attests (Stems options s d) (∀ u, n.members.get? entry.1 = some u → Ended options u entry.2)
          (checkProperty run (.collecting options false) s entry) n n := by
      have fills : Attests (Stems options s d) True
          (fillDeclared (.collecting options false) s entry.1 entry.2) n n :=
        (Attests.skip trivial).at_node fun _ => by simp [fillDeclared]
      have visits := attests_visitMember counted fun u value => .property found mem value
      exact (fills.cons (visits.cons .nil)).mono fun ended => ended.2.1
    refine (Attests.map each).mono fun ended => ⟨Members.fits_of_some found ?_, ?_⟩
    · exact List.all_eq_true.2 fun _ _ => rfl
    · intro entries' found'
      cases found.symm.trans found'
      exact ended
  · next v other found =>
    exact .malformed (.keyword concerns found (Tree.isMembersWhere_eq_false other))

/-! ### Members found by patterns -/

theorem attests_readPattern {entries : Members} {entry : String × Tree}
    (kind : d.kind = .object) (found : s.get? "patternProperties" = some (.object entries))
    (mem : entry ∈ entries) :
    TreeSchema.Attests (Stems options s d) (Tree.compiles entry.1 "" = true)
      (readPattern (.entry "patternProperties" (.key entry.1)) entry.1) := by
  match compiled : Pattern.compile entry.1 "" with
  | .error cause =>
    simp only [readPattern, compiled, Interruption.ofFailure]
    exact .failure cause
  | .ok (.ok regex) =>
    rw [readPattern_eq_ok_iff.2 compiled]
    exact .ok (by simp [Tree.compiles, compiled])
  | .ok (.error r) =>
    have fails : Tree.compiles entry.1 "" = false := by simp [Tree.compiles, compiled]
    simp only [readPattern, compiled, Interruption.ofFailure]
    have concerns : ⟨"patternProperties", Tree.isPatterns⟩ ∈ s.shapes d.kind :=
      concerns_of_kind kind
    exact .fault (.entry concerns found mem fails)

theorem attests_checkFound {t : Tree} {path : Pointer} {regex : Pattern.Regex}
    (counted : n = d.counted options s)
    (consults : ∀ key, regex.finds key = true → ∀ u, n.members.get? key = some u →
      Consults options s n u t path) :
    Attests (Stems options s d) (∀ key, regex.finds key = true → ∀ u,
        n.members.get? key = some u → Ended options u t)
      (checkFound run (.collecting options false) t path regex) n n := by
  have each : ∀ key ∈ n.members.keys.filter regex.finds, Attests (Stems options s d)
      (∀ u, n.members.get? key = some u → Ended options u t)
      (visitMember run (.collecting options false) t path key) n n :=
    fun key mem => attests_visitMember counted (consults key (List.mem_filter.1 mem).2)
  refine ((Attests.map each).mono fun ended key finds u value => ?_).at_node fun _ => rfl
  have present := (Members.has_iff_mem_keys _ key).1 (Members.has_of_get? value)
  exact ended key (List.mem_filter.2 ⟨present, finds⟩) u value

theorem attests_checkPatterns (kind : d.kind = .object) (counted : n = d.counted options s) :
    Attests (Stems options s d) (s.Fits ⟨"patternProperties", Tree.isPatterns⟩ ∧
        ∀ entries, s.get? "patternProperties" = some (.object entries) → ∀ entry ∈ entries,
          ∀ regex, Pattern.compile entry.1 "" = .ok (.ok regex) → ∀ key,
            regex.finds key = true → ∀ u, n.members.get? key = some u → Ended options u entry.2)
      (checkPatterns run (.collecting options false) s) n n := by
  have concerns : ⟨"patternProperties", Tree.isPatterns⟩ ∈ s.shapes d.kind :=
    concerns_of_kind kind
  unfold checkPatterns
  split
  · next absent => exact .skip ⟨Members.fits_of_none absent, by simp [absent]⟩
  · next entries found =>
    have each (entry : String × Tree) (mem : entry ∈ entries) :
        Attests (Stems options s d) (Tree.compiles entry.1 "" = true ∧
            ∀ regex, Pattern.compile entry.1 "" = .ok (.ok regex) → ∀ key,
              regex.finds key = true → ∀ u, n.members.get? key = some u →
                Ended options u entry.2)
          (checkPattern run (.collecting options false) entry) n n := by
      refine .reading (attests_readPattern kind found mem) fun regex read => ?_
      have compiled := readPattern_eq_ok_iff.1 read
      refine (attests_checkFound counted fun key finds u value =>
        .pattern found mem compiled finds value).mono fun ended regex' compiled' => ?_
      cases compiled.symm.trans compiled'
      exact ended
    refine (Attests.map each).mono fun ended => ⟨Members.fits_of_some found ?_, ?_⟩
    · exact List.all_eq_true.2 fun entry mem => (ended entry mem).1
    · intro entries' found' entry mem
      cases found.symm.trans found'
      exact (ended entry mem).2
  · next v other found =>
    exact .malformed (.keyword concerns found (Tree.isMembersWhere_eq_false other))

/-! ### Members beyond those -/

theorem attests_checkExtra {policy : Additional} {key : String}
    (counted : n = d.counted options s)
    (consults : ∀ m, policy = .schema m → ∀ u, n.members.get? key = some u →
      Consults options s n u (.object m) (.key "additionalProperties")) :
    Attests (Stems options s d) (∀ m, policy = .schema m → ∀ u, n.members.get? key = some u →
        Ended options u (.object m))
      (checkExtra run (.collecting options false) policy key) n n := by
  cases policy with
  | any => exact .skip fun _ => nofun
  | schema m =>
    refine (attests_visitMember counted (consults m rfl)).mono fun ended m' eq => ?_
    cases eq
    exact ended
  | forbidden =>
    exact .rejects (fun _ => nofun) fun _ => checkExtra_of_plain Bool.false_ne_true

theorem attests_checkAdditional (kind : d.kind = .object) (counted : n = d.counted options s) :
    Attests (Stems options s d) (s.Fits ⟨"additionalProperties", Tree.isAdditional⟩ ∧
        ∀ m, s.get? "additionalProperties" = some (.object m) →
          ∀ key ∈ extraKeys s n.members, ∀ u, n.members.get? key = some u →
            Ended options u (.object m))
      (checkAdditional run (.collecting options false) s) n n := by
  have concerns : ⟨"additionalProperties", Tree.isAdditional⟩ ∈ s.shapes d.kind :=
    concerns_of_kind kind
  unfold checkAdditional
  split
  · next absent => exact .skip ⟨Members.fits_of_none absent, by simp [absent]⟩
  · next t found =>
    split
    · next unread =>
      exact .malformed (.keyword concerns found (by simp [Tree.isAdditional, unread]))
    · next policy read =>
      have each (key : String) (mem : key ∈ extraKeys s n.members) :
          Attests (Stems options s d) (∀ m, policy = .schema m → ∀ u,
              n.members.get? key = some u → Ended options u (.object m))
            (checkExtra run (.collecting options false) policy key) n n := by
        obtain ⟨-, undeclared, unfound⟩ := mem_extraKeys_iff.1 mem
        refine attests_checkExtra counted fun m eq u value => ?_
        subst eq
        rw [Additional.eq_object read] at found
        exact .additional found undeclared unfound value
      refine ((Attests.map each).mono fun ended => ⟨Members.fits_of_some found ?_, ?_⟩).at_node
        fun _ => rfl
      · simp [Tree.isAdditional, read]
      · intro m found' key mem
        cases found.symm.trans found'
        cases read
        exact ended key mem m rfl

/-! ### Dependencies -/

theorem attests_requireOther (key other : String) (index : Option Nat) :
    Attests blame True (requireOther (.collecting options false) key other index) n n := by
  by_cases present : n.members.has other = true
  · exact (Attests.skip trivial).at_node fun _ => requireOther_of_has present ..
  · exact .rejects trivial fun _ => requireOther_of_not_has present ..

/-- A dependency is read whether or not its key is there, and asks for its schema if it is. -/
theorem attests_checkDependency {entries : Members} {entry : String × Tree}
    (kind : d.kind = .object) (counted : n = d.counted options s)
    (found : s.get? "dependencies" = some (.object entries)) (mem : entry ∈ entries) :
    Attests (Stems options s d) ((Dependency.ofTree? entry.2).isSome = true ∧
        ∀ m, entry.2 = .object m → n.members.has entry.1 = true → Ended options n (.object m))
      (checkDependency run (.collecting options false) entry) n n := by
  have concerns : ⟨"dependencies", Tree.isDependencies⟩ ∈ s.shapes d.kind :=
    concerns_of_kind kind
  unfold checkDependency
  dsimp only
  split
  · next unread =>
    exact .malformed (.entry concerns found mem (by simp [unread]))
  · next dependency read =>
    have isSome : (Dependency.ofTree? entry.2).isSome = true := by rw [read]; rfl
    by_cases present : n.members.has entry.1 = true
    · cases dependency with
      | schema m =>
        have same : entry.2 = .object m := Dependency.eq_object read
        have consults : Consults options s n n (.object m) (.entry "dependencies" (.key entry.1)) :=
          .dependency found (same ▸ mem) present
        refine ((attests_part counted consults id .here).mono fun ended => ⟨isSome, ?_⟩).at_node
          fun _ => by simp [present, visitSelf]
        intro m' same' _
        cases same.symm.trans same'
        exact ended
      | keys names =>
        obtain ⟨items, same, -⟩ := Dependency.eq_array read
        have each : Attests (Stems options s d) _ (sequence (names.mapIdx fun index name =>
            requireOther (.collecting options false) entry.1 name (some index))) n n :=
          .mapIdx (P := fun _ _ => True) fun index name _ =>
            attests_requireOther entry.1 name (some index)
        refine (each.mono fun _ => ⟨isSome, fun m same' => ?_⟩).at_node fun _ => by simp [present]
        cases same.symm.trans same'
      | key name =>
        have same := Dependency.eq_string read
        have requires : Attests (Stems options s d) True
            (requireOther (.collecting options false) entry.1 name none) n n :=
          attests_requireOther entry.1 name none
        refine (requires.mono fun _ => ⟨isSome, fun m same' => ?_⟩).at_node fun _ => by
          simp [present]
        cases same.symm.trans same'
    · have absent : n.members.has entry.1 = false := by simpa using present
      exact (Attests.skip ⟨isSome, fun _ _ has => absurd has present⟩).at_node fun _ => by
        simp [absent]

theorem attests_checkDependencies (kind : d.kind = .object) (counted : n = d.counted options s) :
    Attests (Stems options s d) (s.Fits ⟨"dependencies", Tree.isDependencies⟩ ∧
        ∀ entries, s.get? "dependencies" = some (.object entries) → ∀ entry ∈ entries,
          ∀ m, entry.2 = .object m → n.members.has entry.1 = true → Ended options n (.object m))
      (checkDependencies run (.collecting options false) s) n n := by
  have concerns : ⟨"dependencies", Tree.isDependencies⟩ ∈ s.shapes d.kind :=
    concerns_of_kind kind
  unfold checkDependencies
  split
  · next absent => exact .skip ⟨Members.fits_of_none absent, by simp [absent]⟩
  · next entries found =>
    have each (entry : String × Tree) (mem : entry ∈ entries) :=
      attests_checkDependency kind counted found mem
    refine (Attests.map each).mono fun ended => ⟨Members.fits_of_some found ?_, ?_⟩
    · exact List.all_eq_true.2 fun entry mem => (ended entry mem).1
    · intro entries' found' entry mem
      cases found.symm.trans found'
      exact (ended entry mem).2
  · next v other found =>
    exact .malformed (.keyword concerns found (Tree.isMembersWhere_eq_false other))

/-! ### All of it -/

/-- The stages for objects read all keywords for objects and see all runs on members through. -/
theorem attests_checkObject :
    Attests (Stems options s d)
      ((d.kind = .object → ∀ x ∈ s.shapesOfKind .object, s.Fits x) ∧
        MembersEnded options s (d.counted options s))
      (checkObject run (.collecting options false) s) d (d.counted options s) := by
  cases d with
  | object members =>
    let d := Tree.object members
    have object : d.kind = .object := rfl
    have stages : Attests (Stems options s d) _
        (sequence (objectStages run (.collecting options false) s)) (d.counted options s)
        (d.counted options s) :=
      (attests_checkRequired object).cons <| (attests_checkProperties object rfl).cons <|
        (attests_checkPatterns object rfl).cons <| (attests_checkAdditional object rfl).cons <|
        (attests_checkDependencies object rfl).cons <|
        (attests_checkConstraints (Constraint.attests_ofObjects object)).cons .nil
    have counts : Attests (Stems options s d) True (replace (d.counted options s)) d
        (d.counted options s) := .replace trivial
    refine ((counts.cons stages).mono ?_).at_node fun _ => rfl
    rintro ⟨-, required, properties, patterns, additional, dependencies, limits, -⟩
    refine ⟨fun _ => ?_, ⟨properties.2, patterns.2, additional.2, dependencies.2⟩⟩
    simp only [Members.shapesOfKind, List.forall_mem_cons]
    exact ⟨required, properties.1, patterns.1, additional.1, dependencies.1, limits.1, limits.2,
      List.forall_mem_nil _⟩
  | _ =>
    refine (Attests.skip ⟨fun kind => ?_, .of_no_members rfl⟩).at_node fun _ => rfl
    cases kind

end Stage

end TreeSchema
