import TreeSchema.Proofs.Owning.Basic

/-!
What the stages of objects and arrays own. An entry of a keyword is told by its
key or index in the pointer into the schema. The same member is visited under one
entry only once, as no key of an object comes twice, and the item of an array only
once under its keyword, so these are told by the pointer into the data.
-/

namespace TreeSchema

/-- What runs against the schema find is pairwise apart. -/
def TellsApart (config : Config) (t : Tree) : Prop :=
  ∀ u : Tree, u.WellFormed → (run config u t).findings.Pairwise Finding.Apart

namespace Stage.Owns

variable {config : Config} {s : Members} {scope : Finding → Prop}

/-! ### Parts -/

theorem visitMember {t : Tree} {path : List Segment} {key : String} (apart : TellsApart config t)
    (within : ∀ f : Finding, f.Rooted →
      scope (f.under (.ofSegments [.key key]) (.ofSegments path))) :
    Owns scope (visitMember run config t (.ofSegments path) key) :=
  byNode fun n formed => by
    match found : n.members.get? key with
    | none => exact ⟨_, skip, fun _ => visitMember_of_none found ..⟩
    | some u =>
      have inside : u.WellFormed := Tree.inherited_wellFormed.of_get? formed found
      have joined : Owns scope (Stage.join config (run config u t) (n.putMember key) (.key key)
          (.ofSegments path)) := join (apart u inside) within
      exact ⟨_, joined, fun _ => visitMember_of_some found ..⟩

theorem visitItem {t : Tree} {path : List Segment} {index : Nat} (apart : TellsApart config t)
    (within : ∀ f : Finding, f.Rooted →
      scope (f.under (.ofSegments [.index index]) (.ofSegments path))) :
    Owns scope (visitItem run config t (.ofSegments path) index) :=
  byNode fun n formed => by
    match found : n.items[index]? with
    | none => exact ⟨_, skip, fun _ => visitItem_of_none found ..⟩
    | some u =>
      have inside : u.WellFormed := Tree.inherited_wellFormed.of_getElem? formed found
      have joined : Owns scope (Stage.join config (run config u t) (n.putItem index)
          (.index index) (.ofSegments path)) := join (apart u inside) within
      exact ⟨_, joined, fun _ => visitItem_of_some found ..⟩

theorem visitSelf {t : Tree} (path : List Segment) (apart : TellsApart config t)
    (within : ∀ f : Finding, f.Rooted → scope (f.under (.ofSegments []) (.ofSegments path))) :
    Owns scope (visitSelf run config t (.ofSegments path)) :=
  byNode fun n formed => ⟨_, join (apart n formed) within, fun _ => rfl⟩

/-! ### Required keys -/

theorem fillIn {key : String} {v : Violation} (within : ∀ f, v.finding = .ok f → scope f) :
    Owns scope (fillIn config s key v) :=
  byNode fun n _ => by
    match filled : withDefault? n.members s key config.options with
    | .error cause => exact ⟨_, interrupt _, fun _ => fillIn_of_failure filled⟩
    | .ok none => exact ⟨_, reject within, fun _ => fillIn_of_none filled⟩
    | .ok (some members) => exact ⟨_, replace _, fun _ => fillIn_of_some filled⟩

theorem requireKey {index : Nat} {key : String}
    (within : ∀ f, (Violation.requiredMissing index key).finding = .ok f → scope f) :
    Owns scope (requireKey config s index key) :=
  byNode fun n _ => by
    by_cases present : n.members.has key = true
    · exact ⟨_, skip, fun _ => requireKey_of_has present ..⟩
    by_cases coercing : config.coercing = true
    · exact ⟨_, fillIn within, fun _ => requireKey_of_coercing present coercing ..⟩
    · exact ⟨_, reject within, fun _ => requireKey_of_plain present coercing ..⟩

theorem checkRequired (upholds : Upholds config s Tree.WellFormed) :
    Owns (Finding.On ["required"]) (checkRequired config s) := by
  unfold Stage.checkRequired
  split
  · exact skip
  · next items found =>
    split
    · next names read =>
      have empty : (Tree.object []).WellFormed := ⟨List.nodup_nil, trivial⟩
      refine loopIdx (.schema 1)
        (fun index key place => ((Accounts.walk upholds).require empty found read place).node)
        fun index key place => requireKey fun f told => ?_
      have step := Finding.mark_schema_of_finding told [.key "required", .index index] rfl
      exact ⟨⟨_, List.mem_cons_self, step 0⟩, step 1⟩
    · exact malformed _ _
  · exact malformed _ _

/-! ### Members -/

theorem fillDeclared {key : String} {t : Tree}
    (within : ∀ f, (Violation.noDefault key).finding = .ok f → scope f) :
    Owns scope (fillDeclared config s key t) :=
  byNode fun n _ => by
    by_cases missing : (!n.members.has key && config.coercing &&
        config.options.setMissingToDefault && hasDefault t) = true
    · exact ⟨_, fillIn within, fun _ => fillDeclared_of_missing missing s⟩
    · exact ⟨_, skip, fun _ => fillDeclared_of_not_missing missing s⟩

theorem checkProperty {members entries : Members} {entry : String × Tree}
    (upholds : Upholds config s Tree.WellFormed) (apart : TellsApart config entry.2)
    (met : (Tree.object members).WellFormed)
    (found : s.get? "properties" = some (.object entries)) (mem : entry ∈ entries) :
    Owns (fun f => f.On ["properties"] ∧ f.mark (.schema 1) = some entry.1)
      (checkProperty run config s entry) := by
  let path : List Segment := [.key "properties", .key entry.1]
  have fills : Owns (fun f => (f.On ["properties"] ∧ f.mark (.schema 1) = some entry.1) ∧
      f.mark (.data 0) = none) (Stage.fillDeclared config s entry.1 entry.2) :=
    fillDeclared fun f told => by
      have step := Finding.mark_schema_of_finding told path rfl
      exact ⟨⟨⟨_, List.mem_cons_self, step 0⟩, step 1⟩,
        Finding.mark_data_of_finding told [] rfl 0⟩
  have visits : Owns (fun f => (f.On ["properties"] ∧ f.mark (.schema 1) = some entry.1) ∧
      f.mark (.data 0) = some entry.1)
      (sequence [Stage.visitMember run config entry.2 (.ofSegments path) entry.1]) := by
    rw [sequence_singleton]
    refine visitMember apart fun f rooted => ?_
    have step := rooted.mark_schema_under [.key entry.1] path
    exact ⟨⟨⟨_, List.mem_cons_self, step 0⟩, step 1⟩, rooted.mark_data_under _ _ 0⟩
  have forms := ((Accounts.walk upholds).fill met found mem).node
  refine (cons forms fills visits fun f g atNode inside => ?_).mono fun f within => ?_
  · refine Finding.apart_of_mark (.data 0) ?_
    rw [atNode.2, inside.2]
    exact nofun
  · exact within.elim (·.1) (·.1)

theorem checkProperties (upholds : Upholds config s Tree.WellFormed)
    (parts : ∀ t, SubSchema s t → TellsApart config t) (wellFormed : (Tree.object s).WellFormed) :
    Owns (Finding.On ["properties"]) (checkProperties run config s) := by
  unfold Stage.checkProperties
  split
  · exact skip
  · next entries found =>
    have empty : (Tree.object []).WellFormed := ⟨List.nodup_nil, trivial⟩
    exact loop (.schema 1) Prod.fst
      (Members.wellFormed_of_get? wellFormed found).nodup
      (fun entry mem => ((Accounts.walk upholds).checkProperty empty found mem).node)
      fun entry mem => checkProperty upholds (parts _ (.property found mem)) empty found mem
  · exact malformed _ _

theorem checkPattern {entries : Members} {entry : String × Tree}
    (upholds : Upholds config s Tree.WellFormed) (apart : TellsApart config entry.2)
    (found : s.get? "patternProperties" = some (.object entries)) (mem : entry ∈ entries) :
    Owns (fun f => f.On ["patternProperties"] ∧ f.mark (.schema 1) = some entry.1)
      (checkPattern run config entry) := by
  let path : List Segment := [.key "patternProperties", .key entry.1]
  refine reading fun regex read => byNode fun n formed =>
    ⟨sequence ((n.members.keys.filter regex.finds).map
      (Stage.visitMember run config entry.2 (.ofSegments path))), ?_, fun _ => rfl⟩
  have nodup : (n.members.keys.filter regex.finds).Nodup :=
    formed.members.nodup.sublist List.filter_sublist
  refine loop (.data 0) id (by rwa [List.map_id]) (fun key among => ?_)
    fun key among => visitMember apart fun f rooted => ?_
  · have finds := (List.mem_filter.1 among).2
    exact ((Accounts.walk upholds).visitFound found mem (readPattern_eq_ok_iff.1 read) finds).node
  · have step := rooted.mark_schema_under [.key key] path
    exact ⟨⟨⟨_, List.mem_cons_self, step 0⟩, step 1⟩, rooted.mark_data_under _ _ 0⟩

theorem checkPatterns (upholds : Upholds config s Tree.WellFormed)
    (parts : ∀ t, SubSchema s t → TellsApart config t) (wellFormed : (Tree.object s).WellFormed) :
    Owns (Finding.On ["patternProperties"]) (checkPatterns run config s) := by
  unfold Stage.checkPatterns
  split
  · exact skip
  · next entries found =>
    exact loop (.schema 1) Prod.fst
      (Members.wellFormed_of_get? wellFormed found).nodup
      (fun entry mem => ((Accounts.walk upholds).checkPattern found mem).node)
      fun entry mem => checkPattern upholds (parts _ (.pattern found mem)) found mem
  · exact malformed _ _

theorem checkExtra {t : Tree} {policy : Additional} {key : String}
    (parts : ∀ t, SubSchema s t → TellsApart config t)
    (found : s.get? "additionalProperties" = some t)
    (read : Additional.ofTree? t = some policy) :
    Owns (fun f => f.On ["additionalProperties"] ∧ f.mark (.data 0) = some key)
      (checkExtra run config policy key) := by
  cases policy with
  | any => exact skip
  | schema m =>
    rw [Additional.eq_object read] at found
    refine visitMember (parts _ (.additional found)) fun f rooted => ?_
    exact ⟨⟨_, List.mem_cons_self, rooted.mark_schema_under _ [.key "additionalProperties"] 0⟩,
      rooted.mark_data_under _ _ 0⟩
  | forbidden =>
    refine byNode fun n _ => ?_
    by_cases coercing : config.coercing = true
    · exact ⟨_, replace (.object (n.members.erase key)),
        fun _ => checkExtra_of_coercing coercing⟩
    · refine ⟨_, reject fun f told => ?_, fun _ => checkExtra_of_plain coercing⟩
      exact ⟨⟨_, List.mem_cons_self, Finding.mark_schema_of_finding told
        [.key "additionalProperties"] rfl 0⟩, Finding.mark_data_of_finding told [.key key] rfl 0⟩

theorem checkAdditional (upholds : Upholds config s Tree.WellFormed)
    (parts : ∀ t, SubSchema s t → TellsApart config t) :
    Owns (Finding.On ["additionalProperties"]) (checkAdditional run config s) := by
  unfold Stage.checkAdditional
  split
  · exact skip
  · next t found =>
    split
    · exact malformed _ _
    · next policy read =>
      refine byNode fun n formed => ⟨sequence ((extraKeys s n.members).map
        (Stage.checkExtra run config policy)), ?_, fun _ => rfl⟩
      have nodup : (extraKeys s n.members).Nodup :=
        formed.members.nodup.sublist List.filter_sublist
      exact loop (.data 0) id (by rwa [List.map_id])
        (fun key extra => ((Accounts.walk upholds).checkExtra found read formed extra).node)
        fun key extra => checkExtra parts found read

/-! ### Dependencies -/

theorem requireOther {key name : String} {index : Option Nat}
    (within : ∀ f, (Violation.dependencyMissing key name index).finding = .ok f → scope f) :
    Owns scope (requireOther config key name index) :=
  byNode fun n _ => by
    by_cases present : n.members.has name = true
    · exact ⟨_, skip, fun _ => requireOther_of_has present ..⟩
    · exact ⟨_, reject within, fun _ => requireOther_of_not_has present ..⟩

theorem checkDependency {entries : Members} {entry : String × Tree}
    (upholds : Upholds config s Tree.WellFormed)
    (parts : ∀ t, SubSchema s t → TellsApart config t)
    (found : s.get? "dependencies" = some (.object entries)) (mem : entry ∈ entries) :
    Owns (fun f => f.On ["dependencies"] ∧ f.mark (.schema 1) = some entry.1)
      (checkDependency run config entry) := by
  obtain ⟨key, t⟩ := entry
  unfold Stage.checkDependency
  split
  · exact malformed _ _
  · next dependency read =>
    refine byNode fun n _ => ?_
    by_cases present : n.members.has key = true
    · simp only [present]
      cases dependency with
      | schema m =>
        cases Dependency.eq_object read
        refine ⟨_, visitSelf [.key "dependencies", .key key]
          (parts _ (.dependency found mem)) fun f rooted => ?_, fun _ => rfl⟩
        have step := rooted.mark_schema_under [] [.key "dependencies", .key key]
        exact ⟨⟨_, List.mem_cons_self, step 0⟩, step 1⟩
      | keys names =>
        obtain ⟨items, rfl, read'⟩ := Dependency.eq_array read
        refine ⟨_, loopIdx (.schema 2)
          (fun index name place =>
            ((Accounts.walk upholds).requireAll found mem read' place).node)
          (fun index name place => requireOther fun f told => ?_), fun _ => rfl⟩
        have step := Finding.mark_schema_of_finding told
          [.key "dependencies", .key key, .index index] rfl
        exact ⟨⟨⟨_, List.mem_cons_self, step 0⟩, step 1⟩, step 2⟩
      | key name =>
        cases Dependency.eq_string read
        refine ⟨_, requireOther fun f told => ?_, fun _ => rfl⟩
        have step := Finding.mark_schema_of_finding told [.key "dependencies", .key key] rfl
        exact ⟨⟨_, List.mem_cons_self, step 0⟩, step 1⟩
    · exact ⟨_, skip, by simp [present]⟩

theorem checkDependencies (upholds : Upholds config s Tree.WellFormed)
    (parts : ∀ t, SubSchema s t → TellsApart config t) (wellFormed : (Tree.object s).WellFormed) :
    Owns (Finding.On ["dependencies"]) (checkDependencies run config s) := by
  unfold Stage.checkDependencies
  split
  · exact skip
  · next entries found =>
    exact loop (.schema 1) Prod.fst
      (Members.wellFormed_of_get? wellFormed found).nodup
      (fun entry mem => ((Accounts.walk upholds).checkDependency found mem).node)
      fun entry mem => checkDependency upholds parts found mem
  · exact malformed _ _

end Stage.Owns

end TreeSchema
