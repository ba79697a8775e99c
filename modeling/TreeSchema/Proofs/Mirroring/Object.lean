import TreeSchema.Proofs.Mirroring.Node
import TreeSchema.Proofs.Satisfaction

/-!
Stages for objects, side by side. The members of the data, the declared members, the
patterns and the dependencies may stand in two orders: each turn of a loop has its
partner in the other run, and the keys beyond the declared ones are the same.
-/

namespace TreeSchema

/-! ### Members of equal objects -/

namespace Tree.Same

variable {n n' : Tree}

theorem get?_cases (same : n.Same n') (key : String) :
    n.members.get? key = none ∧ n'.members.get? key = none ∨
      ∃ u u', n.members.get? key = some u ∧ n'.members.get? key = some u' ∧ u.Same u' := by
  have matching := same.matching
  cases matching with
  | object members => exact Members.get?_cases same.members same.wellFormed.nodup key
  | _ => exact .inl ⟨rfl, rfl⟩

theorem perm_keys (same : n.Same n') : n.members.keys.Perm n'.members.keys := by
  have matching := same.matching
  cases matching with
  | object members => exact Members.perm_keys members
  | _ => exact .refl _

theorem has_eq (same : n.Same n') (key : String) : n.members.has key = n'.members.has key := by
  rw [Bool.eq_iff_iff, Members.has_iff_mem_keys, Members.has_iff_mem_keys, same.perm_keys.mem_iff]

end Tree.Same

namespace Twins

variable {options : Options} {s s' : Members}

theorem entries (h : Twins options s s') (keyword : String) :
    Rearranges (Member.Matches Tree.Reordered) (((s.get? keyword).map Tree.members).getD [])
      (((s'.get? keyword).map Tree.members).getD []) := by
  obtain ⟨found, found'⟩ | ⟨t, t', found, found', reordered⟩ := h.get?_cases keyword
  · rw [found, found']
    exact .nil
  · rw [found, found']
    cases reordered with
    | object members => exact members
    | _ => exact .nil

theorem perm_extraKeys (h : Twins options s s') {n n' : Tree} (same : n.Same n') :
    (Stage.extraKeys s n.members).Perm (Stage.extraKeys s' n'.members) := by
  have declared (key : String) : (((s.get? "properties").map Tree.members).getD []).has key =
      (((s'.get? "properties").map Tree.members).getD []).has key := by
    rw [Bool.eq_iff_iff, Members.has_iff_mem_keys, Members.has_iff_mem_keys,
      (Members.perm_keys (h.entries "properties")).mem_iff]
  have regexes : (Stage.regexes s).Perm (Stage.regexes s') := by
    unfold Stage.regexes
    refine (h.entries "patternProperties").perm_filterMap fun entry entry' same => ?_
    cases same
    rfl
  unfold Stage.extraKeys
  have extra : (fun key => !(((s.get? "properties").map Tree.members).getD []).has key &&
      !(Stage.regexes s).any (·.finds key)) =
      fun key => !(((s'.get? "properties").map Tree.members).getD []).has key &&
        !(Stage.regexes s').any (·.finds key) := by
    funext key
    rw [declared, regexes.any_eq]
  simp only [extra]
  exact same.perm_keys.filter _

theorem countedMembers_eq (h : Twins options s s') :
    Stage.countedMembers options s = Stage.countedMembers options s' := by
  funext members
  obtain ⟨found, found'⟩ | ⟨t, t', found, found', reordered⟩ := h.get?_cases "ignoreNullProperties"
  · simp only [Stage.countedMembers, found, found']
  · simp only [Stage.countedMembers, found, found']
    cases reordered with
    | bool b => rfl
    | _ => cases options.ignoreNullProperties <;> rfl

theorem same_counted (h : Twins options s s') {n n' : Tree} (same : n.Same n') :
    (n.counted options s).Same (n'.counted options s') := by
  have matching := same.matching
  cases matching with
  | object members =>
    simp only [Tree.counted, h.countedMembers_eq]
    rcases Stage.countedMembers_cases options s' with all | filters
    · rw [all, all]
      exact same
    · rw [filters, filters]
      refine ⟨same.wellFormed.filter _, .object (members.filter fun m n related => ?_)⟩
      obtain ⟨value⟩ := related
      cases value <;> rfl
  | _ => exact same

end Twins

namespace Stage.Mirrors

variable {options : Options} {n n' : Tree} {s s' : Members}

/-! ### Parts -/

theorem visitMember {t t' : Tree} (alike : Alike options t t') (same : n.Same n') (path : Pointer)
    (key : String) :
    Mirrors (visitMember run (.collecting options false) t path key)
      (Stage.visitMember run (.collecting options false) t' path key) n n' n n' := by
  obtain ⟨found, found'⟩ | ⟨u, u', found, found', part⟩ := same.get?_cases key
  · exact skip.at_node (fun _ => visitMember_of_none found ..)
      fun _ => visitMember_of_none found' ..
  · have within := alike u u' part
    exact (join within (n.putMember key) (n'.putMember key) (.key key) path).at_node
      (fun _ => visitMember_of_some found ..) fun _ => visitMember_of_some found' ..

theorem visitSelf {t t' : Tree} (alike : Alike options t t') (same : n.Same n') (path : Pointer) :
    Mirrors (visitSelf run (.collecting options false) t path)
      (Stage.visitSelf run (.collecting options false) t' path) n n' n n' :=
  (join (alike n n' same) id id .here path).at_node (fun _ => rfl) fun _ => rfl

/-! ### Keywords -/

section

variable (h : Twins options s s') (same : n.Same n')

include h same

theorem checkRequired :
    Mirrors (checkRequired (.collecting options false) s)
      (Stage.checkRequired (.collecting options false) s') n n' n n' := by
  have requireKey (index : Nat) (key : String) :
      Mirrors (requireKey (.collecting options false) s index key)
        (Stage.requireKey (.collecting options false) s' index key) n n' n n' := by
    by_cases present : n.members.has key = true
    · have present' := same.has_eq key ▸ present
      exact skip.at_node (fun _ => requireKey_of_has present ..)
        fun _ => requireKey_of_has present' ..
    · have present' := same.has_eq key ▸ present
      exact (reject options (.requiredMissing index key)).at_node
        (fun _ => requireKey_of_plain present Bool.false_ne_true ..)
        fun _ => requireKey_of_plain present' Bool.false_ne_true ..
  unfold Stage.checkRequired
  obtain ⟨found, found'⟩ | ⟨t, t', found, found', reordered⟩ := h.get?_cases "required"
  · simp only [found, found']
    exact skip
  · simp only [found, found']
    cases reordered with
    | array items =>
      simp only [Tree.strings?_eq_of_reordered items]
      split
      · exact mapIdx (List.forall₂_same.2 fun _ _ => rfl)
          fun index key _ _ eq => eq ▸ requireKey index key
      · exact malformed ..
    | _ => exact malformed ..

theorem checkProperties :
    Mirrors (checkProperties run (.collecting options false) s)
      (Stage.checkProperties run (.collecting options false) s') n n' n n' := by
  -- Nothing is filled in where nothing is coerced.
  have fillDeclared (key : String) (t t' : Tree) :
      Mirrors (fillDeclared (.collecting options false) s key t)
        (Stage.fillDeclared (.collecting options false) s' key t') n n' n n' :=
    skip.at_node (fun _ => by simp [Stage.fillDeclared]) fun _ => by simp [Stage.fillDeclared]
  unfold Stage.checkProperties
  obtain ⟨found, found'⟩ | ⟨t, t', found, found', reordered⟩ := h.get?_cases "properties"
  · simp only [found, found']
    exact skip
  · simp only [found, found']
    cases reordered with
    | object entries =>
      refine map (entries.of_mem fun entry mem entry' _ reordered => ?_)
      obtain ⟨reordered⟩ := reordered
      have alike := h.parts _ _ (.property found mem) reordered
      exact (fillDeclared _ _ _).cons ((visitMember alike same _ _).cons nil)
    | _ => exact malformed ..

theorem checkPatterns :
    Mirrors (checkPatterns run (.collecting options false) s)
      (Stage.checkPatterns run (.collecting options false) s') n n' n n' := by
  unfold Stage.checkPatterns
  obtain ⟨found, found'⟩ | ⟨t, t', found, found', reordered⟩ := h.get?_cases "patternProperties"
  · simp only [found, found']
    exact skip
  · simp only [found, found']
    cases reordered with
    | object entries =>
      refine map (entries.of_mem fun entry mem entry' _ reordered => ?_)
      obtain @⟨pattern, t, t', reordered⟩ := reordered
      have alike := h.parts _ _ (.pattern found mem) reordered
      unfold checkPattern
      dsimp only
      cases readPattern (.entry "patternProperties" (.key pattern)) pattern with
      | error i => exact interrupt i i
      | ok regex =>
        -- The keys that the pattern finds stand in the order of the data.
        have visits := perm (same.perm_keys.filter regex.finds) fun key =>
          visitMember alike same (.entry "patternProperties" (.key pattern)) key
        exact visits.at_node (fun _ => rfl) fun _ => rfl
    | _ => exact malformed ..

theorem checkAdditional :
    Mirrors (checkAdditional run (.collecting options false) s)
      (Stage.checkAdditional run (.collecting options false) s') n n' n n' := by
  unfold Stage.checkAdditional
  obtain ⟨found, found'⟩ | ⟨t, t', found, found', reordered⟩ := h.get?_cases "additionalProperties"
  · simp only [found, found']
    exact skip
  · simp only [found, found']
    have alike (m : Members) (eq : t = .object m) : Alike options t t' :=
      h.parts _ _ (eq ▸ .additional (eq ▸ found)) reordered
    obtain ⟨read, read'⟩ | ⟨policy, policy', read, read', same_policy⟩ :=
      Additional.read_cases reordered alike
    · simp only [read, read']
      exact malformed ..
    · simp only [read, read']
      have each (key : String) : Mirrors (checkExtra run (.collecting options false) policy key)
          (checkExtra run (.collecting options false) policy' key) n n' n n' := by
        cases same_policy with
        | any => exact skip
        | schema alike => exact visitMember alike same _ key
        | forbidden =>
          exact (reject options (.additionalProperty key)).at_node
            (fun _ => checkExtra_of_plain Bool.false_ne_true)
            fun _ => checkExtra_of_plain Bool.false_ne_true
      exact (perm (h.perm_extraKeys same) each).at_node (fun _ => rfl) fun _ => rfl

theorem checkDependencies :
    Mirrors (checkDependencies run (.collecting options false) s)
      (Stage.checkDependencies run (.collecting options false) s') n n' n n' := by
  have requireOther (key other : String) (index : Option Nat) :
      Mirrors (requireOther (.collecting options false) key other index)
        (Stage.requireOther (.collecting options false) key other index) n n' n n' := by
    by_cases present : n.members.has other = true
    · have present' := same.has_eq other ▸ present
      exact skip.at_node (fun _ => requireOther_of_has present ..)
        fun _ => requireOther_of_has present' ..
    · have present' := same.has_eq other ▸ present
      exact (reject options (.dependencyMissing key other index)).at_node
        (fun _ => requireOther_of_not_has present ..)
        fun _ => requireOther_of_not_has present' ..
  unfold Stage.checkDependencies
  obtain ⟨found, found'⟩ | ⟨t, t', found, found', reordered⟩ := h.get?_cases "dependencies"
  · simp only [found, found']
    exact skip
  · simp only [found, found']
    cases reordered with
    | object entries =>
      refine map (entries.of_mem fun entry mem entry' _ reordered => ?_)
      obtain @⟨key, t, t', reordered⟩ := reordered
      -- What depends on a key is asked for where the key is present, which is in both or in none.
      have asked {f g : Stage} (mirrors : Mirrors f g n n' n n') :
          Mirrors (fun p => if !p.node.members.has key then Stage.skip p else f p)
            (fun p => if !p.node.members.has key then Stage.skip p else g p) n n' n n' := by
        have present' := same.has_eq key
        by_cases present : n.members.has key = true
        · exact mirrors.at_node (fun _ => by simp [present]) fun _ => by simp [← present', present]
        · exact skip.at_node (fun _ => by simp [present]) fun _ => by simp [← present', present]
      unfold checkDependency
      cases reordered with
      | object members =>
        have alike := h.parts _ _ (.dependency found mem) (.object members)
        exact asked (visitSelf alike same _)
      | array items =>
        simp only [Dependency.ofTree?, Tree.strings?_eq_of_reordered items]
        cases Tree.strings? _ with
        | none => exact malformed ..
        | some names =>
          exact asked (mapIdx (List.forall₂_same.2 fun _ _ => rfl)
            fun index name _ _ eq => eq ▸ requireOther key name (some index))
      | string name => exact asked (requireOther key name none)
      | _ => exact malformed ..
    | _ => exact malformed ..

end

theorem checkObject (h : Twins options s s') (same : n.Same n') :
    Mirrors (checkObject run (.collecting options false) s)
      (Stage.checkObject run (.collecting options false) s') n n' (n.counted options s)
      (n'.counted options s') := by
  have counted := h.same_counted same
  have matching := same.matching
  cases matching with
  | object members =>
    have counts := checkConstraints options (Constraint.readAlike_ofObjects h) counted
    have all := (checkRequired h counted).cons <| (checkProperties h counted).cons <|
      (checkPatterns h counted).cons <| (checkAdditional h counted).cons <|
      (checkDependencies h counted).cons <| counts.cons nil
    exact (replace.cons all).at_node (fun _ => rfl) fun _ => rfl
  | _ => exact skip.at_node (fun _ => rfl) fun _ => rfl

end Stage.Mirrors

end TreeSchema
