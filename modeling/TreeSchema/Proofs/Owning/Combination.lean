import TreeSchema.Proofs.Owning.Object

/-!
What the stages of arrays and of combinations own. Only `oneOf` reports more than
one finding at one place, for each further branch that passes: these findings tell
the indices of two branches, the first of which is never the same.
-/

namespace TreeSchema

theorem takeWhile_isDigit_repr (n : Nat) (rest : List Char) :
    (n.repr.toList ++ ' ' :: rest).takeWhile Char.isDigit = n.repr.toList := by
  have digits : ∀ c ∈ n.repr.toList, c.isDigit = true := fun _ => isDigit_of_mem_repr
  have blank : (' ' :: rest).takeWhile Char.isDigit = [] := rfl
  rw [List.takeWhile_append_of_pos digits, blank, List.append_nil]

theorem Violation.eq_of_oneOfMultiple {a b c d : Nat}
    (same : (oneOfMultiple a b).message = (oneOfMultiple c d).message) : a = c := by
  have spread (a b : Nat) : (oneOfMultiple a b).message =
      .ok ("Value satisfies more than one of the options (" ++
        (a.repr ++ (" and " ++ b.repr ++ ")"))) := by
    simp [message, toString, String.append_assoc]
  rw [spread, spread, Except.ok.injEq, String.append_right_inj] at same
  have chars := congrArg String.toList same
  simp only [String.toList_append] at chars
  have texts : a.repr.toList = c.repr.toList := by
    rw [← takeWhile_isDigit_repr a, ← takeWhile_isDigit_repr c]
    exact congrArg (List.takeWhile Char.isDigit) chars
  exact Segment.text_index_injective (String.toList_inj.1 texts)

namespace Stage.Owns

variable {config : Config} {s : Members} {scope : Finding → Prop}

/-! ### Arrays -/

theorem eachItem {f : Nat → Stage}
    (forms : ∀ n index, Tree.WellFormed n → index < n.items.length → Forms (f index))
    (each : ∀ index : Nat, Owns (fun g => scope g ∧
      g.mark (.data 0) = some (Segment.text (.index index))) (f index)) :
    Owns scope (eachItem f) := by
  refine byNode fun n formed => ⟨sequence ((List.range n.items.length).map f), ?_, fun _ => rfl⟩
  have distinct : ((List.range n.items.length).map fun index : Nat =>
      Segment.text (.index index)).Nodup :=
    List.pairwise_map.2 (List.nodup_range.imp fun other same =>
      other (Segment.text_index_injective same))
  exact loop (.data 0) _ distinct
    (fun index mem => forms n index formed (List.mem_range.1 mem)) fun index _ => each index

theorem checkPlace {schemas : List Tree} {policy : Additional} {index : Nat}
    (parts : ∀ t, SubSchema s t → TellsApart config t)
    (found : s.get? "items" = some (.array schemas)) (read : additionalItems s = .ok policy) :
    Owns (fun f => f.On ["items", "additionalItems"] ∧
      f.mark (.data 0) = some (Segment.text (.index index)))
      (checkPlace run config schemas policy index) := by
  unfold Stage.checkPlace
  split
  · next t place =>
    refine visitItem (parts t (.place found (List.mem_of_getElem? place))) fun f rooted => ?_
    exact ⟨⟨"items", List.mem_cons_self,
      rooted.mark_schema_under _ [.key "items", .index index] 0⟩, rooted.mark_data_under _ _ 0⟩
  · cases policy with
    | any => exact skip
    | schema m =>
      refine visitItem (parts _ (.additionalItem (additionalItems_eq_object read)))
        fun f rooted => ?_
      exact ⟨⟨"additionalItems", List.mem_cons_of_mem _ List.mem_cons_self,
        rooted.mark_schema_under _ [.key "additionalItems"] 0⟩, rooted.mark_data_under _ _ 0⟩
    | forbidden =>
      refine reject fun f told => ?_
      exact ⟨⟨"additionalItems", List.mem_cons_of_mem _ List.mem_cons_self,
        Finding.mark_schema_of_finding told [.key "additionalItems"] rfl 0⟩,
        Finding.mark_data_of_finding told [.index index] rfl 0⟩

theorem checkItems (upholds : Upholds config s Tree.WellFormed)
    (parts : ∀ t, SubSchema s t → TellsApart config t) :
    Owns (Finding.On ["items", "additionalItems"]) (checkItems run config s) := by
  have walk := Accounts.walk upholds
  unfold Stage.checkItems
  split
  · exact skip
  · next m found =>
    refine eachItem (fun n index _ _ => ?_) fun index =>
      visitItem (parts _ (.items found)) fun f rooted => ?_
    · exact (walk.visitEach found index).node
    · exact ⟨⟨"items", List.mem_cons_self, rooted.mark_schema_under _ [.key "items"] 0⟩,
        rooted.mark_data_under _ _ 0⟩
  · next schemas found =>
    refine reading fun policy read => eachItem (fun n index formed bound => ?_) fun index => ?_
    · exact (walk.checkPlace found read formed bound).node
    · exact checkPlace parts found read
  · exact malformed _ _

/-! ### Combinations -/

theorem branches {name : String} {f : List Tree → Stage}
    (owns : ∀ schemas, s.get? name = some (.array schemas) → Owns scope (f schemas)) :
    Owns scope (keyword s name fun t => Stage.reading (branchesOf name t) f) := by
  unfold keyword
  split
  · next t found =>
    refine reading fun schemas read => ?_
    cases t with
    | array =>
      cases read
      exact owns schemas found
    | _ => cases read
  · exact skip

theorem forms_branches {name : String} {f : List Tree → Stage}
    (forms : ∀ schemas, s.get? name = some (.array schemas) → Forms (f schemas)) :
    Forms (keyword s name fun t => Stage.reading (branchesOf name t) f) := by
  unfold keyword
  split
  · next t found =>
    cases t with
    | array schemas => exact forms schemas found
    | _ => exact fun _ => id
  · exact fun _ => id

theorem allOf (upholds : Upholds config s Tree.WellFormed)
    (parts : ∀ t, SubSchema s t → TellsApart config t) {schemas : List Tree}
    (found : s.get? "allOf" = some (.array schemas)) :
    Owns (Finding.On ["allOf"]) (allOf run config (.array schemas)) := by
  have combines : "allOf" ∈ branchKeywords := by decide
  refine loopIdx (.schema 1) (fun index t place => ?_) fun index t place =>
    visitSelf [.key "allOf", .index index]
      (parts t (.branch combines found (List.mem_of_getElem? place))) fun f rooted => ?_
  · exact ((Accounts.walk upholds).visitBranch found place).node
  · have step := rooted.mark_schema_under [] [.key "allOf", .index index]
    exact ⟨⟨_, List.mem_cons_self, step 0⟩, step 1⟩

theorem anyOf (schemas : List Tree) :
    Owns (Finding.On ["anyOf"]) (anyOf run config (.array schemas)) :=
  byNode fun n _ => by
    match judged : judgeBranches (run config n) "anyOf" true 0 schemas with
    | .error i => exact ⟨_, interrupt i, fun _ => anyOf_of_error judged⟩
    | .ok ⟨[], groups⟩ =>
      exact ⟨_, reject_on (v := .anyOfMissing groups) rfl, fun _ => anyOf_of_nil judged⟩
    | .ok ⟨branch :: more, groups⟩ =>
      exact ⟨_, adopt config branch.2, fun _ => anyOf_of_cons judged⟩

theorem multiple {passing : List (Nat × Tree)}
    (ordered : (passing.map (·.1)).Pairwise (· < ·)) :
    Owns (Finding.On ["oneOf"]) (sequence ((neighbours passing).map fun pair =>
      Stage.reject config (.oneOfMultiple pair.1 pair.2))) := by
  let within (pair : Nat × Nat) (f : Finding) : Prop :=
    (Violation.oneOfMultiple pair.1 pair.2).finding = .ok f
  have owns : Owns (fun f => ∃ pair ∈ neighbours passing, within pair f)
      (sequence ((neighbours passing).map fun pair =>
        Stage.reject config (.oneOfMultiple pair.1 pair.2))) := by
    refine map (fun _ _ => .reject config _) (fun pair _ => reject fun f told => told) ?_
    -- These findings share both pointers, so that only their messages tell them apart.
    refine (pairwise_neighbours ordered).imp fun {x y} lt f g told told' _ _ => ?_
    obtain ⟨text, message, rfl⟩ := Violation.exists_of_finding told
    obtain ⟨text', message', rfl⟩ := Violation.exists_of_finding told'
    refine ⟨rfl, rfl, fun same => Nat.ne_of_lt lt ?_⟩
    exact Violation.eq_of_oneOfMultiple (by rw [message, message']; exact congrArg _ same)
  refine owns.mono fun f ⟨pair, _, told⟩ => ⟨"oneOf", List.mem_cons_self, ?_⟩
  exact Finding.mark_schema_of_finding told [.key "oneOf"] rfl 0

theorem oneOf (upholds : Upholds config s Tree.WellFormed) {schemas : List Tree}
    (found : s.get? "oneOf" = some (.array schemas)) :
    Owns (Finding.On ["oneOf"]) (oneOf run config (.array schemas)) :=
  byNode fun n formed => by
    match judged : judgeBranches (run config n) "oneOf" false 0 schemas with
    | .error i => exact ⟨_, interrupt i, fun _ => oneOf_of_error judged⟩
    | .ok ⟨[], groups⟩ =>
      exact ⟨_, reject_on (v := .oneOfMissing groups) rfl, fun _ => oneOf_of_nil judged⟩
    | .ok ⟨branch :: more, groups⟩ =>
      have adopts : Owns (Finding.On []) (Stage.adopt config branch.2) := adopt _ _
      have forms := (Accounts.adoptBranch upholds formed (by decide) found judged
        (List.mem_cons_self (a := branch) (l := more))).node
      exact ⟨_, cons_on forms adopts (multiple (pairwise_passing judged))
        (List.forall_mem_nil _), fun _ => oneOf_of_cons judged⟩

theorem notAny (t : Tree) : Owns (Finding.On ["not"]) (notAny run config t) :=
  byNode fun n _ => by
    match stopped : (run { config with coercing := false } n t).interruption? with
    | some i => exact ⟨_, interrupt _, fun _ => notAny_of_some stopped⟩
    | none =>
      by_cases passes : (run { config with coercing := false } n t).passes = true
      · exact ⟨_, reject_on (v := .notPassed) rfl,
          fun _ => (notAny_of_none stopped).trans (if_pos passes)⟩
      · exact ⟨_, skip, fun _ => (notAny_of_none stopped).trans (if_neg passes)⟩

end Stage.Owns

end TreeSchema
