import TreeSchema.Run.Walk

/-!
Relations between two engines that only differ in how they run parts and in how
they record findings. A `Congruence` is a relation between stages that holds of
the atomic stages and is respected by every way of putting stages together. The
stages of a schema are then related as soon as the runs of the schemas inside it
and the stages of the three combinations that look into the findings of a branch
are (`Congruence.walk`). A property of single stages (`Closed`) is a relation of
an engine with itself.
-/

namespace TreeSchema

namespace Constraint

/-- A single constraint has no alternatives to tell about. -/
theorem groups_of_judge {c : Constraint} {t : Tree} {v : Violation}
    (h : c.judge t = .ok (some v)) : v.groups = [] := by
  cases c <;> cases t <;> simp [judge, refuseIf] at h
  case uniqueItems.array items =>
    obtain ⟨first, second, -, rfl⟩ := h
    rfl
  case multipleOf.number divisor n =>
    cases decided : n.isMultiple divisor with
    | error cause => rw [decided] at h; cases h
    | ok b => rw [decided] at h; cases b <;> cases h; rfl
  all_goals obtain ⟨-, rfl⟩ := h; rfl

end Constraint

namespace Stage

/-- A relation between the stages of two engines that all ways of making stages respect. -/
structure Congruence (c d : Config) (R : Stage → Stage → Prop) : Prop where
  coercing : c.coercing = d.coercing
  options : c.options = d.options
  skip : R skip skip
  interrupt : ∀ i, R (interrupt i) (interrupt i)
  replace : ∀ node, R (replace node) (replace node)
  /-- Violations of alternatives are left to the combinations. -/
  reject : ∀ v, v.groups = [] → R (reject c v) (reject d v)
  cons : ∀ {s t : Stage} {xs ys : List Stage}, R s t → R (sequence xs) (sequence ys) →
    R (sequence (s :: xs)) (sequence (t :: ys))
  /-- What a stage does may depend on the node it meets. -/
  byNode : ∀ {s t : Stage}, (∀ node, ∃ s' t', R s' t' ∧
    (∀ held, s ⟨node, held⟩ = s' ⟨node, held⟩) ∧ ∀ held, t ⟨node, held⟩ = t' ⟨node, held⟩) → R s t

namespace Congruence

variable {c d : Config} {R : Stage → Stage → Prop}

theorem sequential (h : Congruence c d R) : Sequential (fun _ => True) R :=
  ⟨h.skip, h.cons, fun related => h.byNode fun node => related node trivial⟩

theorem map (h : Congruence c d R) {α : Type} {f g : α → Stage} {xs : List α}
    (related : ∀ x ∈ xs, R (f x) (g x)) : R (sequence (xs.map f)) (sequence (xs.map g)) :=
  h.sequential.map related

/-! ### What a schema does by itself -/

theorem convertNode (h : Congruence c d R) (types : List TypeName) :
    R (convertNode c types) (Stage.convertNode d types) := by
  refine h.byNode fun node => ?_
  match conversion : convertTo node (types.map TypeName.name) with
  | .error cause =>
    exact ⟨_, _, h.interrupt (.failure cause), fun _ => convertNode_of_failure conversion,
      fun _ => convertNode_of_failure conversion⟩
  | .ok (.ok converted) =>
    exact ⟨_, _, h.replace converted, fun _ => convertNode_of_converted conversion,
      fun _ => convertNode_of_converted conversion⟩
  | .ok (.error r) =>
    exact ⟨_, _, h.reject (.invalidType node.kindText) rfl,
      fun _ => convertNode_of_refused conversion, fun _ => convertNode_of_refused conversion⟩

theorem checkTypes (h : Congruence c d R) (types : List TypeName) :
    R (checkTypes c types) (Stage.checkTypes d types) := by
  refine h.byNode fun node => ?_
  by_cases typed : types.any node.hasType = true
  · exact ⟨_, _, h.skip, fun _ => checkTypes_of_typed typed, fun _ => checkTypes_of_typed typed⟩
  by_cases coercing : d.coercing = true
  · exact ⟨_, _, h.convertNode types, fun _ => checkTypes_of_coercing typed (h.coercing ▸ coercing),
      fun _ => checkTypes_of_coercing typed coercing⟩
  · exact ⟨_, _, h.reject (.invalidType node.kindText) rfl,
      fun _ => checkTypes_of_plain typed (h.coercing ▸ coercing),
      fun _ => checkTypes_of_plain typed coercing⟩

theorem checkConstraint (h : Congruence c d R) (x : Constraint) :
    R (checkConstraint c x) (Stage.checkConstraint d x) := by
  refine h.byNode fun node => ?_
  match judged : x.judge node with
  | .error cause =>
    exact ⟨_, _, h.interrupt (.failure cause), fun _ => checkConstraint_of_failure judged,
      fun _ => checkConstraint_of_failure judged⟩
  | .ok none =>
    exact ⟨_, _, h.skip, fun _ => checkConstraint_of_none judged,
      fun _ => checkConstraint_of_none judged⟩
  | .ok (some v) =>
    exact ⟨_, _, h.reject v (Constraint.groups_of_judge judged),
      fun _ => checkConstraint_of_some judged, fun _ => checkConstraint_of_some judged⟩

theorem checkConstraints (h : Congruence c d R) (constraints : Constraint.Reading) :
    R (checkConstraints c constraints) (Stage.checkConstraints d constraints) := by
  cases constraints with
  | ok cs => exact h.map fun x _ => h.checkConstraint x
  | error i => exact h.interrupt i

theorem fillIn (h : Congruence c d R) (schema : Members) (key : String) {v : Violation}
    (leaf : v.groups = []) : R (fillIn c schema key v) (Stage.fillIn d schema key v) := by
  refine h.byNode fun node => ?_
  have same : withDefault? node.members schema key c.options =
    withDefault? node.members schema key d.options := by rw [h.options]
  match filled : withDefault? node.members schema key d.options with
  | .error cause =>
    exact ⟨_, _, h.interrupt (.failure cause), fun _ => fillIn_of_failure (same.trans filled),
      fun _ => fillIn_of_failure filled⟩
  | .ok none =>
    exact ⟨_, _, h.reject v leaf, fun _ => fillIn_of_none (same.trans filled),
      fun _ => fillIn_of_none filled⟩
  | .ok (some members) =>
    exact ⟨_, _, h.replace (.object members), fun _ => fillIn_of_some (same.trans filled),
      fun _ => fillIn_of_some filled⟩

theorem requireKey (h : Congruence c d R) (schema : Members) (index : Nat) (key : String) :
    R (requireKey c schema index key) (Stage.requireKey d schema index key) := by
  refine h.byNode fun node => ?_
  by_cases present : node.members.has key = true
  · exact ⟨_, _, h.skip, fun _ => requireKey_of_has present ..,
      fun _ => requireKey_of_has present ..⟩
  by_cases coercing : d.coercing = true
  · exact ⟨_, _, h.fillIn schema key (v := .requiredMissing index key) rfl,
      fun _ => requireKey_of_coercing present (h.coercing ▸ coercing) ..,
      fun _ => requireKey_of_coercing present coercing ..⟩
  · exact ⟨_, _, h.reject (.requiredMissing index key) rfl,
      fun _ => requireKey_of_plain present (h.coercing ▸ coercing) ..,
      fun _ => requireKey_of_plain present coercing ..⟩

theorem fillDeclared (h : Congruence c d R) (schema : Members) (key : String) (s : Tree) :
    R (fillDeclared c schema key s) (Stage.fillDeclared d schema key s) := by
  refine h.byNode fun node => ?_
  by_cases fills : (!node.members.has key && d.coercing && d.options.setMissingToDefault &&
      hasDefault s) = true
  · exact ⟨_, _, h.fillIn schema key (v := .noDefault key) rfl,
      fun _ => fillDeclared_of_missing (h.coercing ▸ h.options ▸ fills) schema,
      fun _ => fillDeclared_of_missing fills schema⟩
  · exact ⟨_, _, h.skip,
      fun _ => fillDeclared_of_not_missing (h.coercing ▸ h.options ▸ fills) schema,
      fun _ => fillDeclared_of_not_missing fills schema⟩

theorem requireOther (h : Congruence c d R) (key other : String) (index : Option Nat) :
    R (requireOther c key other index) (Stage.requireOther d key other index) := by
  refine h.byNode fun node => ?_
  by_cases present : node.members.has other = true
  · exact ⟨_, _, h.skip, fun _ => requireOther_of_has present ..,
      fun _ => requireOther_of_has present ..⟩
  · exact ⟨_, _, h.reject (.dependencyMissing key other index) rfl,
      fun _ => requireOther_of_not_has present .., fun _ => requireOther_of_not_has present ..⟩

/-! ### Parts -/

/-- The runs against `t`, taken over into the node around it, are related. -/
def Visits (c d : Config) (R : Stage → Stage → Prop) (v w : Visit) (t : Tree) : Prop :=
  ∀ node place data path,
    R (join c (v c node t) place data path) (join d (w d node t) place data path)

variable {v w : Visit}

theorem visitMember (h : Congruence c d R) {t : Tree} (part : Visits c d R v w t) (path : Pointer)
    (key : String) : R (visitMember v c t path key) (Stage.visitMember w d t path key) :=
  h.sequential.visitMember fun node u _ _ => part u (node.putMember key) (.key key) path

theorem visitItem (h : Congruence c d R) {t : Tree} (part : Visits c d R v w t) (path : Pointer)
    (index : Nat) : R (visitItem v c t path index) (Stage.visitItem w d t path index) :=
  h.sequential.visitItem fun node u _ _ => part u (node.putItem index) (.index index) path

theorem checkProperty (h : Congruence c d R) (schema : Members) {entry : String × Tree}
    (part : Visits c d R v w entry.2) :
    R (checkProperty v c schema entry) (Stage.checkProperty w d schema entry) :=
  h.cons (h.fillDeclared ..) (h.cons (h.visitMember part ..) h.skip)

theorem checkExtra (h : Congruence c d R) {policy : Additional}
    (part : ∀ s, policy = .schema s → Visits c d R v w (.object s)) (key : String) :
    R (checkExtra v c policy key) (Stage.checkExtra w d policy key) := by
  cases policy with
  | any => exact h.skip
  | schema s => exact h.visitMember (part s rfl) ..
  | forbidden =>
    refine h.byNode fun node => ?_
    by_cases coercing : d.coercing = true
    · exact ⟨_, _, h.replace (.object (node.members.erase key)),
        fun _ => checkExtra_of_coercing (h.coercing ▸ coercing),
        fun _ => checkExtra_of_coercing coercing⟩
    · exact ⟨_, _, h.reject (.additionalProperty key) rfl,
        fun _ => checkExtra_of_plain (h.coercing ▸ coercing),
        fun _ => checkExtra_of_plain coercing⟩

theorem checkPlace (h : Congruence c d R) {schemas : List Tree} {policy : Additional}
    (places : ∀ t ∈ schemas, Visits c d R v w t)
    (part : ∀ s, policy = .schema s → Visits c d R v w (.object s)) (index : Nat) :
    R (checkPlace v c schemas policy index) (Stage.checkPlace w d schemas policy index) := by
  unfold Stage.checkPlace
  split
  · next t place => exact h.visitItem (places t (List.mem_of_getElem? place)) ..
  · cases policy with
    | any => exact h.skip
    | schema s => exact h.visitItem (part s rfl) ..
    | forbidden => exact h.reject _ rfl

/-! ### All of it -/

/-- The combinations that look into the findings of a branch, for two engines. -/
structure Branching (schema : Members) (c d : Config) (R : Stage → Stage → Prop) (v w : Visit) :
    Prop where
  anyOf : ∀ schemas, schema.get? "anyOf" = some (.array schemas) →
    R (anyOf v c (.array schemas)) (Stage.anyOf w d (.array schemas))
  oneOf : ∀ schemas, schema.get? "oneOf" = some (.array schemas) →
    R (oneOf v c (.array schemas)) (Stage.oneOf w d (.array schemas))
  notAny : ∀ t, schema.get? "not" = some t → R (notAny v c t) (Stage.notAny w d t)

/-- The relation holds of all stages of a schema when it holds of the runs against the schemas
inside it. -/
theorem walk (h : Congruence c d R) {schema : Members}
    (parts : ∀ t, SubSchema schema t → Visits c d R v w t)
    (branching : Branching schema c d R v w) : Walk c d v w (fun _ => True) R schema where
  toSequential := h.sequential
  misread _ := h.interrupt _
  types _ _ := h.checkTypes _
  constraints _ := h.checkConstraints _
  counted _ := h.options ▸ h.replace _
  require _ _ _ _ := h.requireKey ..
  fill _ _ _ := h.fillDeclared ..
  forbid _ _ _ := h.checkExtra (fun _ schema => by cases schema) _
  requireAll _ _ _ _ := h.requireOther ..
  requireOne _ _ := h.requireOther ..
  excess _ _ _ _ _ := h.reject _ rfl
  part _ applies := parts _ (applies.applies (by decide)).subSchema ..
  anyOf found := branching.anyOf _ found
  oneOf found := branching.oneOf _ found
  notAny found := branching.notAny _ found

/-- All stages of a schema are related when the runs against the schemas inside it are. -/
theorem stages (h : Congruence c d R) {schema : Members}
    (parts : ∀ t, SubSchema schema t → Visits c d R v w t)
    (branching : Branching schema c d R v w) :
    R (sequence (stages v c schema)) (sequence (TreeSchema.stages w d schema)) :=
  (h.walk parts branching).stages

end Congruence

/-- A property of stages that all ways of making stages in a run keep. -/
structure Closed (config : Config) (P : Stage → Prop) : Prop where
  skip : P skip
  interrupt : ∀ i, P (interrupt i)
  replace : ∀ node, P (replace node)
  report : ∀ f, P (report config f)
  cons : ∀ {s : Stage} {xs : List Stage}, P s → P (sequence xs) → P (sequence (s :: xs))
  byNode : ∀ {s : Stage},
    (∀ node, ∃ s', P s' ∧ ∀ held, s ⟨node, held⟩ = s' ⟨node, held⟩) → P s

namespace Closed

variable {config : Config} {P : Stage → Prop}

theorem reject (h : Closed config P) (v : Violation) : P (reject config v) := by
  unfold Stage.reject
  cases v.finding with
  | ok f => exact h.report f
  | error cause => exact h.interrupt _

/-- Such a property is a relation that ignores its second side. -/
theorem congruence (h : Closed config P) : Congruence config config fun s _ => P s where
  coercing := rfl
  options := rfl
  skip := h.skip
  interrupt := h.interrupt
  replace := h.replace
  reject v _ := h.reject v
  cons := h.cons
  byNode related := h.byNode fun node => by
    obtain ⟨s', _, holds, same, _⟩ := related node
    exact ⟨s', holds, same⟩

theorem map (h : Closed config P) {α : Type} {f : α → Stage} (xs : List α)
    (each : ∀ x, P (f x)) : P (sequence (xs.map f)) :=
  h.congruence.map (g := f) fun x _ => each x

/-- Taking over the run of a part reports its findings, however that run went. -/
theorem join (h : Closed config P) (part : Run) (place : Tree → Tree) (data path : Pointer) :
    P (join config part place data path) := by
  refine h.byNode fun node => ?_
  match stopped : part.interruption? with
  | some i => exact ⟨_, h.interrupt (i.under path), fun _ => join_of_some stopped ..⟩
  | none =>
    have reports := h.map part.findings fun f => h.report (f.under data path)
    exact ⟨_, h.cons (h.replace (if config.coercing then place part.node else node)) reports,
      fun _ => join_of_none stopped ..⟩

theorem adopt (h : Closed config P) (node : Tree) : P (adopt config node) :=
  h.byNode fun _ => ⟨_, h.replace _, fun _ => adopt_eq ..⟩

theorem branching (h : Closed config P) (schema : Members) (v : Visit) :
    Congruence.Branching schema config config (fun s _ => P s) v v where
  anyOf schemas _ := h.byNode fun node => by
    match judged : judgeBranches (v config node) "anyOf" true 0 schemas with
    | .error i => exact ⟨_, h.interrupt i, fun _ => anyOf_of_error judged⟩
    | .ok ⟨[], groups⟩ => exact ⟨_, h.reject _, fun _ => anyOf_of_nil judged⟩
    | .ok ⟨branch :: _, groups⟩ => exact ⟨_, h.adopt branch.2, fun _ => anyOf_of_cons judged⟩
  oneOf schemas _ := h.byNode fun node => by
    match judged : judgeBranches (v config node) "oneOf" false 0 schemas with
    | .error i => exact ⟨_, h.interrupt i, fun _ => oneOf_of_error judged⟩
    | .ok ⟨[], groups⟩ => exact ⟨_, h.reject _, fun _ => oneOf_of_nil judged⟩
    | .ok ⟨branch :: _, groups⟩ =>
      exact ⟨_, h.cons (h.adopt branch.2) (h.map _ fun _ => h.reject _),
        fun _ => oneOf_of_cons judged⟩
  notAny t _ := h.byNode fun node => by
    match stopped : (v { config with coercing := false } node t).interruption? with
    | some i => exact ⟨_, h.interrupt (i.under (.key "not")), fun _ => notAny_of_some stopped⟩
    | none =>
      by_cases passes : (v { config with coercing := false } node t).passes = true
      · exact ⟨_, h.reject .notPassed, fun _ => (notAny_of_none stopped).trans (if_pos passes)⟩
      · exact ⟨_, h.skip, fun _ => (notAny_of_none stopped).trans (if_neg passes)⟩

theorem walk (h : Closed config P) (v : Visit) (schema : Members) :
    Walk config config v v (fun _ => True) (fun s _ => P s) schema :=
  h.congruence.walk (fun _ _ _ _ _ _ => h.join ..) (h.branching schema v)

theorem stages (h : Closed config P) (v : Visit) (schema : Members) :
    P (sequence (stages v config schema)) :=
  (h.walk v schema).stages

end Closed

end Stage

end TreeSchema
