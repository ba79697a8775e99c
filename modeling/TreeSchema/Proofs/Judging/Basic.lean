import TreeSchema.Proofs.Collecting
import TreeSchema.Proofs.Satisfaction

/-!
What the stages of a collecting run judge. A stage that is not interrupted adds
findings to those it is handed, and adds none exactly when the data is as the
stage asks (`Judges`). A run that does not coerce changes a node in one place
only, where the members of an object that do not count are left out; so it is
known beforehand what node each stage meets, and what a sequence asks is what its
stages ask together. Here are the rules for putting stages together, and the
stages for every kind of node.
-/

namespace TreeSchema.Stage

/-- If the stage comes to an end at the node, it leaves the node after it, adds findings to those
it is handed, and adds none exactly when `P` holds. -/
def Judges (stage : Stage) (node after : Tree) (P : Prop) : Prop :=
  ∀ held, (stage ⟨node, held⟩).interruption? = none →
    ∃ found, stage ⟨node, held⟩ = ⟨⟨after, held ++ found⟩, none⟩ ∧ (found = [] ↔ P)

namespace Judges

variable {s : Stage} {xs : List Stage} {node after : Tree} {P Q : Prop}

theorem skip : Judges skip node node True :=
  fun held _ => ⟨[], by simp [Stage.skip], by simp⟩

theorem interrupt (i : Interruption) : Judges (interrupt i) node after P :=
  fun _ ends => nomatch ends

theorem malformed (path : Pointer) (cause : Malformed) :
    Judges (malformed path cause) node after P :=
  interrupt _

theorem reject (options : Options) (node : Tree) (v : Violation) :
    Judges (reject (.collecting options false) v) node node False := by
  unfold Stage.reject
  cases v.finding with
  | ok f => exact fun held _ => ⟨[f], rfl, by simp⟩
  | error cause => exact interrupt _

theorem iff (h : Judges s node after P) (same : P ↔ Q) : Judges s node after Q := by
  intro held ends
  obtain ⟨found, comes, judged⟩ := h held ends
  exact ⟨found, comes, judged.trans same⟩

theorem at_node {s' : Stage} (h : Judges s' node after P)
    (same : ∀ held, s ⟨node, held⟩ = s' ⟨node, held⟩) : Judges s node after P := by
  intro held
  rw [same held]
  exact h held

theorem reading {α : Type} {part : Except Interruption α} {f : α → Stage} {P : α → Prop}
    (h : ∀ a, part = .ok a → Judges (f a) node after (P a)) :
    Judges (reading part f) node after (∀ a, part = .ok a → P a) := by
  cases part with
  | error i => exact interrupt i
  | ok a => exact (h a rfl).iff (by simp)

/-- A sequence asks what its stages ask, each of the node that it meets. -/
theorem cons {mid : Tree} (first : Judges s node mid P) (rest : Judges (sequence xs) mid after Q) :
    Judges (sequence (s :: xs)) node after (P ∧ Q) := by
  intro held ends
  cases stopped : (s ⟨node, held⟩).stop with
  | some stop =>
    -- A stage that comes to an end at the node goes on.
    rw [sequence_cons_of_some stopped] at ends
    obtain ⟨found, comes, _⟩ := first held ends
    rw [comes] at stopped
    cases stopped
  | none =>
    obtain ⟨found, comes, judged⟩ := first held (by simp [Run.interruption?, stopped])
    rw [sequence_cons_of_none stopped, comes] at ends ⊢
    obtain ⟨more, comes', judged'⟩ := rest (held ++ found) ends
    refine ⟨found ++ more, ?_, ?_⟩
    · rw [comes', List.append_assoc]
    · rw [List.append_eq_nil_iff, judged, judged']

theorem nil : Judges (sequence []) node node True :=
  skip

theorem map {α : Type} {f : α → Stage} {P : α → Prop} {xs : List α}
    (h : ∀ x ∈ xs, Judges (f x) node node (P x)) :
    Judges (sequence (xs.map f)) node node (∀ x ∈ xs, P x) := by
  induction xs with
  | nil => exact nil.iff (by simp)
  | cons x xs ih =>
    have rest := ih fun y mem => h y (List.mem_cons_of_mem _ mem)
    exact ((h x List.mem_cons_self).cons rest).iff List.forall_mem_cons.symm

theorem mapIdx {α : Type} {f : Nat → α → Stage} {P : α → Prop} {xs : List α}
    (h : ∀ index, ∀ x ∈ xs, Judges (f index x) node node (P x)) :
    Judges (sequence (xs.mapIdx f)) node node (∀ x ∈ xs, P x) := by
  induction xs generalizing f with
  | nil => exact nil.iff (by simp)
  | cons x xs ih =>
    have rest := ih fun index y mem => h (index + 1) y (List.mem_cons_of_mem _ mem)
    rw [List.mapIdx_cons]
    exact ((h 0 x List.mem_cons_self).cons rest).iff List.forall_mem_cons.symm

theorem join (options : Options) {part : Run}
    (h : part.interruption? = none → (part.findings = [] ↔ P)) (place : Tree → Tree)
    (data path : Pointer) :
    Judges (join (.collecting options false) part place data path) node node P := by
  intro held ends
  cases stopped : part.interruption? with
  | some i =>
    rw [join_of_some stopped] at ends
    cases ends
  | none =>
    have told := reports_collecting options false node held (part.findings.map (·.under data path))
    rw [List.map_map] at told
    rw [join_of_none stopped]
    exact ⟨_, told, List.map_eq_nil_iff.trans (h stopped)⟩

end Judges

/-! ### Every kind of node -/

section

variable (options : Options) {node : Tree} (s : Members)

theorem judges_checkTypes (types : List TypeName) :
    Judges (checkTypes (.collecting options false) types) node node
      (types.any node.hasType = true) := by
  by_cases typed : types.any node.hasType = true
  · exact (Judges.skip.iff (by simp [typed])).at_node fun _ => checkTypes_of_typed typed
  · have rejects := Judges.reject options node (.invalidType node.kindText)
    exact (rejects.iff (by simp [typed])).at_node fun _ =>
      checkTypes_of_plain typed Bool.false_ne_true

theorem judges_checkType :
    Judges (checkType (.collecting options false) s) node node
      (∀ types, s.has "type" = true → declaredTypes s = .ok types →
        types.any node.hasType = true) := by
  unfold checkType
  split
  · next absent => exact Judges.skip.iff (by simp_all)
  · next present =>
    split
    · next types read =>
      exact (judges_checkTypes options types).iff (by simp_all)
    · exact .malformed _ _

theorem judges_checkConstraint (c : Constraint) :
    Judges (checkConstraint (.collecting options false) c) node node (c.Holds node) := by
  match judged : c.judge node with
  | .error cause =>
    exact (Judges.interrupt (.failure cause)).at_node fun _ =>
      checkConstraint_of_failure judged
  | .ok none =>
    have holds := (Constraint.holds_iff_of_judge judged).1 rfl
    exact (Judges.skip.iff (iff_of_true trivial holds)).at_node fun _ =>
      checkConstraint_of_none judged
  | .ok (some v) =>
    have fails : ¬ c.Holds node := fun holds =>
      nomatch (Constraint.holds_iff_of_judge judged).2 holds
    exact ((Judges.reject options node v).iff (iff_of_false id fails)).at_node fun _ =>
      checkConstraint_of_some judged

theorem judges_checkConstraints {options : Options} {reading : Constraint.Reading} {P : Prop}
    (read : ∀ cs, reading = .ok cs → ((∀ c ∈ cs, c.Holds node) ↔ P)) :
    Judges (checkConstraints (.collecting options false) reading) node node P := by
  unfold checkConstraints
  cases reading with
  | error i => exact .interrupt i
  | ok cs => exact (Judges.map fun c _ => judges_checkConstraint options c).iff (read cs rfl)

end

/-! ### Parts -/

/-- The runs against `t` find nothing exactly in the data that satisfies it. -/
def Decides (options : Options) (v : Visit) (sat : Tree → Tree → Prop) (t : Tree) : Prop :=
  ∀ d, (v (.collecting options false) d t).interruption? = none →
    ((v (.collecting options false) d t).findings = [] ↔ sat t d)

theorem judges_visitSelf {options : Options} {v : Visit} {sat : Tree → Tree → Prop} {node t : Tree}
    (part : Decides options v sat t) (path : Pointer) :
    Judges (visitSelf v (.collecting options false) t path) node node (sat t node) :=
  (Judges.join options (part node) id .here path).at_node fun _ => rfl

end TreeSchema.Stage
