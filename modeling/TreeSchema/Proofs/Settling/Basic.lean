import TreeSchema.Proofs.Passing
import TreeSchema.Proofs.Satisfaction

/-!
Values that coercion has settled. A value is settled under a schema when both
kinds of run pass on it and leave it as it is. For schemas that look at each part
of the data once (`SinglePass`), whatever a coercing run leaves when it passes is
settled: nothing that a later stage writes undoes what an earlier stage has seen
to. Here are the stages for every kind of node, and what is common to the loops
over members and items.
-/

namespace TreeSchema

/-- Runs against the schema pass on the value and leave it, coercing or not. -/
def Settled (options : Options) (schema v : Tree) : Prop :=
  ∀ coercing, (run (.collecting options coercing) v schema).passes = true ∧
    (run (.collecting options coercing) v schema).node = v

/-- What a coercing run leaves when it passes is settled. -/
def Settles (options : Options) (schema : Tree) : Prop :=
  ∀ d, (run (.collecting options true) d schema).passes = true →
    Settled options schema (run (.collecting options true) d schema).node

/-- The policy lets the part stand: it does not forbid it, and the part is settled under its schema,
if there is one. -/
def Additional.LetsStand (options : Options) (policy : Additional) (u : Tree) : Prop :=
  policy ≠ .forbidden ∧ ∀ m, policy = .schema m → Settled options (.object m) u

/-! ### The fragment -/

/-- The keywords by which a schema looks at a part of the data more than once. -/
def repeatingKeywords : List String :=
  ["patternProperties", "dependencies", "allOf", "anyOf", "oneOf", "not"]

/-- The schema looks at each part once: at members by what they are declared as or else by what is
said about additional ones, at items by their places. -/
structure Members.SinglePass (s : Members) : Prop where
  absent : ∀ name ∈ repeatingKeywords, s.get? name = none
  scalars : ∀ choices, s.get? "enum" = some (.array choices) → ∀ choice ∈ choices, choice.Scalar
  required : ∀ names, s.get? "required" = some (.array names) → ∀ key, .string key ∈ names →
    s.Declares key

/-- What may become of a node after its type has been seen to: parts of it are rewritten. -/
inductive Tree.Reworked : Tree → Tree → Prop where
  | same (t : Tree) : Reworked t t
  | object (members members' : Members) : Reworked (.object members) (.object members')
  | array (items items' : List Tree) : Reworked (.array items) (.array items')

namespace Tree.Reworked

variable {t u : Tree}

theorem hasType_eq (h : Reworked t u) (type : TypeName) : u.hasType type = t.hasType type := by
  cases h with
  | same => rfl
  | object | array => cases type <;> rfl

theorem eq_of_scalar (h : Reworked t u) (scalar : t.Scalar) : u = t := by
  cases h with
  | same => rfl
  | object => exact absurd rfl scalar.2
  | array => exact absurd rfl scalar.1

end Tree.Reworked

theorem Tree.Scalar.of_equal {t choice : Tree} (scalar : choice.Scalar)
    (same : t.equal choice = true) : t.Scalar := by
  rw [Tree.Scalar, Tree.kind_eq_of_equal same]
  exact scalar

namespace Stage

/-! ### Sequences -/

/-- The stages pass one after the other. -/
def PassesAll : List Stage → Tree → Tree → Prop
  | [], node, after => after = node
  | s :: rest, node, after => ∃ mid, Passes s node mid ∧ PassesAll rest mid after

theorem Keeps.sequence {xs : List Stage} (keeps : ∀ s ∈ xs, Keeps s) : Keeps (sequence xs) := by
  induction xs with
  | nil => exact .of_stop (i := none) (fun _ => rfl) fun _ => rfl
  | cons s rest ih =>
    exact (keeps s List.mem_cons_self).cons (ih fun s mem => keeps s (List.mem_cons_of_mem _ mem))

theorem passes_sequence {xs : List Stage} (keeps : ∀ s ∈ xs, Keeps s) {node after : Tree} :
    Passes (sequence xs) node after ↔ PassesAll xs node after := by
  induction xs generalizing node with
  | nil => exact passes_skip
  | cons s rest ih =>
    have keeps' : ∀ s ∈ rest, Keeps s := fun s mem => keeps s (List.mem_cons_of_mem _ mem)
    rw [passes_cons (.sequence keeps')]
    exact exists_congr fun mid => and_congr_right fun _ => ih keeps'

theorem passes_sequence_same {xs : List Stage} {node : Tree} (h : ∀ s ∈ xs, Passes s node node) :
    Passes (sequence xs) node node := by
  induction xs with
  | nil => exact passes_skip.2 rfl
  | cons s rest ih =>
    have first := h s List.mem_cons_self
    rw [Passes, sequence_cons_of_none (by rw [first]), first]
    exact ih fun s mem => h s (List.mem_cons_of_mem _ mem)

section

variable {α : Type} {f : α → Stage} {xs : List α} {node after : Tree}

theorem passes_map_keeps {P : Tree → Prop} (keeps : ∀ x, Keeps (f x))
    (turn : ∀ x ∈ xs, ∀ n n', P n → Passes (f x) n n' → P n') (holds : P node)
    (passes : Passes (sequence (xs.map f)) node after) : P after := by
  induction xs generalizing node with
  | nil => exact passes_skip.1 passes ▸ holds
  | cons x rest ih =>
    obtain ⟨mid, first, others⟩ := (passes_cons (.sequence (by simp [keeps]))).1 passes
    exact ih (fun y mem => turn y (List.mem_cons_of_mem _ mem))
      (turn x List.mem_cons_self _ _ holds first) others

/-- A loop sees to one thing after the other: what a turn makes good stays good, as no later turn
spoils it. The invariant is what the turns need of the nodes they meet. -/
theorem passes_map {I : Tree → Prop} {G : α → Tree → Prop} (keeps : ∀ x, Keeps (f x))
    (turn : ∀ x ∈ xs, ∀ n n', I n → Passes (f x) n n' → I n' ∧ G x n')
    (spares : xs.Pairwise fun x y => ∀ n n', I n → G x n → Passes (f y) n n' → G x n')
    (inv : I node) (passes : Passes (sequence (xs.map f)) node after) :
    I after ∧ ∀ x ∈ xs, G x after := by
  induction xs generalizing node with
  | nil => exact ⟨passes_skip.1 passes ▸ inv, by simp⟩
  | cons x rest ih =>
    obtain ⟨mid, first, others⟩ := (passes_cons (.sequence (by simp [keeps]))).1 passes
    obtain ⟨spared, spares⟩ := List.pairwise_cons.1 spares
    have turn' := fun y mem => turn y (List.mem_cons_of_mem x mem)
    -- The first thing stays good through the rest of the loop, which keeps the invariant, too.
    obtain ⟨inv, good⟩ := turn x List.mem_cons_self _ _ inv first
    have stays : I after ∧ G x after :=
      passes_map_keeps (P := fun n => I n ∧ G x n) keeps
        (fun y mem n n' ⟨inv, good⟩ turns =>
          ⟨(turn' y mem n n' inv turns).1, spared y mem n n' inv good turns⟩) ⟨inv, good⟩ others
    exact ⟨stays.1, List.forall_mem_cons.2 ⟨stays.2, (ih turn' spares inv others).2⟩⟩

end

/-! ### Every kind of node -/

theorem keeps_walk (options : Options) (coercing : Bool) :
    Congruence (.collecting options coercing) (.collecting options coercing) fun s _ => Keeps s :=
  (Keeps.closed (Config.collecting_remembers options coercing)).congruence

theorem keeps_parts (options : Options) (coercing : Bool) (t : Tree) :
    Congruence.Visits (.collecting options coercing) (.collecting options coercing)
      (fun s _ => Keeps s) run run t :=
  fun _ _ _ _ => (Keeps.closed (Config.collecting_remembers options coercing)).join ..

section

variable {options : Options} {coercing : Bool} {s : Members} {node after : Tree}

/-- A node that has passed the type stage has one of the types, converted if need be. -/
theorem hasType_of_passes_checkTypes {types : List TypeName}
    (passes : Passes (checkTypes (.collecting options coercing) types) node after) :
    types.any after.hasType = true := by
  have rejected {v : Violation} (h : Passes (reject (.collecting options coercing) v) node after) :
      types.any after.hasType = true :=
    absurd h (not_passes_reject (Config.collecting_remembers options coercing) v)
  by_cases typed : types.any node.hasType = true
  · rw [passes_congr (checkTypes_of_typed typed), passes_skip] at passes
    exact passes ▸ typed
  by_cases on : coercing = true
  · rw [passes_congr (checkTypes_of_coercing typed on)] at passes
    match conversion : convertTo node (types.map TypeName.name) with
    | .error cause =>
      rw [passes_congr (convertNode_of_failure conversion)] at passes
      exact absurd passes not_passes_interrupt
    | .ok (.ok t) =>
      rw [passes_congr (convertNode_of_converted conversion), passes_replace] at passes
      exact passes ▸ hasType_of_convertTo conversion
    | .ok (.error r) =>
      rw [passes_congr (convertNode_of_refused conversion)] at passes
      exact rejected passes
  · rw [passes_congr (checkTypes_of_plain typed on)] at passes
    exact rejected passes

theorem settled_checkType (passes : Passes (checkType (.collecting options coercing) s) node after)
    {v : Tree} (reworked : Tree.Reworked after v) (other : Bool) :
    Passes (checkType (.collecting options other) s) v v := by
  unfold checkType at passes ⊢
  split
  · exact passes_skip.2 rfl
  · next present =>
    rw [if_neg present] at passes
    split at passes
    · next types read =>
      have typed := hasType_of_passes_checkTypes passes
      rw [← funext reworked.hasType_eq] at typed
      exact (passes_congr (checkTypes_of_typed typed)).2 (passes_skip.2 rfl)
    · exact absurd passes not_passes_malformed

theorem passes_checkConstraint_iff {c : Constraint} :
    Passes (checkConstraint (.collecting options coercing) c) node after ↔
      c.judge node = .ok none ∧ after = node := by
  match judged : c.judge node with
  | .error cause => simp [passes_congr (checkConstraint_of_failure judged)]
  | .ok none => simp [passes_congr (checkConstraint_of_none judged)]
  | .ok (some v) =>
    have rejects : ¬ Passes (reject (.collecting options coercing) v) node after :=
      not_passes_reject (Config.collecting_remembers options coercing) v
    simp [passes_congr (checkConstraint_of_some judged), rejects]

theorem passes_checkConstraints_iff {reading : Constraint.Reading} :
    Passes (checkConstraints (.collecting options coercing) reading) node after ↔
      (∃ cs, reading = .ok cs ∧ ∀ c ∈ cs, c.judge node = .ok none) ∧ after = node := by
  have keeps (c : Constraint) : Keeps (checkConstraint (.collecting options coercing) c) :=
    (keeps_walk options coercing).checkConstraint c
  cases reading with
  | error i => exact iff_of_false not_passes_interrupt (by simp)
  | ok cs =>
    have all : Passes (sequence (cs.map (checkConstraint (.collecting options coercing)))) node
        after ↔ (∀ c ∈ cs, c.judge node = .ok none) ∧ after = node := by
      induction cs with
      | nil => simp
      | cons c rest ih =>
        rw [List.map_cons, passes_cons (.sequence (by simp [keeps]))]
        simp [passes_checkConstraint_iff, ih, and_assoc]
    rw [checkConstraints, reading_ok, all]
    simp

theorem settled_choices (single : s.SinglePass)
    (passes : Passes (checkConstraints (.collecting options coercing) (Constraint.ofEnum s)) node
      after) {v : Tree} (reworked : Tree.Reworked node v) (other : Bool) :
    Passes (checkConstraints (.collecting options other) (Constraint.ofEnum s)) v v := by
  obtain ⟨⟨cs, read, judged⟩, -⟩ := passes_checkConstraints_iff.1 passes
  refine passes_checkConstraints_iff.2 ⟨⟨cs, read, fun c mem => ?_⟩, rfl⟩
  have met := judged c mem
  match found : s.get? "enum" with
  | some (.array choices) =>
    rw [Constraint.ofEnum, found] at read
    cases read
    cases List.mem_singleton.1 mem
    -- The choice that was met is a scalar, so the node is one, and nothing has become of it.
    obtain ⟨choice, among, same⟩ := (Constraint.holds_iff_of_judge met).1 rfl
    rwa [reworked.eq_of_scalar ((single.scalars choices found choice among).of_equal same)]
  | none =>
    rw [Constraint.ofEnum, found] at read
    cases read
    cases mem
  | some .null | some (.bool _) | some (.number _) | some (.string _) | some (.object _) =>
    simp [Constraint.ofEnum, found, Interruption.malformed] at read

theorem passes_checkString_iff :
    Passes (checkString (.collecting options coercing) s) node after ↔
      (∀ text, node = .string text → ∃ cs, Constraint.ofStrings s = .ok cs ∧
        ∀ c ∈ cs, c.judge node = .ok none) ∧ after = node := by
  cases node with
  | string text =>
    refine (passes_congr rfl).trans (passes_checkConstraints_iff.trans ?_)
    simp
  | _ => exact (passes_congr rfl).trans (passes_skip.trans (by simp))

theorem passes_checkNumber_iff :
    Passes (checkNumber (.collecting options coercing) s) node after ↔
      (∀ n, node = .number n → ∃ cs, Constraint.ofNumbers s = .ok cs ∧
        ∀ c ∈ cs, c.judge node = .ok none) ∧ after = node := by
  cases node with
  | number n =>
    refine (passes_congr rfl).trans (passes_checkConstraints_iff.trans ?_)
    simp
  | _ => exact (passes_congr rfl).trans (passes_skip.trans (by simp))

theorem passes_checkCombinations_iff
    (uncombined : ∀ name ∈ "not" :: branchKeywords, s.get? name = none) :
    Passes (checkCombinations run (.collecting options coercing) s) node after ↔ after = node := by
  have absent (name : String) (mem : name ∈ "not" :: branchKeywords) (stage : Tree → Stage) :
      keyword s name stage = skip := by
    simp [keyword, uncombined name mem]
  have skips : checkCombinations run (.collecting options coercing) s =
      sequence [skip, skip, skip, skip] := by
    unfold checkCombinations
    rw [absent "allOf" (by decide), absent "anyOf" (by decide), absent "oneOf" (by decide),
      absent "not" (by decide)]
  rw [skips]
  exact passes_skip

theorem passes_stages_iff :
    Passes (sequence (stages run (.collecting options coercing) s)) node after ↔
      PassesAll (stages run (.collecting options coercing) s) node after := by
  refine passes_sequence ?_
  have walk := (Keeps.closed (Config.collecting_remembers options coercing)).walk run s
  simp only [stages, List.forall_mem_cons]
  exact ⟨walk.checkType, (keeps_walk options coercing).checkConstraints _, walk.checkObject,
    walk.checkArray, walk.checkString, walk.checkNumber, walk.checkCombinations,
    List.forall_mem_nil _⟩

end

end Stage

end TreeSchema
