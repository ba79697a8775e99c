import TreeSchema.Proofs.Cap
import TreeSchema.Proofs.Passing

/-!
Runs that stop at their first finding. Such a run adds findings as one with a
cap of one does, so its verdict is that of the run that collects all findings,
when that run comes to one. The other direction is about what is not read: after
a finding the rest of the schema could be malformed without anybody noticing.
That is no matter as long as the finding counts, but a combination that looks
into the findings of its branches may turn it into a verdict that the data is
valid. Without such combinations whatever passes at the first finding passes
altogether (`Carries`).
-/

namespace TreeSchema

def Config.failFast (cap : Option Nat) (options : Options) (coercing : Bool) : Config :=
  { mode := .failFast, cap, coercing, options }

namespace Config

variable (cap : Option Nat) (options : Options) (coercing : Bool)

theorem failFast_remembers : (failFast cap options coercing).Remembers := by
  intro held f
  cases held <;> simp [failFast, Mode.add]

theorem failFast_alike_capped :
    (failFast cap options coercing).Alike (capped 1 options coercing) where
  coercing := rfl
  options := rfl
  add := by
    funext held f
    cases held <;> rfl

end Config

/-- A run that stops at its first finding has a verdict where the collecting run has one, and the
same. -/
theorem run_failFast_of_collecting {options : Options} {coercing : Bool} {node schema : Tree}
    (cap : Option Nat)
    (ends : (run (.collecting options coercing) node schema).interruption? = none) :
    (run (.failFast cap options coercing) node schema).interruption? = none ∧
      ((run (.failFast cap options coercing) node schema).findings = [] ↔
        (run (.collecting options coercing) node schema).findings = []) := by
  have cut := run_truncates Nat.one_pos options schema coercing node ends
  rw [run_congr (Config.failFast_alike_capped cap options coercing)]
  exact ⟨cut.interruption?_eq_none, cut.findings_eq_nil_iff Nat.one_pos⟩

/-! ### Schemas without combinations of verdicts -/

/-- The schema has no keyword that looks into the findings of its branches. -/
def Members.Unbranched (schema : Members) : Prop :=
  ∀ name ∈ ["anyOf", "oneOf", "not"], schema.get? name = none

namespace Stage

/-- Whatever passes the first stage passes the second one in the same way. -/
structure Carries (fast slow : Stage) : Prop where
  keeps : Keeps fast
  keeps' : Keeps slow
  passes : ∀ node after, Passes fast node after → Passes slow node after

namespace Carries

variable {c d : Config}

theorem of_not_passes {fast slow : Stage} (keeps : Keeps fast) (keeps' : Keeps slow)
    (never : ∀ node after, ¬ Passes fast node after) : Carries fast slow :=
  ⟨keeps, keeps', fun node after passes => absurd passes (never node after)⟩

theorem cons {s t : Stage} {xs ys : List Stage} (first : Carries s t)
    (rest : Carries (sequence xs) (sequence ys)) :
    Carries (sequence (s :: xs)) (sequence (t :: ys)) where
  keeps := first.keeps.cons rest.keeps
  keeps' := first.keeps'.cons rest.keeps'
  passes node after passes := by
    obtain ⟨mid, begins, ends⟩ := (passes_cons rest.keeps).1 passes
    exact (passes_cons rest.keeps').2 ⟨mid, first.passes _ _ begins, rest.passes _ _ ends⟩

theorem byNode {s t : Stage} (h : ∀ node, ∃ s' t', Carries s' t' ∧
    (∀ held, s ⟨node, held⟩ = s' ⟨node, held⟩) ∧ ∀ held, t ⟨node, held⟩ = t' ⟨node, held⟩) :
    Carries s t where
  keeps := .byNode fun node => by
    obtain ⟨s', _, carries, same, _⟩ := h node
    exact ⟨s', carries.keeps, same⟩
  keeps' := .byNode fun node => by
    obtain ⟨_, t', carries, _, same⟩ := h node
    exact ⟨t', carries.keeps', same⟩
  passes node after passes := by
    obtain ⟨s', t', carries, left, right⟩ := h node
    rw [Passes, left] at passes
    rw [Passes, right]
    exact carries.passes node after passes

theorem congruence (coercing : c.coercing = d.coercing) (options : c.options = d.options)
    (fast : c.Remembers) (slow : d.Remembers) : Congruence c d Carries where
  coercing := coercing
  options := options
  skip := ⟨(Keeps.closed fast).skip, (Keeps.closed fast).skip, fun _ _ => id⟩
  interrupt i := ⟨(Keeps.closed fast).interrupt i, (Keeps.closed fast).interrupt i, fun _ _ => id⟩
  replace t := ⟨(Keeps.closed fast).replace t, (Keeps.closed fast).replace t, fun _ _ => id⟩
  reject v _ := of_not_passes ((Keeps.closed fast).reject v) ((Keeps.closed slow).reject v)
    fun _ _ => not_passes_reject fast v
  cons := cons
  byNode := byNode

theorem join (coercing : c.coercing = d.coercing) (fast : c.Remembers) (slow : d.Remembers)
    {part other : Run} (same : part.passes = true → other = part) (place : Tree → Tree)
    (data path : Pointer) :
    Carries (join c part place data path) (Stage.join d other place data path) where
  keeps := (Keeps.closed fast).join ..
  keeps' := (Keeps.closed slow).join ..
  passes node after passes := by
    obtain ⟨passed, rfl⟩ := (passes_join fast).1 passes
    rw [passes_join slow, same passed, coercing]
    exact ⟨passed, rfl⟩

end Carries

end Stage

/-- Without combinations of verdicts a run that passes at the first finding is the whole run. -/
theorem run_collecting_of_failFast {cap : Option Nat} {options : Options} {coercing : Bool}
    {schema : Tree} (plain : Everywhere Members.Unbranched schema) :
    ∀ node, (run (.failFast cap options coercing) node schema).passes = true →
      run (.collecting options coercing) node schema =
        run (.failFast cap options coercing) node schema := by
  induction schema using schema_induction with
  | object s parts =>
    intro node passes
    have fast := Config.failFast_remembers cap options coercing
    have slow := Config.collecting_remembers options coercing
    have absent {name : String} {t : Tree} (mem : name ∈ ["anyOf", "oneOf", "not"])
        (found : s.get? name = some t) : False := by
      rw [plain.here name mem] at found
      cases found
    have same : (Config.failFast cap options coercing).coercing =
      (Config.collecting options coercing).coercing := rfl
    -- The keywords that look into the findings of their branches are ruled out one by one.
    have walk := (Stage.Carries.congruence same rfl fast slow).stages
      (fun t sub node place data path =>
        .join same fast slow (parts t sub (plain.inside sub) node) place data path)
      ⟨fun _ found => (absent (by decide) found).elim,
        fun _ found => (absent (by decide) found).elim,
        fun _ found => (absent (by decide) found).elim⟩
    rw [run_object] at passes ⊢
    rw [run_object]
    have passed := walk.keeps.passes_iff.1 passes
    exact (walk.passes _ _ passed).trans passed.symm
  | other t other =>
    intro node passes
    rw [run_of_not_object other] at passes
    cases passes

/-! ### Verdicts -/

/-- Where checking comes to an outcome, asking for validity answers as the outcome does; and on a
schema without combinations of verdicts the answer is yes exactly when there is a valid outcome. -/
theorem isValid_iff_validate (schema : Tree) (options : Options) (data : Tree) :
    (∀ o, Validator.validate ⟨schema, options, none⟩ data .collectAll = .ok o →
      Validator.isValid ⟨schema, options, none⟩ data = .ok o.isValid) ∧
    (Everywhere Members.Unbranched schema →
      (Validator.isValid ⟨schema, options, none⟩ data = .ok true ↔
        ∃ o, Validator.validate ⟨schema, options, none⟩ data .collectAll = .ok o ∧
          o.isValid = true)) := by
  have answer (o : Outcome)
      (ended : Validator.validate ⟨schema, options, none⟩ data .collectAll = .ok o) :
      Validator.isValid ⟨schema, options, none⟩ data = .ok o.isValid := by
    obtain ⟨ends, rfl⟩ := Validator.outcome_eq_ok_iff.1 ended
    obtain ⟨ends', same⟩ := run_failFast_of_collecting none ends
    refine Validator.isValid_eq_ok_iff.2 ⟨_, Validator.outcome_eq_ok_iff.2 ⟨ends', rfl⟩, ?_⟩
    rw [Bool.eq_iff_iff, Outcome.isValid_iff, Outcome.isValid_iff]
    exact same
  refine ⟨answer, fun plain => ⟨fun valid => ?_, fun ⟨o, ended, valid⟩ => valid ▸ answer o ended⟩⟩
  obtain ⟨o, ended, valid⟩ := Validator.isValid_eq_ok_iff.1 valid
  obtain ⟨ends, rfl⟩ := Validator.outcome_eq_ok_iff.1 ended
  have clean := (Outcome.isValid_iff _).1 valid
  have whole := run_collecting_of_failFast plain data ((Run.passes_iff _).2 ⟨ends, clean⟩)
  refine ⟨_, Validator.outcome_eq_ok_iff.2 ⟨?_, rfl⟩, (Outcome.isValid_iff _).2 ?_⟩
  · exact (congrArg Run.interruption? whole).trans ends
  · exact (congrArg (·.findings) whole).trans clean

/-- Lists of texts. -/
def textsSchema : Tree :=
  .object [("type", .string "array"), ("items", .object [("type", .string "string")])]

theorem isValid_iff_validate_items :
    Validator.isValid ⟨textsSchema, .default, none⟩ (.array [.string "a"]) = .ok true ∧
      (Validator.isValid ⟨textsSchema, .default, none⟩ .null = .ok true ↔
        ∃ o, Validator.validate ⟨textsSchema, .default, none⟩ .null .collectAll = .ok o ∧
          o.isValid = true) := by
  have leaf : Everywhere Members.Unbranched (.object [("type", .string "string")]) :=
    Everywhere.object_iff.2 ⟨by simp [Members.Unbranched, Members.get?], nofun⟩
  have plain : Everywhere Members.Unbranched textsSchema :=
    Everywhere.object_iff.2 ⟨by simp [Members.Unbranched, Members.get?],
      List.forall_mem_singleton.2 leaf⟩
  exact ⟨(isValid_iff_validate textsSchema .default (.array [.string "a"])).1 _ rfl,
    (isValid_iff_validate textsSchema .default .null).2 plain⟩

/-- A schema with a malformed keyword behind one that no number gets past. -/
def blockedSchema : Tree :=
  .object [("type", .string "string"), ("enum", .number (.int 5))]

/-- A branch is not read on after its first finding, so its fault goes unnoticed. -/
theorem isValid_of_blocked_branch :
    (∀ name ∈ ["anyOf", "oneOf"],
      Validator.isValid ⟨.object [(name, .array [blockedSchema, .object []])], .default, none⟩
        (.number (.int 1)) = .ok true ∧
      Validator.validate ⟨.object [(name, .array [blockedSchema, .object []])], .default, none⟩
        (.number (.int 1)) .collectAll =
        .error (.fault ⟨.ofSegments [.key name, .index 0, .key "enum"], .enumOptions⟩)) ∧
    Validator.isValid ⟨.object [("not", blockedSchema)], .default, none⟩ (.number (.int 1)) =
      .ok true ∧
    Validator.validate ⟨.object [("not", blockedSchema)], .default, none⟩ (.number (.int 1))
      .collectAll = .error (.fault ⟨.entry "not" (.key "enum"), .enumOptions⟩) := by
  refine ⟨fun name mem => ?_, rfl, rfl⟩
  simp only [List.mem_cons, List.not_mem_nil, or_false] at mem
  rcases mem with rfl | rfl
  · exact ⟨rfl, rfl⟩
  · exact ⟨rfl, rfl⟩

end TreeSchema
