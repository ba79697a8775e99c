import TreeSchema.Proofs.Alternatives
import TreeSchema.Proofs.FailFast

/-!
Runs that halt. A run that stops at its first finding and a run with a cap of
one add findings alike: each keeps one and then halts. So do the runs of their
parts, those whose halt a combination swallows included, and the two are the
same run. Neither can be mistaken for a run that found nothing, since a run
halts only with a finding in hand.
-/

namespace TreeSchema

theorem Config.Remembers.findings_ne_nil {config : Config} (remembers : config.Remembers)
    {d schema : Tree} (halted : (run config d schema).stop = some .halted) :
    (run config d schema).findings ≠ [] := by
  by_cases object : ∃ s, schema = .object s
  · obtain ⟨s, rfl⟩ := object
    rw [run_object] at halted ⊢
    exact ((Stage.Keeps.closed remembers).stages TreeSchema.run s).halted _ halted
  · rw [run_of_not_object fun s same => object ⟨s, same⟩] at halted
    cases halted

namespace Validator

variable {v : Validator} {coercing : Bool} {data : Tree} {mode : Mode}

theorem exists_outcome_of_halted (remembers : (v.config mode coercing).Remembers)
    (halted : (run (v.config mode coercing) data v.schema).stop = some .halted) :
    ∃ o, v.outcome coercing data mode = .ok o ∧ o.isValid = false := by
  have ends : (run (v.config mode coercing) data v.schema).interruption? = none := by
    rw [Run.interruption?, halted]
  refine ⟨_, outcome_eq_ok_iff.2 ⟨ends, rfl⟩, ?_⟩
  rw [Bool.eq_false_iff, Ne, Outcome.isValid_iff]
  exact remembers.findings_ne_nil halted

theorem outcome_of_run_eq {w : Validator} {other : Mode}
    (same : run (v.config mode coercing) data v.schema =
      run (w.config other coercing) data w.schema) :
    v.outcome coercing data mode = (w.outcome coercing data other).map ({ · with mode }) := by
  simp only [outcome, same]
  cases (run (w.config other coercing) data w.schema).interruption? with
  | none => rfl
  | some i => rfl

theorem length_findings_le {o : Outcome} {bound : Nat}
    (limits : (v.config mode coercing).Limits bound)
    (ended : v.outcome coercing data mode = .ok o) : o.findings.length ≤ bound := by
  obtain ⟨-, rfl⟩ := outcome_eq_ok_iff.1 ended
  exact limits.run data v.schema

end Validator

/-- Stopping at the first finding, whatever the cap, is collecting with a cap of one: the runs have
the same findings, node and end, so the same interruption or outcomes that agree. There is at most
one finding, and a run that was halted is not valid. -/
theorem outcome_failFast_eq_capped (schema data : Tree) (options : Options) (cap : Option Nat)
    (coercing : Bool) :
    run (.failFast cap options coercing) data schema =
        run (.capped 1 options coercing) data schema ∧
      Validator.outcome ⟨schema, options, cap⟩ coercing data .failFast =
        (Validator.outcome ⟨schema, options, some 1⟩ coercing data .collectAll).map
          ({ · with mode := .failFast }) ∧
      (∀ o, Validator.outcome ⟨schema, options, cap⟩ coercing data .failFast = .ok o ∨
          Validator.outcome ⟨schema, options, some 1⟩ coercing data .collectAll = .ok o →
        o.findings.length ≤ 1) ∧
      ((run (.failFast cap options coercing) data schema).stop = some .halted →
        ∃ o o', Validator.outcome ⟨schema, options, cap⟩ coercing data .failFast = .ok o ∧
          Validator.outcome ⟨schema, options, some 1⟩ coercing data .collectAll = .ok o' ∧
          o.isValid = false ∧ o'.isValid = false) := by
  have same : run (.failFast cap options coercing) data schema =
      run (.capped 1 options coercing) data schema :=
    run_congr (Config.failFast_alike_capped cap options coercing) data schema
  have remembers : (Config.capped 1 options coercing).Remembers := by
    intro held f
    have fast := Config.failFast_remembers cap options coercing held f
    rwa [(Config.failFast_alike_capped cap options coercing).add] at fast
  refine ⟨same, Validator.outcome_of_run_eq same, fun o ended => ?_, fun halted => ?_⟩
  · rcases ended with ended | ended
    · exact Validator.length_findings_le (Config.limits_failFast rfl) ended
    · exact Validator.length_findings_le (Config.limits_cap rfl Nat.one_pos) ended
  · obtain ⟨o, ended, invalid⟩ := Validator.exists_outcome_of_halted
      (v := ⟨schema, options, cap⟩) (Config.failFast_remembers cap options coercing) halted
    rw [same] at halted
    obtain ⟨o', ended', invalid'⟩ := Validator.exists_outcome_of_halted
      (v := ⟨schema, options, some 1⟩) remembers halted
    exact ⟨o, o', ended, ended', invalid, invalid'⟩

/-- A number or a text, but no text. -/
def contrarySchema : Tree :=
  .object [("anyOf", .array [.object [("type", .string "number")],
      .object [("type", .string "string")]]),
    ("not", .object [("type", .string "string")])]

/-- The first branch halts without a trace; what is prohibited halts the whole run. -/
theorem outcome_failFast_eq_capped_contrary :
    ∃ f o', Validator.outcome ⟨contrarySchema, .default, some 7⟩ true (.string "x") .failFast =
        .ok ⟨.failFast, [f], .string "x", true⟩ ∧
      f.code = .notPassed ∧
      Validator.outcome ⟨contrarySchema, .default, some 1⟩ true (.string "x") .collectAll =
        .ok o' ∧
      o'.isValid = false := by
  obtain ⟨-, -, -, valid⟩ :=
    outcome_failFast_eq_capped contrarySchema (.string "x") .default (some 7) true
  obtain ⟨o, o', ended, ended', -, invalid'⟩ := valid rfl
  exact ⟨_, o', rfl, rfl, ended', invalid'⟩

end TreeSchema
