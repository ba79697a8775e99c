import TreeSchema.Outcome
import TreeSchema.Run

/-!
A validator: a schema with options and a cap on the number of findings. It
checks data as it is, or coerces it toward the schema; a malformed schema gives
no outcome but a fault.
-/

namespace TreeSchema

structure Validator where
  schema : Tree
  options : Options
  cap : Option Nat

/-- Why there is no validator. -/
inductive SetupError where
  | capTooSmall (cap : Int)
  | options (e : OptionsError)
  deriving DecidableEq

def SetupError.message : SetupError → String
  | .capTooSmall n =>
    match integerText n with
    | .ok text => s!"max_errors must be at least 1, got {text}"
    | .error cause => cause.message
  | .options e => e.message

namespace Validator

def capOf : Option Int → Except SetupError (Option Nat)
  | none => .ok none
  | some n => if n < 1 then .error (.capTooSmall n) else .ok (some n.toNat)

/-- A validator for a schema, with options as a caller gives them. -/
def setup (schema options : Tree) (cap : Option Int) : Except SetupError Validator := do
  let cap ← capOf cap
  match Options.ofTree options with
  | .ok options => return { schema, options, cap }
  | .error e => throw (.options e)

def config (v : Validator) (mode : Mode) (coercing : Bool) : Config :=
  { mode, cap := v.cap, coercing, options := v.options }

/-- Runs the data against the schema, in a mode, coercing or not. -/
def outcome (v : Validator) (coercing : Bool) (data : Tree) (mode : Mode) :
    Except Interruption Outcome :=
  let r := run (v.config mode coercing) data v.schema
  match r.interruption? with
  | some i => .error i
  | none =>
    let data := if coercing then r.node else data
    .ok { mode, findings := r.findings, data, coerced := coercing }

/-- There is an outcome exactly when the run is not interrupted, and it tells what the run found. -/
theorem outcome_eq_ok_iff {v : Validator} {coercing : Bool} {data : Tree} {mode : Mode}
    {o : Outcome} :
    v.outcome coercing data mode = .ok o ↔
      (run (v.config mode coercing) data v.schema).interruption? = none ∧
        o = { mode
              findings := (run (v.config mode coercing) data v.schema).findings
              data := if coercing then (run (v.config mode coercing) data v.schema).node else data
              coerced := coercing } := by
  cases h : (run (v.config mode coercing) data v.schema).interruption? with
  | some i => simp [outcome, h]
  | none => simp [outcome, h, eq_comm]

theorem outcome_eq_error_iff {v : Validator} {coercing : Bool} {data : Tree} {mode : Mode}
    {i : Interruption} :
    v.outcome coercing data mode = .error i ↔
      (run (v.config mode coercing) data v.schema).interruption? = some i := by
  cases h : (run (v.config mode coercing) data v.schema).interruption? with
  | some j => simp [outcome, h]
  | none => simp [outcome, h]

/-- Checks the data and leaves it as it is. -/
def validate (v : Validator) (data : Tree) (mode : Mode) : Except Interruption Outcome :=
  v.outcome false data mode

/-- Converts the data toward the schema. -/
def coerce (v : Validator) (data : Tree) (mode : Mode) : Except Interruption Outcome :=
  v.outcome true data mode

/-- Whether the data is valid, by a run that stops at its first finding. -/
def isValid (v : Validator) (data : Tree) : Except Interruption Bool := do
  return (← v.validate data .failFast).isValid

theorem isValid_eq_ok_iff {v : Validator} {data : Tree} {b : Bool} :
    v.isValid data = .ok b ↔ ∃ o, v.validate data .failFast = .ok o ∧ o.isValid = b := by
  cases h : v.validate data .failFast with
  | error i => simp [isValid, h, bind, Except.bind]
  | ok o => simp [isValid, h, bind, Except.bind, pure, Except.pure]

end Validator

end TreeSchema
