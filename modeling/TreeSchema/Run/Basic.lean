import TreeSchema.Finding.Violation
import TreeSchema.Schema.Fault
import TreeSchema.Schema.Options

/-!
Runs: one node checked against one schema. A run is made of stages, each of
which takes the node as the earlier stages left it and the findings so far, and
either goes on or stops the run. A stage that checks a part of the node starts
a run of its own there, whose findings it reports from where it stands.
-/

namespace TreeSchema

/-- What a run is told. -/
structure Config where
  mode : Mode
  cap : Option Nat
  coercing : Bool
  options : Options

/-- Why a run stops before its last stage: it has the findings it wanted, or there is no verdict. -/
inductive Stop where
  | halted
  | interrupted (i : Interruption)

/-- The node as it stands, and the findings so far. -/
structure Progress where
  node : Tree
  findings : List Finding

structure Run extends Progress where
  stop : Option Stop

namespace Run

def interruption? (r : Run) : Option Interruption :=
  match r.stop with
  | some (.interrupted i) => some i
  | _ => none

/-- A run without findings and without interruption. -/
def passes (r : Run) : Bool :=
  r.interruption?.isNone && r.findings.isEmpty

theorem passes_iff (r : Run) : r.passes = true ↔ r.interruption? = none ∧ r.findings = [] := by
  simp [passes]

/-- The run comes to an end and finds something. -/
def Rejects (r : Run) : Prop :=
  r.interruption? = none ∧ r.passes = false

end Run

abbrev Stage := Progress → Run

/-- How a stage checks a node against a schema in a run of its own. -/
abbrev Visit := Config → Tree → Tree → Run

namespace Stage

def skip : Stage := fun p => ⟨p, none⟩

def interrupt (i : Interruption) : Stage := fun p => ⟨p, some (.interrupted i)⟩

def replace (node : Tree) : Stage := fun p => ⟨{ p with node }, none⟩

/-- Stages one after the other, up to the first that stops. -/
def sequence : List Stage → Stage
  | [] => skip
  | stage :: rest => fun p =>
    let r := stage p
    match r.stop with
    | none => sequence rest r.toProgress
    | some _ => r

@[simp] theorem sequence_nil : sequence [] = skip := rfl

/-- A stage that goes on hands its progress to the next. -/
theorem sequence_cons_of_none {stage : Stage} {rest : List Stage} {p : Progress}
    (h : (stage p).stop = none) :
    sequence (stage :: rest) p = sequence rest (stage p).toProgress := by
  simp [sequence, h]

/-- A stage that stops ends the sequence. -/
theorem sequence_cons_of_some {stage : Stage} {rest : List Stage} {p : Progress} {s : Stop}
    (h : (stage p).stop = some s) : sequence (stage :: rest) p = stage p := by
  simp [sequence, h]

theorem sequence_singleton (stage : Stage) : sequence [stage] = stage := by
  funext p
  cases h : (stage p).stop with
  | none =>
    rw [sequence_cons_of_none h, sequence_nil, skip, ← h]
  | some s => exact sequence_cons_of_some h

/-- A stage that depends on a part of the schema being well formed. -/
def reading {α : Type} (part : Except Interruption α) (stage : α → Stage) : Stage :=
  match part with
  | .ok a => stage a
  | .error i => interrupt i

@[simp] theorem reading_ok {α : Type} (a : α) (stage : α → Stage) :
    reading (.ok a) stage = stage a := rfl

@[simp] theorem reading_error {α : Type} (i : Interruption) (stage : α → Stage) :
    reading (.error i) stage = interrupt i := rfl

def malformed (path : Pointer) (cause : Malformed) : Stage :=
  interrupt (.fault ⟨path, cause⟩)

def report (config : Config) (f : Finding) : Stage := fun p =>
  let (held, more) := config.mode.add config.cap p.findings f
  ⟨⟨p.node, held⟩, if more then none else some .halted⟩

def reject (config : Config) (v : Violation) : Stage :=
  reading (Interruption.ofFailure v.finding) (report config)

/-- Takes over the run of a part, which stands at the given places below; when coercing, `place`
puts what has become of the part into the node. -/
def join (config : Config) (part : Run) (place : Tree → Tree) (data schema : Pointer) : Stage :=
  fun p =>
    match part.interruption? with
    | some i => interrupt (i.under schema) p
    | none =>
      let node := if config.coercing then place part.node else p.node
      sequence (part.findings.map fun f => report config (f.under data schema)) { p with node }

theorem join_of_some {config : Config} {part : Run} {i : Interruption}
    (h : part.interruption? = some i) (place : Tree → Tree) (data path : Pointer) (p : Progress) :
    join config part place data path p = interrupt (i.under path) p := by
  simp [join, h]

theorem join_of_none {config : Config} {part : Run} (h : part.interruption? = none)
    (place : Tree → Tree) (data path : Pointer) (p : Progress) :
    join config part place data path p =
      sequence (part.findings.map fun f => report config (f.under data path))
        { p with node := if config.coercing then place part.node else p.node } := by
  simp [join, h]

/-- Checks the node itself against a schema further down. -/
def visitSelf (visit : Visit) (config : Config) (schema : Tree) (path : Pointer) : Stage :=
  fun p => join config (visit config p.node schema) id .here path p

end Stage

end TreeSchema
