import TreeSchema.Report
import TreeSchema.Settings

/-!
Log records: events of validation and of the command line, each with a level.
A record is kept when its level reaches the threshold that a setting names.
-/

namespace TreeSchema.Log

inductive Level | debug | info | warning | error
  deriving DecidableEq

def Level.name : Level → String
  | .debug => "debug"
  | .info => "info"
  | .warning => "warning"
  | .error => "error"

def Level.rank : Level → Nat
  | .debug => 10
  | .info => 20
  | .warning => 30
  | .error => 40

/-- The thresholds by name. -/
def thresholds : List (String × Nat) :=
  [("NOTSET", 0), ("DEBUG", 10), ("INFO", 20), ("WARN", 30), ("WARNING", 30), ("ERROR", 40),
    ("CRITICAL", 50), ("FATAL", 50)]

/-- The threshold that a setting names, in any case; a name that is none stands for warnings. -/
def threshold (name : String) : Nat :=
  let upper := String.ofList (name.toList.map fun c => Char.ofNat (Text.upper c.toNat))
  (thresholds.lookup upper).getD Level.warning.rank

inductive Event where
  | faultFound (f : Fault)
  | validationCompleted (o : Outcome)
  | documentLoadFailed (error : String)
  | runCompleted (schema data : String) (valid : Bool)

namespace Event

def level : Event → Level
  | .faultFound _ => .warning
  | .validationCompleted _ => .debug
  | .documentLoadFailed _ => .error
  | .runCompleted .. => .info

def name : Event → String
  | .faultFound _ => "schema_fault"
  | .validationCompleted _ => "validation_completed"
  | .documentLoadFailed _ => "document_load_failed"
  | .runCompleted .. => "cli_completed"

def logger : Event → String
  | .faultFound _ => "shapecheck.validation"
  | .validationCompleted _ => "shapecheck.validation"
  | .documentLoadFailed _ => "shapecheck.cli"
  | .runCompleted .. => "shapecheck.cli"

def fields : Event → Members
  | .faultFound f => [("schema_path", textTree f.schemaPath.text), ("message", textTree f.message)]
  | .validationCompleted o =>
    [("mode", textTree o.mode.name), ("coerce", .bool o.coerced), ("valid", .bool o.isValid),
      ("error_count", countTree o.findings.length)]
  | .documentLoadFailed error => [("error", textTree error)]
  | .runCompleted schema data valid =>
    [("schema", textTree schema), ("data", textTree data), ("valid", .bool valid)]

end Event

def service : String := "shapecheck"
def version : String := "0.1.0"

/-- An event as a record of the log. -/
def record (e : Event) : Tree :=
  .object
    (e.fields ++
      [("event", textTree e.name), ("level", textTree e.level.name), ("logger", textTree e.logger),
        ("service", textTree service), ("version", textTree version)])

/-- The records of those events that reach the threshold. -/
def records (s : Settings) (events : List Event) : List Tree :=
  (events.filter fun e => threshold s.logLevel ≤ e.level.rank).map record

end TreeSchema.Log
