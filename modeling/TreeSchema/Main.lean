import TreeSchema.CommandLine

/-!
The program: reads the environment and the files that a call names, makes the
call, and prints what it leaves behind.
-/

namespace TreeSchema.CommandLine

/-- The variables of the environment that are settings. -/
def readEnvironment : IO Settings.Variables := do
  let names := "LOG_LEVEL" :: Settings.Switch.all.map Settings.Switch.name
  let values ← names.mapM fun name => do
    let name := Settings.namePrefix ++ name
    return (← IO.getEnv name).map fun value => (name, value)
  return values.filterMap id

def openErrorOf : IO.Error → OpenError
  | .inappropriateType _ 20 _ => .notADirectory
  | .inappropriateType .. => .isADirectory
  | _ => .notFound

def openFile (p : Path) : IO (Except OpenError String) := do
  try
    return .ok (← IO.FS.readFile p.text)
  catch e =>
    return .error (openErrorOf e)

/-- What a call with these arguments depends on. -/
def contextOf (a : Arguments) : IO Context := do
  let environment ← readEnvironment
  let settingsFile ← openFile ⟨".env"⟩
  let schema ← openFile a.schema
  let data ← openFile a.data
  return {
    environment
    settingsFile := settingsFile.toOption
    files := fun p => if p = a.schema then schema else data }

def report (c : Completion) : IO Unit := do
  let err ← IO.getStderr
  if c.settings.logJson then
    for record in Log.records c.settings c.events do
      err.putStrLn ((Json.text { indent := none, asciiOnly := true } record).toOption.getD "")
  err.putStr c.errors
  (← IO.getStdout).putStr c.output

def describe : Abort → String
  | .usage _ => "usage: shapecheck [options] schema data"
  | .settings e => e.message
  | .failure cause => cause.message

def Abort.exitCode : Abort → Nat
  | .usage e => e.code
  | _ => 1

end TreeSchema.CommandLine

open TreeSchema.CommandLine in
/-- Runs the command line and gives its exit code. -/
def main (argv : List String) : IO UInt32 := do
  let result ←
    match Arguments.read argv with
    | .ok a => do pure (run (← contextOf a) argv)
    | .error e => pure (.error (.usage e))
  match result with
  | .ok c =>
    report c
    return c.exit.toUInt32
  | .error abort =>
    (← IO.getStderr).putStrLn (describe abort)
    return abort.exitCode.toUInt32
