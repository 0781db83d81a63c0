import Std.Time
import WarehouseSchema.Command.Report

/-!
The program. It gathers what a command may look at, carries the command out, and writes what comes of
it: files, what is printed, and what the console shows. It has no drivers of its own, so that every
statement fails.
-/

namespace WarehouseSchema.Program

open Number

def variableNames : List String :=
  ["SNOWFLAKE_ACCOUNT", "SNOWFLAKE_USER", "SNOWFLAKE_PASSWORD", "SNOWFLAKE_WAREHOUSE",
   "SNOWFLAKE_ROLE", "SNOWFLAKE_DATABASE", "SQLALCHEMY_URL", "LOGGING"] ++
    LogSettings.names.map fun n => "LOGGING__" ++ Text.upper n

/-- The environment as far as settings are read from it. -/
def environment : IO Environment := do
  let mut env : Environment := []
  for name in variableNames do
    if let some text ← IO.getEnv name then env := env.put name text
  return env

def load (files : Files) (paths : List Path) : IO Files := do
  let mut files := files
  for p in paths do
    try
      match files.withFile p (← IO.FS.readFile p.text) with
      | .ok more => files := more
      | .error _ => pure ()
    catch _ => pure ()
  return files

def offline : Backend := ⟨fun _ sql => .error ⟨"no driver is available", some sql, none⟩⟩

def pathsOf (c : Command) : List Path :=
  Settings.variablesPath ::
    match c with
    | .run configuration | .describe configuration _ _ => [Path.ofText configuration]
    | .render _ description _ _ _ => [Path.ofText description]
    | .infer _ sample _ _ _ _ => [Path.ofText sample]

def morePathsOf (env : Environment) (files : Files) : Command → List Path
  | .run configuration =>
    let load := Configuration.load env (Path.ofText configuration) Configuration.variablesPath
    match (load.run offline (.start files)).1 with
    | .ok c => c.descriptionPaths
    | .error _ => []
  | _ => []

/-- The time in seconds since 1970-01-01 00:00 universal time. -/
def now : IO Binary64 := do
  let nanoseconds := (← Std.Time.Timestamp.now).toNanosecondsSinceUnixEpoch.toInt
  return Binary64.div (.ofInt (nanoseconds / 1000)) (.ofInt 1000000)

def save (files : List (Location × String)) : IO Unit := do
  for (place, text) in files do
    IO.FS.createDirAll (Path.text ⟨"/", place.dropLast⟩)
    IO.FS.writeFile (Path.text ⟨"/", place⟩) text

def carryOut (c : Command) : IO UInt32 := do
  let env ← environment
  let here := Path.ofText (toString (← IO.currentDir))
  let named ← load (.emptyAt here.parts) (pathsOf c)
  let files ← load named (morePathsOf env named c)
  let report := c.report env offline files (← now)
  save (report.files.changesSince files)
  IO.print report.printed
  IO.eprint report.console
  match report.status with
  | .ok status => return status.toUInt32
  | .error fault =>
    IO.eprintln fault.report
    return 1

def usage : String := "usage: warehouse-ddl [-h] run|render|infer|describe ..."

end WarehouseSchema.Program

def main (args : List String) : IO UInt32 := do
  match WarehouseSchema.Command.ofArguments args with
  | .ok command => WarehouseSchema.Program.carryOut command
  | .error refusal =>
    IO.eprintln WarehouseSchema.Program.usage
    return refusal.status.toUInt32
