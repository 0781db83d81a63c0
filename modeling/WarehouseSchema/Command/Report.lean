import WarehouseSchema.Command.Basic
import WarehouseSchema.Grid
import WarehouseSchema.Logging.Setup
import WarehouseSchema.Run

/-!
Carrying out commands. The log is set up by the settings before a command starts. A command prints
its result, if it has one, and ends with an exit status; a fault that is reported is a note in the
log and the status 1, any other fault ends the program.
-/

namespace WarehouseSchema

open Text

/-- Whether a fault is reported by commands. Values of the wrong kind where no document is read,
missing keys and numbers out of range are not. -/
def Fault.isReported : Fault → Bool
  | infiniteInteger | tooLargeInteger | tooLargeFloat | notCharacter | missingKey _
  | wrongAttribute | wrongType | noRow | recursion | tangled | overflow _ => false
  | codePoint n => n < Number.halfWord
  | _ => true

def Fault.report (fault : Fault) : String := fault.name ++ ": " ++ fault.message?.getD ""

/-- The cells that show a column, under `Column.headers`. -/
def Column.cells (c : Column) : List Cell :=
  let d := c.definition
  [.text c.name, .text d.type, .ofOption d.length, .truth d.nullable, .ofOption d.default]

def Column.headers : List String := ["name", "type", "length", "nullable", "default"]

namespace Command

def renderTable (e : Engine) (path : Path) (kind : StatementKind) (newName : String)
    (withKeys : Bool) : Session String := do
  let t ← Session.ofExcept (Table.load (← Session.files) path e)
  match kind with
  | .create => t.noteCreateSql e withKeys
  | .drop => return t.dropSql e
  | .truncate => return t.truncateSql e
  | .rename =>
    if newName = "" then Session.ofExcept (.error .noNewName) else return t.renameSql e newName

def inferTable (e : Engine) (sample schema table : String) (rows : Int) (isGeneric : Bool) :
    Session String := do
  let text ← Session.ofExcept ((← Session.files).readNamed sample)
  let columns ← Session.ofExcept (Columns.ofCsv e rows isGeneric text)
  let t ← Session.ofExcept (Table.make schema table false columns [])
  t.noteCreateSql e false

def schemaName : Value → Except Fault String
  | .text s => .ok s
  | .date _ | .moment _ | .octets _ => .error .wrongType
  | _ => .error .wrongAttribute

/-- A grid of the columns of a table, whose schema is that of the configuration unless it is
given. -/
def describeTable (env : Environment) (path : Path) (schema table : String) : Session String := do
  let c ← Configuration.load env path Configuration.variablesPath
  let e ← Session.ofExcept c.engine
  let schema ← if schema = "" then Session.ofExcept c.targetSchema else pure (.text schema)
  Session.ofExcept (c.settings.checkCredentials e)
  let columns ← Session.connected do
    TableReference.columns ⟨e, ← Session.ofExcept (schemaName schema), table⟩
  Session.ofExcept (Grid.render Column.headers (columns.toList.map Column.cells))

/-- Carries out a command; the result is what it prints. -/
def perform (env : Environment) : Command → Session (Option String)
  | run configuration => do
    Configuration.runAt env (Path.ofText configuration)
    return none
  | render e description kind newName withKeys =>
    some <$> renderTable e (Path.ofText description) kind newName withKeys
  | infer e sample schema table rows isGeneric =>
    some <$> inferTable e sample schema table rows isGeneric
  | describe configuration schema table =>
    some <$> describeTable env (Path.ofText configuration) schema table

/-- Carries out a command; the result is its exit status and what it prints. A fault that is reported
is noted. -/
def conclude (env : Environment) (c : Command) : Session (Nat × String) := fun backend journal =>
  match c.perform env backend journal with
  | (.ok printed, journal) => (.ok (0, (printed.map (· ++ "\n")).getD ""), journal)
  | (.error fault, journal) =>
    if fault.isReported then
      (.ok (1, ""), journal.push (.note ⟨runSource, .error, fault.report⟩))
    else (.error fault, journal)

/-- What comes of a command: its exit status or the fault that ended it, what it printed, what the
console shows besides, the files and the journal. -/
structure Report where
  status : Except Fault Nat
  printed : String
  console : String
  files : Files
  journal : Journal

/-- What the console shows of notes before the log is set up: warnings and worse, as they are. -/
def earlyConsole (notes : List Note) : String :=
  "".intercalate ((notes.filter fun n => Severity.warning ≤ n.severity).map (·.message ++ "\n"))

/-- Sets up the log and carries out a command; all notes count as taken at one time. -/
def report (env : Environment) (backend : Backend) (files : Files) (time : Number.Binary64)
    (c : Command) : Report :=
  let (settings, journal) := (Settings.load env).run backend (.start files)
  let early := earlyConsole journal.notes
  match settings with
  | .error fault => ⟨.error fault, "", early, journal.files, journal⟩
  | .ok settings =>
    match (Log.setUp settings.log).run.run journal.files with
    | (.error fault, files) => ⟨.error fault, "", early, files, journal⟩
    | (.ok log, files) =>
      let (result, journal) := (c.conclude env).run backend (.start files)
      let records := journal.notes.map fun n => { n.toRecord with time }
      let (console, files) := log.writeAll records journal.files
      let printed := (result.toOption.map (·.2)).getD ""
      ⟨result.map (·.1), printed, early ++ console, files, journal⟩

end Command

end WarehouseSchema
