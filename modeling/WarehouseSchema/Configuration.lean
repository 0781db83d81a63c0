import WarehouseSchema.Settings
import WarehouseSchema.Table.Document

/-!
The configuration of a run: a document that names the warehouse, the tables and what to do with them,
and the settings. A document that is no map can be loaded, but has no fields to ask for.
-/

namespace WarehouseSchema

open Text

structure Configuration where
  path : Path
  document : Value
  settings : Settings

namespace Configuration

def defaultPath : String := "config.yaml"

/-- The environment with the variables of a file that have no text in it yet. -/
def extended (env : Environment) (vars : Variables) : Environment :=
  List.foldl
    (fun env (name, text) =>
      match text with
      | some s => if (env.get? name).isSome then env else env.put name s
      | none => env)
    env vars

/-- Loads the configuration at a path, and variables from a file before that. Either file may be
missing. -/
def load (env : Environment) (path variablesPath : Path) : Session Configuration := do
  let fs ← Session.files
  let env ←
    if ← Session.ofExcept (fs.contains variablesPath) then do
      pure (extended env (← EnvironmentFile.load false env variablesPath))
    else pure env
  let document ←
    if ← Session.ofExcept (fs.contains path) then Session.ofExcept (fs.readYaml path)
    else pure (.map [])
  return ⟨path, document, ← Settings.load env⟩

def folder (c : Configuration) : Path := c.path.parent

def field (c : Configuration) (name : String) (default : Value) : Except Fault Value :=
  match c.document with
  | .map entries => .ok ((Value.entry? entries name).getD default)
  | _ => .error .wrongAttribute

def engineName (c : Configuration) : Except Fault Value := c.field "engine" (.text "snowflake")

/-- The warehouse that the document names. Octets have letters too, but are no name of a warehouse. -/
def engine (c : Configuration) : Except Fault Engine := do
  match ← c.engineName with
  | .text name => Engine.ofName name
  | .octets bytes => throw (.unknownEngine (octetsLiteral bytes))
  | _ => throw .wrongAttribute

def targetSchema (c : Configuration) : Except Fault Value := c.field "target_schema" .null

def exportFolder (c : Configuration) : Except Fault Value := c.field "export_schema_dir" .null

def replaces (c : Configuration) : Except Fault Bool := do
  return (← c.field "replace_existing" (.bool false)).isTruthy

def verifies (c : Configuration) : Except Fault Bool := do
  return (← c.field "verify" (.bool true)).isTruthy

/-- The tables: descriptions, or paths to them. -/
def tables (c : Configuration) : Except Fault Value := c.field "tables" (.list [])

end Configuration

end WarehouseSchema
