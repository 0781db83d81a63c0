import WarehouseSchema.Plan
import WarehouseSchema.Reflection.Schema
import WarehouseSchema.Reflection.Table
import WarehouseSchema.Statement

/-!
Runs. A run loads a configuration, makes the plan of it, and creates the tables of the plan one after
the other over one connection. A table that is there already is skipped or dropped first; temporary
tables are never looked for. A created table is exported and verified, as far as the plan asks.
-/

namespace WarehouseSchema

open Text

def runSource : String := "warehouse_ddl.pipeline_runner"

namespace Table

def reference (t : Table) (e : Engine) : TableReference := ⟨e, t.schema, t.name⟩

def noteCreateSql (e : Engine) (t : Table) (withKeys : Bool) : Session String := do
  let sql ← Session.ofExcept (t.createSql e withKeys)
  Session.note .debug e.generatorTitle s!"Rendered CREATE for {t.qualifiedName}: {sql}"
  return sql

/-- Refuses a table whose columns, or whose keys if it has any, are called otherwise in the warehouse.
Letter case does not count. -/
def verify (e : Engine) (t : Table) : Session Unit := do
  let compare (mismatch : Mismatch) (names : List String) (reflected : Session (List String)) :
      Session Unit := do
    let expected := names.map lower
    let actual := (← reflected).map lower
    if actual = expected then return ()
    else Session.ofExcept (.error (.verification mismatch t.schema t.name expected actual))
  compare .columns t.columns.names (t.reference e).columnNames
  if t.keys.isEmpty then return () else compare .keys t.keys (t.reference e).keyNames

end Table

namespace Plan

def report (message : String) : Session Unit := Session.note .info runSource message

def isPresent (p : Plan) (t : Table) : Session Bool :=
  if t.temporary then pure false else (Schema.mk p.engine t.schema).hasTables [t.name]

def drop (p : Plan) (t : Table) : Session Unit := do
  report s!"Dropping existing table {t.qualifiedName}"
  discard (Session.ask (t.dropSql p.engine))

def create (p : Plan) (t : Table) : Session Unit := do
  report s!"Creating table {t.qualifiedName}"
  discard (Session.ask (← t.noteCreateSql p.engine true))

def exportTable (p : Plan) (t : Table) : Session Unit :=
  if p.exportFolder.isTruthy then
    match p.exportFolder with
    | .text folder => t.export_ (Path.ofText folder)
    | _ => Session.ofExcept (.error .wrongType)
  else pure ()

/-- Verifies a table if the plan asks for it and the table lasts. -/
def verify (p : Plan) (t : Table) : Session Unit :=
  if p.verifies && !t.temporary then do
    t.verify p.engine
    report s!"Table {t.qualifiedName} verified"
  else pure ()

def make (p : Plan) (t : Table) : Session Unit := do
  let present ← p.isPresent t
  if present && !p.replaces then report s!"Table {t.qualifiedName} already exists, skipping"
  else
    if present then p.drop t
    p.create t
    p.exportTable t
    p.verify t

def makeAll (p : Plan) : List Table → Session Unit
  | [] => pure ()
  | t :: rest => do
    p.make t
    makeAll p rest

def run (p : Plan) : Session Unit := Session.connected (p.makeAll p.tables)

end Plan

namespace Configuration

/-- The file of variables that belongs to every configuration. -/
def variablesPath : Path := Path.ofText ".env"

/-- Creates the tables that the configuration at a path asks for. -/
def runAt (env : Environment) (path : Path) : Session Unit := do
  let c ← load env path variablesPath
  let p ← Session.ofExcept (c.plan (← Session.files))
  Session.ofExcept (c.settings.checkCredentials p.engine)
  p.run

end Configuration

end WarehouseSchema
