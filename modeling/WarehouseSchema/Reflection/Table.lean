import WarehouseSchema.Reflection.Query
import WarehouseSchema.Reflection.Rows
import WarehouseSchema.Session
import WarehouseSchema.Table

/-!
Tables as the catalog of a warehouse shows them: columns, keys, row count, and all of it put
together as a table definition.
-/

namespace WarehouseSchema

/-- A table by warehouse, schema and name, about which the catalog is asked. -/
structure TableReference where
  engine : Engine
  schema : String
  table : String

namespace TableReference

open Reflection

def ask (t : TableReference) (query : String → String → CatalogQuery) : Session (List Record) :=
  Session.ask ((query t.schema t.table).render t.engine)

def columns (t : TableReference) : Session Columns := do
  Session.ofExcept (describedColumns t.engine (← t.ask .columns))

def columnNames (t : TableReference) : Session (List String) := do return (← t.columns).names

def keyNames (t : TableReference) : Session (List String) := do
  Session.ofExcept (Reflection.keyNames t.engine (← t.ask .keys))

def rowCount (t : TableReference) : Session Int := do
  Session.ofExcept (countIn (CatalogQuery.countField t.engine) (← t.ask .rowCount))

def isTemporary (t : TableReference) : Session Bool := do
  Session.ofExcept (Reflection.isTemporary t.engine t.table (← t.ask .temporary))

def definition (t : TableReference) : Session Table := do
  Session.note .debug t.engine.tableReflectionTitle s!"Reflecting {t.schema}.{t.table}"
  let temporary ← t.isTemporary
  let columns ← t.columns
  let keys ← t.keyNames
  Session.ofExcept (Table.make t.schema t.table temporary columns keys)

end TableReference

end WarehouseSchema
