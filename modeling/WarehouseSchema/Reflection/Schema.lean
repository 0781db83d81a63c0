import WarehouseSchema.Reflection.Query
import WarehouseSchema.Reflection.Rows
import WarehouseSchema.Session

/-!
Schemas as the catalog of a warehouse shows them. Asking whether a schema exists is the one place
where a failure of the backend is an answer.
-/

namespace WarehouseSchema

structure Schema where
  engine : Engine
  name : String

namespace Schema

open Reflection

def ask (s : Schema) (query : String → CatalogQuery) : Session (List Record) :=
  Session.ask ((query s.name).render s.engine)

/-- Whether a statement about the schema succeeds. -/
def probe (s : Schema) (sql : String) : Session Bool := do
  match ← Session.attempt sql with
  | .ok _ => return true
  | .error failure =>
    Session.note .debug s.engine.schemaReflectionTitle s!"{s.name} not found: {failure.text}"
    return false

def isPresent (s : Schema) : Session Bool :=
  match s.engine with
  | .redshift => do return !(← s.ask .schema).isEmpty
  | .snowflake | .teradata => s.probe ((CatalogQuery.schema s.name).render s.engine)

def tableNames (s : Schema) : Session (List String) := do
  Session.ofExcept (listedNames s.engine (← s.ask .tables))

def viewNames (s : Schema) : Session (List String) := do
  Session.ofExcept (listedNames s.engine (← s.ask .views))

def hasTables (s : Schema) (tables : List String) : Session Bool := do
  let listed ← s.tableNames
  return tables.all listed.contains

end Schema

end WarehouseSchema
