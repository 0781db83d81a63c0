import WarehouseSchema.Column.Basic

/-!
Table definitions: a schema-qualified table with its columns and primary keys. Every key names a
column, and no key is named twice.
-/

namespace WarehouseSchema

structure Table where
  schema : String
  name : String
  temporary : Bool
  columns : Columns
  keys : List String
  keys_mem : ∀ key ∈ keys, key ∈ columns.names
  keys_nodup : keys.Nodup
  deriving DecidableEq, Repr

namespace Table

/-- The table with these parts; the first key that is not a column is refused, and after that a
repeated key. -/
def make (schema name : String) (temporary : Bool) (columns : Columns) (keys : List String) :
    Except Fault Table :=
  if h : ∀ key ∈ keys, key ∈ columns.names then
    if hn : keys.Nodup then .ok ⟨schema, name, temporary, columns, keys, h, hn⟩
    else (DefinitionFault.repeatedKey schema name keys).raise
  else
    let stray := (keys.find? fun key => !columns.contains key).getD ""
    (DefinitionFault.keyOutsideTable schema name stray).raise

/-- A table has the parts of which it is made. -/
theorem make_eq_ok (t : Table) : make t.schema t.name t.temporary t.columns t.keys = .ok t := by
  rw [make, dif_pos t.keys_mem, dif_pos t.keys_nodup]

def qualifiedName (t : Table) : String := t.schema ++ "." ++ t.name

def recordValue (r : Record) : Value := .map (r.map fun e => (.text e.1, e.2))

def toRecord (t : Table) : Record :=
  [("schema_name", .text t.schema), ("table_name", .text t.name), ("temporary", .bool t.temporary),
   ("columns", .list (t.columns.toList.map fun c => recordValue c.toRecord)),
   ("primary_keys", .list (t.keys.map .text))]

end Table

end WarehouseSchema
