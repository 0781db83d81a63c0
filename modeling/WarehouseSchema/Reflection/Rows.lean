import WarehouseSchema.Column.Catalog

/-!
What the rows that answer a catalog question say: names of tables, columns and keys, counts, and
whether a table is temporary. Field names may come in any letter case, and names in fields may have
blanks around them.
-/

namespace WarehouseSchema

open Text

namespace Reflection

/-- A field of a row as text without blanks at its ends. -/
def nameIn (field : String) (row : Record) : Except Fault String := do
  return trim (← Fault.ofText (row.getAnyCase field .null).display)

/-- The field in which a warehouse lists tables and views. -/
def listingField : Engine → String
  | .redshift => "table_name"
  | .snowflake => "name"
  | .teradata => "TableName"

def listedNames (e : Engine) (rows : List Record) : Except Fault (List String) :=
  rows.mapM (nameIn (listingField e))

/-- Whether a row of a table description is about a stored column; Snowflake describes virtual ones
too. -/
def isStored : Engine → Record → Bool
  | .snowflake, row => (row.getAnyCase "kind" (.text "COLUMN")).isText "COLUMN"
  | _, _ => true

def describedColumns (e : Engine) (rows : List Record) : Except Fault Columns :=
  Columns.ofRows (Column.ofRow e) (rows.filter (isStored e))

def keyField : Engine → String
  | .redshift | .snowflake => "column_name"
  | .teradata => "ColumnName"

/-- The position of a key among the keys of a Snowflake table. -/
def keySequence (row : Record) : Except Fault Int := (row.getAnyCase "key_sequence" (.int 0)).toInteger

/-- The rows of keys in key order: Snowflake numbers them, the other warehouses sort them. -/
def keyRows : Engine → List Record → Except Fault (List Record)
  | .snowflake, rows => do
    let numbered ← rows.mapM fun row => do return (← keySequence row, row)
    return (numbered.mergeSort fun a b => decide (a.1 ≤ b.1)).map (·.2)
  | _, rows => .ok rows

/-- The names of the keys of a table, in key order. -/
def keyNames (e : Engine) (rows : List Record) : Except Fault (List String) := do
  (← keyRows e rows).mapM (nameIn (keyField e))

def countIn (field : String) : List Record → Except Fault Int
  | [] => .error .noRow
  | row :: _ => (row.getAnyCase field .null).toInteger

def isTemporary (e : Engine) (table : String) (rows : List Record) : Except Fault Bool :=
  match e with
  | .redshift => .ok !rows.isEmpty
  | .snowflake =>
    .ok <| rows.any fun row =>
      (row.getAnyCase "name" .null).isText table && (row.getAnyCase "kind" .null).isText "TEMPORARY"
  | .teradata =>
    let rec anyNamed : List Record → Except Fault Bool
      | [] => .ok false
      | row :: rows => do
        let name ← Fault.ofText (row.getAnyCase "Table Name" (.text "")).display
        if trim name = table then return true else anyNamed rows
    anyNamed rows

end Reflection

end WarehouseSchema
