import WarehouseSchema.Shape
import WarehouseSchema.Table

/-!
Table descriptions, as documents hold them. A description is first read as such, whatever the
warehouse; building it then makes the columns one after the other, the collection and the table.
Every key of a column besides its name and type is an option of the type.
-/

namespace WarehouseSchema

structure ColumnDescription where
  name : String
  type : String
  options : Record

structure TableDescription where
  schema : String
  table : String
  temporary : Bool
  columns : List ColumnDescription
  keys : List String

namespace ColumnDescription

def optionsOf (entries : List (Value × Value)) : Record :=
  entries.filterMap fun e =>
    match e.1 with
    | .text s => if s = "name" || s = "type" then none else some (s, e.2)
    | _ => none

def ofValue : Value → Checked ColumnDescription
  | .map entries =>
    Checked.alongside
      (Checked.apply
        (Checked.apply (.ok fun name type => ⟨name, type, optionsOf entries⟩)
          (Shape.required entries "name" Shape.readText))
        (Shape.required entries "type" Shape.readText))
      (Shape.checkKeys none entries)
  | _ => Checked.refuse .modelType

def build (e : Engine) (c : ColumnDescription) : Except Fault Column := do
  Column.make e (.text c.name) (← Definition.make e (.text c.type) c.options)

end ColumnDescription

namespace TableDescription

def keyNames : List String := ["schema_name", "table_name", "temporary", "columns", "primary_keys"]

/-- Reads the columns of a table; there has to be one. -/
def readColumns (v : Value) : Checked (List ColumnDescription) :=
  match Shape.readItems ColumnDescription.ofValue v with
  | .ok [] => Checked.refuse .tooShort
  | r => r

def ofValue : Value → Checked TableDescription
  | .map entries =>
    let parts : Checked (String → String → Bool → List ColumnDescription → List String →
      TableDescription) := .ok mk
    let parts := Checked.apply parts (Shape.required entries "schema_name" Shape.readText)
    let parts := Checked.apply parts (Shape.required entries "table_name" Shape.readText)
    let parts := Checked.apply parts (Shape.optional entries "temporary" false Shape.readBool)
    let parts := Checked.apply parts (Shape.required entries "columns" readColumns)
    let parts := Checked.apply parts
      (Shape.optional entries "primary_keys" [] (Shape.readItems Shape.readText))
    Checked.alongside parts (Shape.checkKeys (some keyNames) entries)
  | _ => Checked.refuse .modelType

def build (e : Engine) (t : TableDescription) : Except Fault Table := do
  let columns ← t.columns.mapM (ColumnDescription.build e)
  Table.make t.schema t.table t.temporary (← Columns.ofList columns) t.keys

end TableDescription

def Table.ofValue (e : Engine) (v : Value) : Except Fault Table := do
  (← Checked.orFault (TableDescription.ofValue v)).build e

def Table.toValue (t : Table) : Value := Table.recordValue t.toRecord

end WarehouseSchema
