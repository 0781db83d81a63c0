import WarehouseSchema.Session
import WarehouseSchema.Table.Description
import WarehouseSchema.Text.LetterCase
import WarehouseSchema.Yaml.Document
import WarehouseSchema.Yaml.Writer

/-!
Table definitions as YAML files. Main statement: the plain data of a table, as it is written to a
file, is the document of the table.
-/

namespace WarehouseSchema

open Text

def Definition.plainEntries (d : Definition) : List (String × Plain) :=
  [("type", .text d.type), ("length", .ofOption d.length), ("nullable", .bool d.nullable),
   ("default", .ofOption d.default)] ++
    if d.engine.hasCompression then [("compression", .ofOption d.compression)] else []

def Column.toPlain (c : Column) : Plain := .map (("name", .text c.name) :: c.definition.plainEntries)

def Table.toPlain (t : Table) : Plain :=
  .map [("schema_name", .text t.schema), ("table_name", .text t.name),
    ("temporary", .bool t.temporary), ("columns", .list (t.columns.toList.map Column.toPlain)),
    ("primary_keys", .list (t.keys.map .text))]

theorem Plain.toValue_ofOption (s : Option String) :
    (Plain.ofOption s).toValue = Definition.optionValue s := by
  cases s <;> rfl

theorem Column.toValue_toPlain (c : Column) :
    c.toPlain.toValue = Table.recordValue c.toRecord := by
  simp only [toPlain, Definition.plainEntries, Plain.toValue, Plain.toEntries_eq_map,
    Table.recordValue, toRecord, Definition.toRecord, Definition.optionRecord]
  cases h : c.definition.engine.hasCompression <;> simp [Plain.toValue, Plain.toValue_ofOption]

theorem Table.toValue_toPlain (t : Table) : t.toPlain.toValue = t.toValue := by
  simp [toPlain, Plain.toValue, Plain.toEntries_eq_map, Plain.toValues_eq_map, toValue, recordValue,
    toRecord, Function.comp_def, Column.toValue_toPlain]

/-- The document in a YAML text with any line ends; an empty one is an empty map. -/
def Value.ofYaml (text : String) : Except Fault Value := do
  let v ← Yaml.read (unifyLines text)
  return if v.isTruthy then v else .map []

def Files.readYaml (fs : Files) (p : Path) : Except Fault Value := do Value.ofYaml (← fs.read p)

namespace Table

def load (fs : Files) (p : Path) (e : Engine) : Except Fault Table := do
  ofValue e (← fs.readYaml p)

def exportPath (folder : Path) (t : Table) : Path :=
  folder.join (Path.ofText (lower t.name ++ "_schema.yaml"))

def export_ (folder : Path) (t : Table) : Session Unit :=
  Session.write (t.exportPath folder) (Yaml.write t.toPlain)

end Table

end WarehouseSchema
