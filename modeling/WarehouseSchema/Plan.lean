import WarehouseSchema.Configuration
import WarehouseSchema.Value.Entries

/-!
What a run is to do. A plan is made from a configuration before anything is asked of a warehouse, so
that a table that cannot be read keeps the run from starting.
-/

namespace WarehouseSchema

/-- The tables to create in a warehouse, in order, and what else to do. -/
structure Plan where
  engine : Engine
  tables : List Table
  replaces : Bool
  verifies : Bool
  exportFolder : Value

namespace Value

/-- Whether a collection has this text among its items, or a text has it as a part. -/
def holdsText (s : String) : Value → Except Fault Bool
  | .text t => .ok (Text.occursIn s.toList t.toList)
  | .octets _ => .error .wrongType
  | v => do return (← v.items).any fun item => item.isText s

/-- The map with an entry; other values cannot have one. -/
def withEntry (v : Value) (name : String) (entry : Value) : Except Fault Value :=
  match v with
  | .map entries => .ok (.map (putEntry entries (.text name) entry))
  | _ => .error .wrongType

/-- The description with a schema, if there is one to give, and unless the description names one. -/
def withSchema (description schema : Value) : Except Fault Value :=
  if schema.isTruthy then do
    if ← description.holdsText "schema_name" then return description
    else description.withEntry "schema_name" schema
  else .ok description

end Value

namespace Configuration

/-- The description of a table: a text is the path of a document, anything else is the description
itself. -/
def description (c : Configuration) (files : Files) : Value → Except Fault Value
  | .text path => files.readYaml (c.folder.join (Path.ofText path))
  | entry => do return .map (← entry.entries)

def descriptionPaths (c : Configuration) : List Path :=
  match do (← c.tables).items with
  | .ok items => (items.filterMap Value.text?).map fun s => c.folder.join (Path.ofText s)
  | .error _ => []

def loadTables (c : Configuration) (files : Files) (e : Engine) : Except Fault (List Table) := do
  (← (← c.tables).items).mapM fun entry => do
    let description ← c.description files entry
    Table.ofValue e (← description.withSchema (← c.targetSchema))

def plan (c : Configuration) (files : Files) : Except Fault Plan := do
  let engine ← c.engine
  let tables ← c.loadTables files engine
  return ⟨engine, tables, ← c.replaces, ← c.verifies, ← c.exportFolder⟩

end Configuration

end WarehouseSchema
