import WarehouseSchema.Definition

/-!
Columns and ordered collections of columns. A column is a non-empty name with a type definition; the
names of a collection are pairwise distinct.
-/

namespace WarehouseSchema

structure Column where
  name : String
  definition : Definition
  name_ne_empty : name ≠ ""
  deriving DecidableEq, Repr

namespace Column

def engine (c : Column) : Engine := c.definition.engine

def make (e : Engine) (name : Value) (d : Definition) : Except Fault Column :=
  match name with
  | .text s =>
    if h : s ≠ "" then
      if d.engine = e then .ok ⟨s, d, h⟩
      else (DefinitionFault.foreignDefinition s e d.engine).raise
    else (DefinitionFault.badColumnName name).raise
  | v => (DefinitionFault.badColumnName v).raise

/-- An unbounded text column without nulls, for a column about whose type nothing is known. -/
def generic (e : Engine) (name : Value) : Except Fault Column := do
  let d ← Definition.make e (.text (e.typeOf .string))
    [("length", Definition.optionValue e.genericLength?), ("nullable", .bool false)]
  make e name d

def toRecord (c : Column) : Record := ("name", .text c.name) :: c.definition.toRecord

end Column

/-- What may be offered to a collection: a column or some other value. -/
inductive ColumnEntry where
  | column (c : Column)
  | other (v : Value)

/-- Ordered columns with pairwise distinct names, none of which is among `seen`. -/
structure FreshColumns (seen : List String) where
  toList : List Column
  nodup_names : (toList.map Column.name).Nodup
  not_mem_seen : ∀ c ∈ toList, c.name ∉ seen

namespace FreshColumns

variable {seen : List String}

def empty : FreshColumns seen := ⟨[], List.nodup_nil, by simp⟩

/-- A column in front of others whose names differ from its own. -/
def cons (c : Column) (h : c.name ∉ seen) (rest : FreshColumns (c.name :: seen)) :
    FreshColumns seen where
  toList := c :: rest.toList
  nodup_names := by
    rw [List.map_cons, List.nodup_cons]
    refine ⟨fun hmem => ?_, rest.nodup_names⟩
    obtain ⟨d, hd, hname⟩ := List.mem_map.1 hmem
    exact rest.not_mem_seen d hd (hname ▸ List.mem_cons_self)
  not_mem_seen := by
    intro d hd
    rcases List.mem_cons.1 hd with rfl | hd
    · exact h
    · exact fun hmem => rest.not_mem_seen d hd (List.mem_cons_of_mem _ hmem)

/-- The columns that entries are, the names seen growing from each to the next. The first entry that
is no column or whose name was seen is refused. -/
def ofEntries : (seen : List String) → List ColumnEntry → Except Fault (FreshColumns seen)
  | _, [] => .ok empty
  | _, .other v :: _ => (DefinitionFault.notColumn v).raise
  | seen, .column c :: entries =>
    if h : c.name ∈ seen then (DefinitionFault.repeatedColumn c.name).raise
    else (ofEntries (c.name :: seen) entries).map (cons c h)

end FreshColumns

/-- Ordered columns with pairwise distinct names. -/
structure Columns where
  toList : List Column
  nodup_names : (toList.map Column.name).Nodup
  deriving DecidableEq, Repr

namespace Columns

def empty : Columns := ⟨[], List.nodup_nil⟩

def names (cs : Columns) : List String := cs.toList.map Column.name

def size (cs : Columns) : Nat := cs.toList.length

def contains (cs : Columns) (name : String) : Bool := cs.names.contains name

def find? (cs : Columns) (name : String) : Option Column := cs.toList.find? (·.name == name)

def get (cs : Columns) (name : Value) : Except Fault Column :=
  match name.text?.bind cs.find? with
  | some c => .ok c
  | none => .error (.missingKey name)

def push (cs : Columns) (c : Column) : Except Fault Columns :=
  if h : c.name ∈ cs.names then (DefinitionFault.repeatedColumn c.name).raise
  else
    .ok ⟨cs.toList ++ [c], by
      have hn := cs.nodup_names
      simp only [List.map_append, List.map_cons, List.map_nil]
      exact List.nodup_append.2 ⟨hn, by simp, by
        intro a ha b hb
        rw [List.mem_singleton.1 hb]
        rintro rfl
        exact h ha⟩⟩

/-- The collection of entries, which are looked at in one pass. -/
def ofEntries (entries : List ColumnEntry) : Except Fault Columns :=
  (FreshColumns.ofEntries [] entries).map fun columns => ⟨columns.toList, columns.nodup_names⟩

/-- The collection with an entry at its end, made anew of all its columns. -/
def pushEntry (cs : Columns) (entry : ColumnEntry) : Except Fault Columns :=
  ofEntries (cs.toList.map .column ++ [entry])

def ofList (columns : List Column) : Except Fault Columns := columns.foldlM push empty

/-- The collection of the columns that rows describe; all rows are decoded before names are
compared. -/
def ofRows (decode : Record → Except Fault Column) (rows : List Record) : Except Fault Columns := do
  ofList (← rows.mapM decode)

end Columns

end WarehouseSchema
