import WarehouseSchema.Proofs.Definition.Canonical
import WarehouseSchema.Proofs.Table.Creatable
import WarehouseSchema.Table.Document

/-!
Tables that are built again from their own records. Every field that a record holds is in its normal
form already, and the order of columns and keys is that of the table. Main statement: a table that was
built from a document is built again from its record.
-/

namespace WarehouseSchema

/-! ## Records as documents -/

def Record.entries (r : Record) : List (Value × Value) := r.map fun e => (.text e.1, e.2)

theorem Record.entry?_entries (r : Record) (name : String) :
    Value.entry? r.entries name = r.find? name := by
  unfold entries find?
  induction r with
  | nil => rfl
  | cons e r ih =>
    obtain ⟨key, v⟩ := e
    by_cases h : name = key
    · subst h
      simp [Value.entry?, Value.isText, Value.text?]
    · have hkey : (Value.text key).isText name = false := by
        simpa [Value.isText, Value.text?] using fun h' => h h'.symm
      rw [List.lookup_cons, beq_false_of_ne h, ← ih]
      simp only [Value.entry?, List.map_cons, List.find?_cons, hkey]

theorem Shape.required_entries {α : Type} {r : Record} {name : String} {v : Value}
    {read : Value → Checked α} {a : α} (hfind : r.find? name = some v) (hread : read v = .ok a) :
    Shape.required r.entries name read = .ok a := by
  rw [Shape.required, Record.entry?_entries, hfind]
  simp only [hread, Checked.under]

theorem Shape.optional_entries {α : Type} {r : Record} {name : String} {v : Value}
    {read : Value → Checked α} {a default : α} (hfind : r.find? name = some v)
    (hread : read v = .ok a) : Shape.optional r.entries name default read = .ok a := by
  rw [Shape.optional, Record.entry?_entries, hfind]
  simp only [hread, Checked.under]

theorem Shape.checkKeys_entries {allowed : Option (List String)} {r : Record}
    (h : ∀ names ∈ allowed, ∀ e ∈ r, e.1 ∈ names) : Shape.checkKeys allowed r.entries = .ok () := by
  induction r with
  | nil => rfl
  | cons e r ih =>
    obtain ⟨key, v⟩ := e
    have hrest : Shape.checkKeys allowed (Record.entries r) = .ok () :=
      ih fun names hn e he => h names hn e (List.mem_cons_of_mem _ he)
    change Shape.checkKeys allowed ((.text key, v) :: Record.entries r) = .ok ()
    cases allowed with
    | none => simp only [Shape.checkKeys, Value.text?, hrest, Checked.alongside, Checked.apply]
    | some names =>
      have hkey : names.contains key = true := by
        simpa using h names rfl (key, v) List.mem_cons_self
      simp only [Shape.checkKeys, Value.text?, hkey, hrest, Checked.alongside, Checked.apply, if_true]

/-! ## Columns -/

namespace Column

def description (c : Column) : ColumnDescription :=
  ⟨c.name, c.definition.type, c.definition.optionRecord⟩

theorem optionsOf_toRecord (c : Column) :
    ColumnDescription.optionsOf c.toRecord.entries = c.definition.optionRecord := by
  unfold toRecord Definition.toRecord Definition.optionRecord Record.entries
  cases c.definition.engine.hasCompression <;> rfl

theorem ofValue_toRecord (c : Column) :
    ColumnDescription.ofValue (Table.recordValue c.toRecord) = .ok c.description := by
  have hname : Shape.required c.toRecord.entries "name" Shape.readText = .ok c.name :=
    Shape.required_entries rfl rfl
  have htype : Shape.required c.toRecord.entries "type" Shape.readText = .ok c.definition.type :=
    Shape.required_entries rfl rfl
  have hkeys : Shape.checkKeys none c.toRecord.entries = .ok () :=
    Shape.checkKeys_entries (by simp)
  change ColumnDescription.ofValue (.map c.toRecord.entries) = .ok c.description
  simp only [ColumnDescription.ofValue, hname, htype, hkeys, Checked.apply, Checked.alongside,
    optionsOf_toRecord, description]

theorem build_description {e : Engine} {c : Column} (h : c.definition.MadeFor e) :
    c.description.build e = .ok c := by
  have hmake : Definition.make e (.text c.definition.type) c.definition.optionRecord =
      .ok c.definition := by
    have hmade := h.canonical.make_optionRecord
    rwa [h.engine_eq] at hmade
  unfold ColumnDescription.build description
  rw [hmake, ok_bind]
  exact make_eq_ok_iff.mpr ⟨rfl, rfl, h.engine_eq⟩

end Column

/-! ## Tables -/

namespace Table

variable {e : Engine} {t : Table}

def description (t : Table) : TableDescription :=
  ⟨t.schema, t.name, t.temporary, t.columns.toList.map Column.description, t.keys⟩

theorem readColumns_toRecord (h : t.columns.toList ≠ []) :
    TableDescription.readColumns
      (.list (t.columns.toList.map fun c => recordValue c.toRecord)) =
        .ok (t.columns.toList.map Column.description) := by
  have hitems : Shape.readItems ColumnDescription.ofValue
      (.list (t.columns.toList.map fun c => recordValue c.toRecord)) =
        .ok (t.columns.toList.map Column.description) :=
    Checked.itemsFrom_ok Column.ofValue_toRecord _ 0
  unfold TableDescription.readColumns
  rw [hitems]
  split
  · rename_i hnil
    exact absurd (List.map_eq_nil_iff.mp (Except.ok.inj hnil)) h
  · rfl

theorem ofValue_toRecord (h : t.columns.toList ≠ []) :
    TableDescription.ofValue t.toValue = .ok t.description := by
  have hschema : Shape.required t.toRecord.entries "schema_name" Shape.readText = .ok t.schema :=
    Shape.required_entries rfl rfl
  have hname : Shape.required t.toRecord.entries "table_name" Shape.readText = .ok t.name :=
    Shape.required_entries rfl rfl
  have htemporary : Shape.optional t.toRecord.entries "temporary" false Shape.readBool =
      .ok t.temporary := Shape.optional_entries rfl rfl
  have hcolumns : Shape.required t.toRecord.entries "columns" TableDescription.readColumns =
      .ok (t.columns.toList.map Column.description) :=
    Shape.required_entries rfl (readColumns_toRecord h)
  have hkeys : Shape.optional t.toRecord.entries "primary_keys" []
      (Shape.readItems Shape.readText) = .ok t.keys := by
    have htext : ∀ key : String, Shape.readText (.text key) = .ok (id key) := fun _ => rfl
    have hitems := Checked.itemsFrom_ok htext t.keys 0
    rw [List.map_id] at hitems
    exact Shape.optional_entries rfl hitems
  have hallowed : Shape.checkKeys (some TableDescription.keyNames) t.toRecord.entries = .ok () := by
    apply Shape.checkKeys_entries
    intro names hn
    obtain rfl := Option.some.inj hn
    simp [toRecord, TableDescription.keyNames]
  change TableDescription.ofValue (.map t.toRecord.entries) = .ok t.description
  simp only [TableDescription.ofValue, hschema, hname, htemporary, hcolumns, hkeys, hallowed,
    Checked.apply, Checked.alongside, description]

theorem build_description (h : ∀ c ∈ t.columns.toList, c.definition.MadeFor e) :
    t.description.build e = .ok t := by
  have hcolumns : (t.columns.toList.map Column.description).mapM (ColumnDescription.build e) =
      .ok t.columns.toList := by
    rw [mapM_eq_ok_iff, List.forall₂_map_left_iff, List.forall₂_same]
    exact fun c hc => Column.build_description (h c hc)
  have hlist : Columns.ofList t.columns.toList = .ok t.columns := Columns.ofList_eq_ok_iff.mpr rfl
  unfold TableDescription.build description
  simp only [hcolumns, hlist, ok_bind]
  exact t.make_eq_ok

theorem madeFor_of_ofValue {v : Value} (h : ofValue e v = .ok t) :
    ∀ c ∈ t.columns.toList, c.definition.MadeFor e := by
  obtain ⟨_, _, hcolumns⟩ := exists_description h
  intro c hc
  obtain ⟨d, _, hbuild⟩ := exists_of_mem_mapM hcolumns hc
  obtain ⟨definition, hmake, hbuild⟩ := bind_eq_ok_iff.mp hbuild
  obtain ⟨_, hdefinition, _⟩ := Column.make_eq_ok_iff.mp hbuild
  rw [hdefinition]
  exact ⟨_, _, hmake⟩

/-- A table that was built is built again from its record. -/
theorem ofValue_toValue {v : Value} (h : ofValue e v = .ok t) : ofValue e t.toValue = .ok t := by
  unfold ofValue
  rw [ofValue_toRecord (creatable_of_ofValue h).columns_ne_nil]
  exact build_description (madeFor_of_ofValue h)

end Table

end WarehouseSchema
