import WarehouseSchema.Proofs.Definition.Checks
import WarehouseSchema.Proofs.Table.Creatable

/-!
Which table descriptions are accepted, and what is found wrong first with the others. `Gives` says which
table a description gives and `Refused` which fault it meets, both read off the description and what the
engine makes of each type with its options. Main statement: every description of the right shape either
gives its table or meets its fault, and columns come before repeated names, those before stray keys, those
before repeated keys.
-/

namespace WarehouseSchema

namespace ColumnDescription

/-- The type and the options make a definition, and there is a name. -/
structure Accepted (e : Engine) (c : ColumnDescription) : Prop where
  definition : ∃ d, Definition.make e (.text c.type) c.options = .ok d
  name_ne_empty : c.name ≠ ""

/-- The fault of a column. Its name is looked at only when there is a definition. -/
inductive Refused (e : Engine) (c : ColumnDescription) : Fault → Prop where
  | definition {fault : Fault} : Definition.make e (.text c.type) c.options = .error fault →
      Refused e c fault
  | name {d : Definition} : Definition.make e (.text c.type) c.options = .ok d → c.name = "" →
      Refused e c (.definition (.badColumnName (.text "")))

variable {e : Engine} {c : ColumnDescription} {column : Column} {fault : Fault}

theorem build_eq_ok_iff : c.build e = .ok column ↔
    column.name = c.name ∧ Definition.make e (.text c.type) c.options = .ok column.definition := by
  simp only [build, bind_eq_ok_iff, Column.make_eq_ok_iff, Value.text.injEq]
  constructor
  · rintro ⟨d, hmake, hname, hd, _⟩
    exact ⟨hname.symm, hd ▸ hmake⟩
  · rintro ⟨hname, hmake⟩
    exact ⟨column.definition, hmake, hname.symm, rfl, (Definition.make_eq_ok_iff.mp hmake).1⟩

theorem exists_build_iff : (∃ column, c.build e = .ok column) ↔ c.Accepted e := by
  simp only [build_eq_ok_iff]
  constructor
  · rintro ⟨column, hname, hmake⟩
    exact ⟨⟨_, hmake⟩, hname ▸ column.name_ne_empty⟩
  · rintro ⟨⟨d, hmake⟩, hname⟩
    exact ⟨⟨c.name, d, hname⟩, rfl, hmake⟩

theorem build_eq_error_iff : c.build e = .error fault ↔ c.Refused e fault := by
  unfold build
  rw [bind_eq_error_iff]
  constructor
  · rintro (hmake | ⟨d, hmake, hcolumn⟩)
    · exact .definition hmake
    · by_cases hname : c.name = ""
      · have hbad : Column.make e (.text "") d =
            .error (.definition (.badColumnName (.text ""))) := rfl
        rw [hname, hbad] at hcolumn
        obtain rfl := Except.error.inj hcolumn
        exact .name hmake hname
      · have hok : Column.make e (.text c.name) d = .ok ⟨c.name, d, hname⟩ :=
          Column.make_eq_ok_iff.mpr ⟨rfl, rfl, (Definition.make_eq_ok_iff.mp hmake).1⟩
        rw [hok] at hcolumn
        exact absurd hcolumn (by simp)
  · intro h
    cases h with
    | definition hmake => exact Or.inl hmake
    | name hmake hname =>
      refine Or.inr ⟨_, hmake, ?_⟩
      rw [hname]
      rfl

end ColumnDescription

namespace Table

variable {schema name : String} {temporary : Bool} {columns : Columns} {keys : List String}

theorem find?_stray_eq_some_iff {key : String} :
    (keys.find? fun key => !columns.contains key) = some key ↔ ∃ before after,
      keys = before ++ key :: after ∧ (∀ k ∈ before, k ∈ columns.names) ∧ key ∉ columns.names := by
  rw [List.find?_eq_some_iff_append]
  simp only [Columns.contains, Bool.not_eq_eq_eq_not, Bool.not_true, Bool.not_not]
  constructor
  · rintro ⟨hstray, before, after, rfl, hbefore⟩
    exact ⟨before, after, rfl, by simpa using hbefore, by simpa using hstray⟩
  · rintro ⟨before, after, rfl, hbefore, hstray⟩
    exact ⟨by simpa using hstray, before, after, rfl, by simpa using hbefore⟩

theorem exists_stray (h : ¬ ∀ key ∈ keys, key ∈ columns.names) : ∃ before key after,
    keys = before ++ key :: after ∧ (∀ k ∈ before, k ∈ columns.names) ∧ key ∉ columns.names := by
  obtain ⟨key, hkey⟩ : ∃ key, (keys.find? fun key => !columns.contains key) = some key := by
    rw [← Option.isSome_iff_exists, List.find?_isSome]
    simpa [Columns.contains] using h
  obtain ⟨before, after, hfirst⟩ := find?_stray_eq_some_iff.mp hkey
  exact ⟨before, key, after, hfirst⟩

theorem make_of_stray {before after : List String} {key : String}
    (hkeys : keys = before ++ key :: after) (hbefore : ∀ k ∈ before, k ∈ columns.names)
    (hstray : key ∉ columns.names) : make schema name temporary columns keys =
      .error (.definition (.keyOutsideTable schema name key)) := by
  have hnot : ¬ ∀ k ∈ keys, k ∈ columns.names := fun hmem => hstray (hmem key (by simp [hkeys]))
  have hfirst := find?_stray_eq_some_iff.mpr ⟨before, after, hkeys, hbefore, hstray⟩
  unfold make
  rw [dif_neg hnot, hfirst]
  rfl

theorem make_of_repeated (hmem : ∀ key ∈ keys, key ∈ columns.names) (hrepeated : ¬ keys.Nodup) :
    make schema name temporary columns keys =
      .error (.definition (.repeatedKey schema name keys)) := by
  unfold make
  rw [dif_pos hmem, dif_neg hrepeated]
  rfl

/-- A table is refused for its first stray key, else for repeated keys. -/
theorem make_eq_error_iff {fault : Fault} :
    make schema name temporary columns keys = .error fault ↔
      (∃ before key after, keys = before ++ key :: after ∧ (∀ k ∈ before, k ∈ columns.names) ∧
        key ∉ columns.names ∧ fault = .definition (.keyOutsideTable schema name key)) ∨
      (∀ key ∈ keys, key ∈ columns.names) ∧ ¬ keys.Nodup ∧
        fault = .definition (.repeatedKey schema name keys) := by
  constructor
  · intro h
    by_cases hmem : ∀ key ∈ keys, key ∈ columns.names
    · by_cases hnodup : keys.Nodup
      · have hok := make_eq_ok ⟨schema, name, temporary, columns, keys, hmem, hnodup⟩
        rw [hok] at h
        exact absurd h (by simp)
      · rw [make_of_repeated hmem hnodup] at h
        exact Or.inr ⟨hmem, hnodup, (Except.error.inj h).symm⟩
    · obtain ⟨before, key, after, hkeys, hbefore, hstray⟩ := exists_stray hmem
      rw [make_of_stray hkeys hbefore hstray] at h
      exact Or.inl ⟨before, key, after, hkeys, hbefore, hstray, (Except.error.inj h).symm⟩
  · rintro (⟨before, key, after, hkeys, hbefore, hstray, rfl⟩ | ⟨hmem, hrepeated, rfl⟩)
    · exact make_of_stray hkeys hbefore hstray
    · exact make_of_repeated hmem hrepeated

end Table

namespace TableDescription

def columnNames (d : TableDescription) : List String := d.columns.map ColumnDescription.name

/-- All columns are accepted and called differently, and the keys are columns, none of them twice. -/
structure Acceptable (e : Engine) (d : TableDescription) : Prop where
  columns_accepted : ∀ c ∈ d.columns, c.Accepted e
  names_nodup : d.columnNames.Nodup
  keys_mem : ∀ key ∈ d.keys, key ∈ d.columnNames
  keys_nodup : d.keys.Nodup

/-- The table has the columns and the keys of the description, in its order. -/
structure Gives (e : Engine) (d : TableDescription) (t : Table) : Prop where
  schema : t.schema = d.schema
  name : t.name = d.table
  temporary : t.temporary = d.temporary
  columns : List.Forall₂ (fun c column => column.name = c.name ∧
    Definition.make e (.text c.type) c.options = .ok column.definition) d.columns t.columns.toList
  keys : t.keys = d.keys

/-- The fault of a description: that of the first column that has one, else the first name that is
repeated, else the first key that is no column, else repeated keys. -/
inductive Refused (e : Engine) (d : TableDescription) : Fault → Prop where
  | column {before after : List ColumnDescription} {c : ColumnDescription} {fault : Fault} :
      d.columns = before ++ c :: after → (∀ c' ∈ before, c'.Accepted e) → c.Refused e fault →
        Refused e d fault
  | repeatedColumn {before after : List String} {name : String} :
      (∀ c ∈ d.columns, c.Accepted e) → d.columnNames = before ++ name :: after →
        before.Nodup → name ∈ before → Refused e d (.definition (.repeatedColumn name))
  | strayKey {before after : List String} {key : String} :
      (∀ c ∈ d.columns, c.Accepted e) → d.columnNames.Nodup → d.keys = before ++ key :: after →
        (∀ k ∈ before, k ∈ d.columnNames) → key ∉ d.columnNames →
        Refused e d (.definition (.keyOutsideTable d.schema d.table key))
  | repeatedKey : (∀ c ∈ d.columns, c.Accepted e) → d.columnNames.Nodup →
      (∀ key ∈ d.keys, key ∈ d.columnNames) → ¬ d.keys.Nodup →
        Refused e d (.definition (.repeatedKey d.schema d.table d.keys))

variable {e : Engine} {d : TableDescription} {t : Table} {columns : List Column} {fault : Fault}

theorem mapM_build_eq_ok_iff : d.columns.mapM (ColumnDescription.build e) = .ok columns ↔
    List.Forall₂ (fun c column => column.name = c.name ∧
      Definition.make e (.text c.type) c.options = .ok column.definition) d.columns columns := by
  simp only [mapM_eq_ok_iff, ColumnDescription.build_eq_ok_iff]

theorem names_of_mapM_build (h : d.columns.mapM (ColumnDescription.build e) = .ok columns) :
    columns.map Column.name = d.columnNames := by
  unfold columnNames
  generalize d.columns = described at h
  induction mapM_eq_ok_iff.mp h with
  | nil => rfl
  | cons hbuild hrest ih =>
    rw [List.map_cons, List.map_cons, (ColumnDescription.build_eq_ok_iff.mp hbuild).1,
      ih (mapM_eq_ok_iff.mpr hrest)]

theorem accepted_of_mapM_build (h : d.columns.mapM (ColumnDescription.build e) = .ok columns) :
    ∀ c ∈ d.columns, c.Accepted e :=
  fun _ hc => ColumnDescription.exists_build_iff.mp (exists_of_mapM h hc)

theorem exists_mapM_build (h : ∀ c ∈ d.columns, c.Accepted e) :
    ∃ columns, d.columns.mapM (ColumnDescription.build e) = .ok columns :=
  exists_mapM_eq_ok fun c hc => ColumnDescription.exists_build_iff.mpr (h c hc)

theorem exists_columns (haccepted : ∀ c ∈ d.columns, c.Accepted e) (hnodup : d.columnNames.Nodup) :
    ∃ cs : Columns, d.columns.mapM (ColumnDescription.build e) = .ok cs.toList ∧
      cs.names = d.columnNames := by
  obtain ⟨columns, hcolumns⟩ := exists_mapM_build haccepted
  have hnames := names_of_mapM_build hcolumns
  exact ⟨⟨columns, hnames ▸ hnodup⟩, hcolumns, hnames⟩

/-- A description gives the table that it describes. -/
theorem build_eq_ok_iff : d.build e = .ok t ↔ d.Gives e t := by
  unfold build
  simp only [bind_eq_ok_iff, Columns.ofList_eq_ok_iff, Table.make_eq_ok_iff]
  constructor
  · rintro ⟨columns, hcolumns, cs, rfl, hschema, hname, htemporary, rfl, hkeys⟩
    exact ⟨hschema, hname, htemporary, mapM_build_eq_ok_iff.mp hcolumns, hkeys⟩
  · rintro ⟨hschema, hname, htemporary, hcolumns, hkeys⟩
    exact ⟨_, mapM_build_eq_ok_iff.mpr hcolumns, t.columns, rfl, hschema, hname, htemporary, rfl,
      hkeys⟩

theorem exists_build_iff : (∃ t, d.build e = .ok t) ↔ d.Acceptable e := by
  constructor
  · rintro ⟨t, h⟩
    have hgives := build_eq_ok_iff.mp h
    have hcolumns := mapM_build_eq_ok_iff.mpr hgives.columns
    have hnames : t.columns.names = d.columnNames := names_of_mapM_build hcolumns
    refine ⟨accepted_of_mapM_build hcolumns, ?_, ?_, ?_⟩
    · exact hnames ▸ t.columns.nodup_names
    · rw [← hgives.keys, ← hnames]
      exact t.keys_mem
    · exact hgives.keys ▸ t.keys_nodup
  · intro h
    obtain ⟨cs, hcolumns, hnames⟩ := exists_columns h.columns_accepted h.names_nodup
    have hmem : ∀ key ∈ d.keys, key ∈ cs.names := by
      rw [hnames]
      exact h.keys_mem
    exact ⟨⟨d.schema, d.table, d.temporary, cs, d.keys, hmem, h.keys_nodup⟩,
      build_eq_ok_iff.mpr ⟨rfl, rfl, rfl, mapM_build_eq_ok_iff.mp hcolumns, rfl⟩⟩

/-- A description meets the fault that comes first. -/
theorem build_eq_error_iff : d.build e = .error fault ↔ d.Refused e fault := by
  unfold build
  simp only [bind_eq_error_iff, Columns.ofList_eq_error_iff, Columns.ofList_eq_ok_iff,
    Table.make_eq_error_iff]
  constructor
  · rintro (hcolumns | ⟨columns, hcolumns, hrest⟩)
    · obtain ⟨before, c, after, hsplit, hbefore, hc⟩ := mapM_eq_error_iff.mp hcolumns
      exact .column hsplit (fun c' hc' => ColumnDescription.exists_build_iff.mp (hbefore c' hc'))
        (ColumnDescription.build_eq_error_iff.mp hc)
    · have haccepted := accepted_of_mapM_build hcolumns
      have hnames := names_of_mapM_build hcolumns
      rcases hrest with ⟨before, name, after, hsplit, hnodup, hmem, rfl⟩ | ⟨cs, rfl, hkeys⟩
      · exact .repeatedColumn haccepted (hnames ▸ hsplit) hnodup hmem
      · have hnodup : d.columnNames.Nodup := hnames ▸ cs.nodup_names
        have hnames : cs.names = d.columnNames := hnames
        rw [hnames] at hkeys
        rcases hkeys with ⟨before, key, after, hsplit, hbefore, hstray, rfl⟩ | ⟨hmem, hrepeated, rfl⟩
        · exact .strayKey haccepted hnodup hsplit hbefore hstray
        · exact .repeatedKey haccepted hnodup hmem hrepeated
  · intro h
    cases h with
    | column hsplit hbefore hc =>
      refine Or.inl (mapM_eq_error_iff.mpr ⟨_, _, _, hsplit, ?_, ?_⟩)
      · exact fun c' hc' => ColumnDescription.exists_build_iff.mpr (hbefore c' hc')
      · exact ColumnDescription.build_eq_error_iff.mpr hc
    | repeatedColumn haccepted hsplit hnodup hmem =>
      obtain ⟨columns, hcolumns⟩ := exists_mapM_build haccepted
      have hnames := (names_of_mapM_build hcolumns).trans hsplit
      exact Or.inr ⟨columns, hcolumns, Or.inl ⟨_, _, _, hnames, hnodup, hmem, rfl⟩⟩
    | strayKey haccepted hnodup hsplit hbefore hstray =>
      obtain ⟨cs, hcolumns, hnames⟩ := exists_columns haccepted hnodup
      refine Or.inr ⟨_, hcolumns, Or.inr ⟨cs, rfl, Or.inl ?_⟩⟩
      rw [hnames]
      exact ⟨_, _, _, hsplit, hbefore, hstray, rfl⟩
    | repeatedKey haccepted hnodup hmem hrepeated =>
      obtain ⟨cs, hcolumns, hnames⟩ := exists_columns haccepted hnodup
      refine Or.inr ⟨_, hcolumns, Or.inr ⟨cs, rfl, Or.inr ?_⟩⟩
      rw [hnames]
      exact ⟨hmem, hrepeated, rfl⟩

end TableDescription

namespace Table

theorem ofValue_eq_build {e : Engine} {v : Value} {d : TableDescription}
    (h : TableDescription.ofValue v = .ok d) : ofValue e v = d.build e := by
  rw [ofValue, h]
  rfl

/-- A document of the right shape gives a table exactly when its description is acceptable, the table is
the one that it describes, and otherwise the fault is the one that comes first. -/
theorem ofValue_gives_or_refused {e : Engine} {v : Value} {d : TableDescription}
    (h : TableDescription.ofValue v = .ok d) :
    ((∃ t, ofValue e v = .ok t) ↔ d.Acceptable e) ∧ (∀ t, ofValue e v = .ok t ↔ d.Gives e t) ∧
      ∀ fault, ofValue e v = .error fault ↔ d.Refused e fault := by
  rw [ofValue_eq_build h]
  exact ⟨TableDescription.exists_build_iff, fun t => TableDescription.build_eq_ok_iff,
    fun fault => TableDescription.build_eq_error_iff⟩

/-- The columns of a document with two columns of one name, and behind them one without a name whose type
is unknown. -/
def faultyColumns : List (String × String) := [("id", "int"), ("id", "bigint"), ("", "money")]

/-- Neither of its keys is a column, and they are the same. -/
def faultyDocument : Value :=
  .map [(.text "schema_name", .text "sales"), (.text "table_name", .text "orders"),
    (.text "columns", .list (faultyColumns.map fun c =>
      .map [(.text "name", .text c.1), (.text "type", .text c.2)])),
    (.text "primary_keys", .list [.text "ID", .text "ID"])]

/-- Of all that is wrong with this document, the unknown type comes first. -/
theorem ofValue_faultyDocument :
    ∃ d, TableDescription.ofValue faultyDocument = .ok d ∧
      ofValue .redshift faultyDocument = .error (.definition (.unknownType .redshift "money")) := by
  have hread : TableDescription.ofValue faultyDocument =
      .ok ⟨"sales", "orders", false, faultyColumns.map fun c => ⟨c.1, c.2, []⟩, ["ID", "ID"]⟩ := rfl
  have hsplit : (faultyColumns.map fun c => (⟨c.1, c.2, []⟩ : ColumnDescription)) =
      [⟨"id", "int", []⟩, ⟨"id", "bigint", []⟩] ++ ⟨"", "money", []⟩ :: [] := rfl
  refine ⟨_, hread, ((ofValue_gives_or_refused hread).2.2 _).mpr (.column hsplit ?_ (.definition rfl))⟩
  intro c hc
  simp only [List.mem_cons, List.not_mem_nil, or_false] at hc
  rcases hc with rfl | rfl
  · exact ⟨⟨_, rfl⟩, by decide⟩
  · exact ⟨⟨_, rfl⟩, by decide⟩

end Table

end WarehouseSchema
