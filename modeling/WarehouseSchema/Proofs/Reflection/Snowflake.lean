import Mathlib.Data.List.Nodup
import WarehouseSchema.Proofs.Column.Collection
import WarehouseSchema.Proofs.Column.DescribedType
import WarehouseSchema.Proofs.Column.Fields
import WarehouseSchema.Proofs.Session
import WarehouseSchema.Reflection.Table

/-!
Reflection of Snowflake tables. `Faithful` says that a backend shows a table as it is, `ReadableColumn`
that nothing of a column is lost when it is shown. Main statement: a table that is shown as it is, is
reflected as it is.
-/

namespace WarehouseSchema

open Text Reflection

namespace Snowflake

/-- A row of a table description that shows a column. -/
structure ShowsColumn (row : Record) (c : Column) : Prop where
  kind : row.findAnyCase? "kind" = some (.text "COLUMN")
  name : row.findAnyCase? "name" = some (.text c.name)
  type : row.findAnyCase? "type" = some (.text c.definition.typeSql)
  nullable : row.findAnyCase? "null?" = some (.text (if c.definition.nullable then "Y" else "N"))
  default : row.findAnyCase? "default" = some (Definition.optionValue c.definition.default)

/-- The rows of a table description: a row for each column, in order, and any rows of other kinds. -/
inductive Describes : List Record → List Column → Prop where
  | nil : Describes [] []
  | column {row : Record} {rows : List Record} {c : Column} {cs : List Column} :
      ShowsColumn row c → Describes rows cs → Describes (row :: rows) (c :: cs)
  | other {row : Record} {rows : List Record} {cs : List Column} {kind : Value} :
      row.findAnyCase? "kind" = some kind → kind ≠ .text "COLUMN" → Describes rows cs →
        Describes (row :: rows) cs

/-- The rows of keys that are numbered from a number on. -/
inductive NumbersKeys : Int → List Record → List String → Prop where
  | nil (n : Int) : NumbersKeys n [] []
  | cons {n : Int} {row : Record} {rows : List Record} {key : String} {keys : List String}
      {sequence : Value} : row.findAnyCase? "column_name" = some (.text key) →
        row.findAnyCase? "key_sequence" = some sequence → sequence.toInteger = .ok n →
          NumbersKeys (n + 1) rows keys → NumbersKeys n (row :: rows) (key :: keys)

def ListsTemporary (table : String) (row : Record) : Prop :=
  row.findAnyCase? "name" = some (.text table) ∧
    row.findAnyCase? "kind" = some (.text "TEMPORARY")

/-- A backend that shows a table as it is, whatever was asked before. -/
structure Faithful (b : Backend) (t : Table) : Prop where
  columns : ∀ earlier, ∃ rows,
    b.answer earlier ((CatalogQuery.columns t.schema t.name).render .snowflake) = .ok rows ∧
      Describes rows t.columns.toList
  keys : ∀ earlier, ∃ rows ordered first,
    b.answer earlier ((CatalogQuery.keys t.schema t.name).render .snowflake) = .ok rows ∧
      rows.Perm ordered ∧ NumbersKeys first ordered t.keys
  temporary : ∀ earlier, ∃ rows,
    b.answer earlier ((CatalogQuery.temporary t.schema t.name).render .snowflake) = .ok rows ∧
      ((∃ row ∈ rows, ListsTemporary t.name row) ↔ t.temporary = true)

/-- A column that can be read back: a length with a line feed would not be. -/
structure ReadableColumn (c : Column) : Prop where
  made : c.definition.MadeFor .snowflake
  length : ∀ s ∈ c.definition.length, '\n' ∉ s.toList

theorem snowflakeColumn_of_shows {row : Record} {c : Column} (h : ShowsColumn row c)
    (hc : ReadableColumn c) : Catalog.snowflakeColumn row = .ok c := by
  have heng := hc.made.engine_eq
  have hmake : Definition.make .snowflake (.text c.definition.type)
      [("length", Definition.optionValue c.definition.length),
       ("nullable", .bool c.definition.nullable),
       ("default", Definition.optionValue c.definition.default)] = .ok c.definition := by
    have hmade := hc.made.canonical.make_optionRecord
    rw [heng] at hmade
    simpa [Definition.optionRecord, heng, Engine.hasCompression, Engine.options] using hmade
  have hlength : (c.definition.length.map String.toList).map String.ofList =
      c.definition.length := by
    simp
  have hnullable : (Value.text (if c.definition.nullable then "Y" else "N")).isText "Y" =
      c.definition.nullable := by
    cases c.definition.nullable <;> rfl
  unfold Catalog.snowflakeColumn
  simp only [Record.getAnyCase_of_find _ h.type, Record.getAnyCase_of_find _ h.name,
    Record.getAnyCase_of_find _ h.nullable, Record.getAnyCase_of_find _ h.default, Value.text?,
    Option.bind_some, Catalog.ofChars?_typeSql hc.made.canonical heng hc.length,
    String.ofList_toList, hlength, hnullable, hmake, ok_bind]
  exact Column.make_eq_ok_iff.mpr ⟨rfl, rfl, heng⟩

theorem decoded_of_describes {rows : List Record} {cs : List Column} (h : Describes rows cs)
    (hcs : ∀ c ∈ cs, ReadableColumn c) :
    (rows.filter (isStored .snowflake)).mapM (Column.ofRow .snowflake) = .ok cs := by
  rw [mapM_eq_ok_iff]
  induction h with
  | nil => exact .nil
  | column hrow _ ih =>
    rename_i row rows c cs _
    have hstored : isStored .snowflake row = true := by
      rw [isStored, Record.getAnyCase_of_find _ hrow.kind]
      rfl
    rw [List.filter_cons_of_pos hstored]
    exact .cons (snowflakeColumn_of_shows hrow (hcs c (by simp)))
      (ih fun d hd => hcs d (List.mem_cons_of_mem c hd))
  | other hkind hne _ ih =>
    rename_i row rows cs kind _
    have hstored : isStored .snowflake row = false := by
      rw [isStored, Record.getAnyCase_of_find _ hkind]
      exact Bool.eq_false_iff.mpr fun hk => hne (Value.isText_iff.mp hk)
    rw [List.filter_cons_of_neg (by simp [hstored])]
    exact ih hcs

theorem describedColumns_eq_ok {rows : List Record} {cs : Columns}
    (h : Describes rows cs.toList) (hcs : ∀ c ∈ cs.toList, ReadableColumn c) :
    describedColumns .snowflake rows = .ok cs := by
  unfold describedColumns Columns.ofRows
  rw [decoded_of_describes h hcs, ok_bind]
  exact Columns.ofList_eq_ok_iff.mpr rfl

/-- The number of a key row, if it has one. -/
def position (row : Record) : Int := (keySequence row).toOption.getD 0

theorem NumbersKeys.position_ge {n : Int} {rows : List Record} {keys : List String}
    (h : NumbersKeys n rows keys) :
    ∀ row ∈ rows, keySequence row = .ok (position row) ∧ n ≤ position row := by
  induction h with
  | nil => simp
  | cons hname hseq hint _ ih =>
    rename_i n row rows key keys sequence _
    have hrow : keySequence row = .ok n := by
      rw [keySequence, Record.getAnyCase_of_find _ hseq, hint]
    have hpos : position row = n := by
      rw [position, hrow]
      rfl
    intro r hr
    rcases List.mem_cons.mp hr with rfl | hr
    · rw [hpos]
      exact ⟨hrow, Int.le_refl n⟩
    · obtain ⟨hr, hle⟩ := ih r hr
      exact ⟨hr, by omega⟩

theorem NumbersKeys.pairwise {n : Int} {rows : List Record} {keys : List String}
    (h : NumbersKeys n rows keys) : rows.Pairwise fun a b => position a < position b := by
  induction h with
  | nil => exact .nil
  | cons hname hseq hint hrest ih =>
    rename_i n row rows key keys sequence
    refine .cons ?_ ih
    intro r hr
    have hle := (hrest.position_ge r hr).2
    have hpos : position row = n := by
      rw [position, keySequence, Record.getAnyCase_of_find _ hseq, hint]
      rfl
    omega

def numbered (row : Record) : Int × Record := (position row, row)

theorem eq_of_position_eq {rows : List Record}
    (hlt : rows.Pairwise fun a b => position a < position b) {a b : Int × Record}
    (ha : a ∈ rows.map numbered) (hb : b ∈ rows.map numbered) (h : a.1 = b.1) : a = b := by
  obtain ⟨r, hr, rfl⟩ := List.mem_map.mp ha
  obtain ⟨s, hs, rfl⟩ := List.mem_map.mp hb
  have hnodup : (rows.map position).Nodup :=
    List.pairwise_map.mpr (hlt.imp fun hrs => Int.ne_of_lt hrs)
  rw [List.inj_on_of_nodup_map hnodup hr hs h]

/-- Sorting by number puts rows in any order into the order of their numbers. -/
theorem mergeSort_numbered {rows ordered : List Record}
    (hlt : ordered.Pairwise fun a b => position a < position b) (hperm : rows.Perm ordered) :
    (rows.map numbered).mergeSort (fun a b => decide (a.1 ≤ b.1)) = ordered.map numbered := by
  have hmerged : ((rows.map numbered).mergeSort fun a b => decide (a.1 ≤ b.1)).Perm
      (ordered.map numbered) := (List.mergeSort_perm _ _).trans (hperm.map numbered)
  have hsorted : ((rows.map numbered).mergeSort fun a b => decide (a.1 ≤ b.1)).Pairwise
      fun a b => a.1 ≤ b.1 := by
    refine (List.pairwise_mergeSort ?_ ?_ (rows.map numbered)).imp of_decide_eq_true
    · intro a b c hab hbc
      exact decide_eq_true (Int.le_trans (of_decide_eq_true hab) (of_decide_eq_true hbc))
    · intro a b
      simpa using Int.le_total a.1 b.1
  have hle : (ordered.map numbered).Pairwise fun a b => a.1 ≤ b.1 :=
    List.pairwise_map.mpr (hlt.imp fun h => Int.le_of_lt h)
  -- Both lists are sorted and hold the same rows, of which no two have one number.
  apply List.Perm.eq_of_pairwise _ hsorted hle hmerged
  intro a b ha hb hab hba
  exact eq_of_position_eq hlt (hmerged.subset ha) hb (Int.le_antisymm hab hba)

theorem keyRows_of_perm {rows ordered : List Record}
    (hok : ∀ row ∈ ordered, keySequence row = .ok (position row))
    (hlt : ordered.Pairwise fun a b => position a < position b) (hperm : rows.Perm ordered) :
    keyRows .snowflake rows = .ok ordered := by
  have hnumbered : (rows.mapM fun row => do return (← keySequence row, row)) =
      .ok (rows.map numbered) := by
    rw [mapM_eq_ok_iff, List.forall₂_map_right_iff, List.forall₂_same]
    intro row hrow
    rw [hok row (hperm.subset hrow)]
    rfl
  simp only [keyRows]
  rw [hnumbered, ok_bind, mergeSort_numbered hlt hperm, pure_eq_ok_iff, List.map_map]
  exact List.map_id ordered

theorem names_of_numbersKeys {n : Int} {rows : List Record} {keys : List String}
    (h : NumbersKeys n rows keys) (hbare : ∀ key ∈ keys, Bare key.toList) :
    rows.mapM (nameIn (keyField .snowflake)) = .ok keys := by
  rw [mapM_eq_ok_iff]
  induction h with
  | nil => exact .nil
  | cons hname _ _ _ ih =>
    rename_i n row rows key keys sequence _ _ _
    refine .cons ?_ (ih fun k hk => hbare k (List.mem_cons_of_mem key hk))
    have hdisplay : Fault.ofText (Value.text key).display = .ok key := rfl
    rw [nameIn, keyField, Record.getAnyCase_of_find _ hname, hdisplay, ok_bind,
      trim_of_bare (hbare key (by simp))]
    rfl

theorem keyNames_eq_ok {n : Int} {rows ordered : List Record} {keys : List String}
    (hperm : rows.Perm ordered) (h : NumbersKeys n ordered keys)
    (hbare : ∀ key ∈ keys, Bare key.toList) : keyNames .snowflake rows = .ok keys := by
  unfold keyNames
  rw [keyRows_of_perm (fun row hrow => (h.position_ge row hrow).1) h.pairwise hperm, ok_bind]
  exact names_of_numbersKeys h hbare

theorem isTemporary_eq_ok {rows : List Record} {table : String} {temporary : Bool}
    (h : (∃ row ∈ rows, ListsTemporary table row) ↔ temporary = true) :
    isTemporary .snowflake table rows = .ok temporary := by
  have hfield : ∀ (row : Record) field s,
      (row.getAnyCase field .null).isText s = true ↔ row.findAnyCase? field = some (.text s) := by
    intro row field s
    rw [Value.isText_iff, Record.getAnyCase]
    cases row.findAnyCase? field <;> simp
  simp only [isTemporary]
  congr 1
  rw [Bool.eq_iff_iff, ← h, List.any_eq_true]
  simp only [Bool.and_eq_true, hfield, ListsTemporary]

section
variable {b : Backend} {t : Table} {earlier : List String} {fs : Files} (h : Faithful b t)
include h

theorem Faithful.asks_isTemporary :
    Session.Asks (TableReference.isTemporary ⟨.snowflake, t.schema, t.name⟩) b earlier fs
      [(CatalogQuery.temporary t.schema t.name).render .snowflake] (.ok t.temporary) fs := by
  obtain ⟨rows, hrows, hlists⟩ := h.temporary earlier
  rw [← isTemporary_eq_ok hlists, ← Backend.read_of_answer hrows (isTemporary .snowflake t.name)]
  exact Session.asks_read _ _

theorem Faithful.asks_columns (hcolumns : ∀ c ∈ t.columns.toList, ReadableColumn c) :
    Session.Asks (TableReference.columns ⟨.snowflake, t.schema, t.name⟩) b earlier fs
      [(CatalogQuery.columns t.schema t.name).render .snowflake] (.ok t.columns) fs := by
  obtain ⟨rows, hrows, hdescribes⟩ := h.columns earlier
  rw [← describedColumns_eq_ok hdescribes hcolumns,
    ← Backend.read_of_answer hrows (describedColumns .snowflake)]
  exact Session.asks_read _ _

theorem Faithful.asks_keyNames (hkeys : ∀ key ∈ t.keys, Bare key.toList) :
    Session.Asks (TableReference.keyNames ⟨.snowflake, t.schema, t.name⟩) b earlier fs
      [(CatalogQuery.keys t.schema t.name).render .snowflake] (.ok t.keys) fs := by
  obtain ⟨rows, ordered, first, hrows, hperm, hnumbers⟩ := h.keys earlier
  rw [← keyNames_eq_ok hperm hnumbers hkeys, ← Backend.read_of_answer hrows (keyNames .snowflake)]
  exact Session.asks_read _ _

theorem Faithful.asks_definition (hcolumns : ∀ c ∈ t.columns.toList, ReadableColumn c)
    (hkeys : ∀ key ∈ t.keys, Bare key.toList) :
    Session.Asks (TableReference.definition ⟨.snowflake, t.schema, t.name⟩) b earlier fs
      ([CatalogQuery.temporary t.schema t.name, .columns t.schema t.name,
        .keys t.schema t.name].map (CatalogQuery.render .snowflake)) (.ok t) fs := by
  have hmake : ∀ earlier, Session.Asks (Session.ofExcept
      (Table.make t.schema t.name t.temporary t.columns t.keys)) b earlier fs [] (.ok t) fs := by
    intro earlier
    rw [t.make_eq_ok]
    exact Session.asks_ofExcept _
  unfold TableReference.definition
  refine (Session.asks_note _ _ _).after_quiet ?_
  refine h.asks_isTemporary.bind ((h.asks_columns hcolumns).bind ?_)
  exact (h.asks_keyNames hkeys).bind (hmake _)

end

/-- A table that Snowflake shows as it is, is reflected as it is. -/
theorem definition_eq_table {b : Backend} {t : Table}
    (hcolumns : ∀ c ∈ t.columns.toList, ReadableColumn c)
    (hkeys : ∀ key ∈ t.keys, Bare key.toList) (h : Faithful b t) (j : Journal) :
    ((⟨.snowflake, t.schema, t.name⟩ : TableReference).definition.run b j).1 = .ok t := by
  obtain ⟨j', hrun, _⟩ := h.asks_definition hcolumns hkeys j rfl rfl
  exact congrArg Prod.fst hrun

/-- A temporary table whose keys are not in the order of its columns. -/
def orderLines : Table where
  schema := "sales"
  name := "order \"lines\""
  temporary := true
  columns :=
    ⟨[⟨"order", ⟨.snowflake, "NUMBER", some "38 , 0", false, none, none⟩, by decide⟩,
      ⟨"line", ⟨.snowflake, "DOUBLE PRECISION", none, true, some "1", none⟩, by decide⟩], by decide⟩
  keys := ["line", "order"]
  keys_mem := by decide
  keys_nodup := by decide

/-- The description of this table, with a virtual column. -/
def orderLinesDescription : List Record :=
  [[("NAME", .text "order"), ("TYPE", .text "NUMBER(38 , 0)"), ("KIND", .text "COLUMN"),
      ("NULL?", .text "N"), ("DEFAULT", .null)],
    [("NAME", .text "total"), ("TYPE", .text "FLOAT"), ("KIND", .text "VIRTUAL")],
    [("NAME", .text "line"), ("TYPE", .text "DOUBLE PRECISION"), ("KIND", .text "COLUMN"),
      ("NULL?", .text "Y"), ("DEFAULT", .text "1")]]

/-- The keys of this table, in the order of the columns. -/
def orderLinesKeys : List Record :=
  [[("column_name", .text "order"), ("key_sequence", .int 2)],
    [("column_name", .text "line"), ("key_sequence", .int 1)]]

/-- The rows that show this table. -/
def orderLinesRows (sql : String) : List Record :=
  if sql = (CatalogQuery.columns orderLines.schema orderLines.name).render .snowflake then
    orderLinesDescription
  else if sql = (CatalogQuery.keys orderLines.schema orderLines.name).render .snowflake then
    orderLinesKeys
  else [[("name", .text orderLines.name), ("kind", .text "TEMPORARY")]]

def orderLinesBackend : Backend := ⟨fun _ sql => .ok (orderLinesRows sql)⟩

theorem describes_orderLines : Describes orderLinesDescription orderLines.columns.toList := by
  have hvirtual : Value.text "VIRTUAL" ≠ .text "COLUMN" := by simp
  exact .column ⟨rfl, rfl, rfl, rfl, rfl⟩
    (.other rfl hvirtual (.column ⟨rfl, rfl, rfl, rfl, rfl⟩ .nil))

/-- What is asked about this table is told by rows of their own. -/
theorem orderLinesRows_eq :
    orderLinesRows ((CatalogQuery.columns orderLines.schema orderLines.name).render .snowflake) =
      orderLinesDescription ∧
    orderLinesRows ((CatalogQuery.keys orderLines.schema orderLines.name).render .snowflake) =
      orderLinesKeys ∧
    orderLinesRows ((CatalogQuery.temporary orderLines.schema orderLines.name).render .snowflake) =
      [[("name", .text orderLines.name), ("kind", .text "TEMPORARY")]] := by
  have hkeys : (CatalogQuery.keys orderLines.schema orderLines.name).render .snowflake ≠
      (CatalogQuery.columns orderLines.schema orderLines.name).render .snowflake := by
    decide +kernel
  have htemporary : (CatalogQuery.temporary orderLines.schema orderLines.name).render .snowflake ≠
      (CatalogQuery.columns orderLines.schema orderLines.name).render .snowflake := by
    decide +kernel
  have htemporary' : (CatalogQuery.temporary orderLines.schema orderLines.name).render .snowflake ≠
      (CatalogQuery.keys orderLines.schema orderLines.name).render .snowflake := by
    decide +kernel
  refine ⟨if_pos rfl, ?_, ?_⟩
  · rw [orderLinesRows, if_neg hkeys, if_pos rfl]
  · rw [orderLinesRows, if_neg htemporary, if_neg htemporary']

theorem faithful_orderLines : Faithful orderLinesBackend orderLines := by
  obtain ⟨hcolumns, hkeys, htemporary⟩ := orderLinesRows_eq
  constructor
  · exact fun _ => ⟨_, congrArg Except.ok hcolumns, describes_orderLines⟩
  · intro earlier
    refine ⟨_, _, 1, congrArg Except.ok hkeys, List.reverse_perm _ |>.symm, ?_⟩
    exact .cons rfl rfl rfl (.cons rfl rfl rfl (.nil 3))
  · intro earlier
    refine ⟨_, congrArg Except.ok htemporary, ?_⟩
    exact iff_of_true ⟨_, List.mem_singleton.mpr rfl, rfl, rfl⟩ rfl

theorem readable_orderLines : ∀ c ∈ orderLines.columns.toList, ReadableColumn c := by
  intro c hc
  simp only [orderLines, List.mem_cons, List.not_mem_nil, or_false] at hc
  rcases hc with rfl | rfl
  · exact ⟨⟨.text "NUMBER", [("length", .text "38 , 0"), ("nullable", .bool false)], rfl⟩,
      by decide⟩
  · exact ⟨⟨.text "double  precision", [("default", .int 1)], rfl⟩, by decide⟩

theorem bare_orderLines : ∀ key ∈ orderLines.keys, Bare key.toList := by
  intro key hkey
  simp only [orderLines, List.mem_cons, List.not_mem_nil, or_false] at hkey
  rcases hkey with rfl | rfl
  · exact bare_of_forall (by simp; decide)
  · exact bare_of_forall (by simp; decide)

theorem orderLines_reflected : (∀ c ∈ orderLines.columns.toList, ReadableColumn c) ∧
    (∀ key ∈ orderLines.keys, Bare key.toList) ∧ Faithful orderLinesBackend orderLines ∧
      ((⟨.snowflake, orderLines.schema, orderLines.name⟩ : TableReference).definition.run
        orderLinesBackend (Journal.start ⟨[], []⟩)).1 = .ok orderLines :=
  ⟨readable_orderLines, bare_orderLines, faithful_orderLines,
    definition_eq_table readable_orderLines bare_orderLines faithful_orderLines _⟩

end Snowflake

end WarehouseSchema
