import WarehouseSchema.Proofs.Column.Described
import WarehouseSchema.Proofs.Reflection.Names
import WarehouseSchema.Proofs.Reflection.Snowflake
import WarehouseSchema.Proofs.Table.Acceptance

/-!
Reflected keys. The name of a key is shown without blanks around it; the name of a column is so for Teradata
only. `PairsKeys` says that the rows of keys carry the names of described columns as they are. Main
statement: then the keys of the reflected table are the names of these columns, in key order, exactly when
none of these names has blanks around it.
-/

namespace WarehouseSchema

open Text Catalog

namespace Reflection

section
variable {α β : Type} {R : α → β → Prop}

theorem rel_of_getElem? {xs : List α} {ys : List β} (h : List.Forall₂ R xs ys) {i : Nat} {x : α}
    {y : β} (hx : xs[i]? = some x) (hy : ys[i]? = some y) : R x y := by
  induction h generalizing i with
  | nil => simp at hx
  | cons hfirst _ ih =>
    cases i with
    | zero =>
      obtain rfl := Option.some.inj hx
      obtain rfl := Option.some.inj hy
      exact hfirst
    | succ i => exact ih hx hy

end

/-- The rows of keys in key order: those of Snowflake carry numbers, no two of them the same. -/
def KeyOrder : Engine → List Record → List Record → Prop
  | .snowflake, rows, ordered => rows.Perm ordered ∧ ∃ numbers : List Int,
      ordered.mapM keySequence = .ok numbers ∧ numbers.Pairwise (· < ·)
  | _, rows, ordered => ordered = rows

/-- The described rows decode into columns, and each row of keys carries, as it is, the name that stands
in a described row of its own. `names` are the names of the decoded columns, in key order. -/
structure PairsKeys (e : Engine) (described keys : List Record) (columns : Columns)
    (names : List String) : Prop where
  decoded : describedColumns e described = .ok columns
  paired : ∃ (ordered : List Record) (places : List Nat), KeyOrder e keys ordered ∧ places.Nodup ∧
    List.Forall₂ (fun key i => ∃ row, (described.filter (isStored e))[i]? = some row ∧
      key.getAnyCase (keyField e) .null = row.getAnyCase (columnField e) .null) ordered places ∧
    List.Forall₂ (fun i name => columns.names[i]? = some name) places names

variable {e : Engine} {described keys ordered : List Record} {columns : Columns}
  {names : List String}

theorem keyRows_of_keyOrder (h : KeyOrder e keys ordered) : keyRows e keys = .ok ordered := by
  cases e with
  | snowflake =>
    obtain ⟨hperm, numbers, hnumbers, hlt⟩ := h
    have hposition : ∀ row n, keySequence row = .ok n → Snowflake.position row = n := by
      intro row n hn
      rw [Snowflake.position, hn]
      rfl
    have hmap : ordered.map Snowflake.position = numbers := by
      have hrows := mapM_eq_ok_iff.mp hnumbers
      clear hperm hnumbers hlt
      induction hrows with
      | nil => rfl
      | cons hrow _ ih => rw [List.map_cons, hposition _ _ hrow, ih]
    refine Snowflake.keyRows_of_perm ?_ (List.pairwise_map.mp (hmap ▸ hlt)) hperm
    intro row hrow
    obtain ⟨n, hn⟩ := exists_of_mapM hnumbers hrow
    rw [hposition row n hn, hn]
  | redshift => exact congrArg Except.ok h.symm
  | teradata => exact congrArg Except.ok h.symm

theorem text_of_trimmedField {row : Record} {field name : String}
    (h : trimmedField row field = .text name) :
    ∃ s, row.getAnyCase field .null = .text s ∧ trim s = name := by
  unfold trimmedField at h
  cases hv : row.getAnyCase field .null with
  | text s =>
    rw [hv] at h
    exact ⟨s, rfl, Value.text.inj h⟩
  | _ =>
    rw [hv] at h
    cases h

theorem bare_trim (s : String) : Bare (trim s).toList := by
  rw [toList_trim]
  exact bare_trimChars s.toList

/-- A row of keys that carries the name of a described row as it is shows the column's name without blanks
around it. -/
theorem nameIn_of_column {row key : Record} {c : Column} (hdecoded : Column.ofRow e row = .ok c)
    (hsame : key.getAnyCase (keyField e) .null = row.getAnyCase (columnField e) .null) :
    nameIn (keyField e) key = .ok (trim c.name) := by
  have hshown : ∀ s, key.getAnyCase (keyField e) .null = .text s →
      nameIn (keyField e) key = .ok (trim s) := by
    intro s hs
    have hdisplay : Fault.ofText (Value.text s).display = .ok s := rfl
    rw [nameIn, hs, hdisplay, ok_bind]
    rfl
  cases e with
  | redshift => exact hshown _ (hsame.trans (name_of_redshiftColumn hdecoded))
  | snowflake => exact hshown _ (hsame.trans (name_of_snowflakeColumn hdecoded))
  | teradata =>
    obtain ⟨s, hs, hname⟩ := text_of_trimmedField (name_of_teradataColumn hdecoded)
    rw [← hname, trim_of_bare (bare_trim s)]
    exact hshown s (hsame.trans hs)

/-- The columns of Teradata have no blanks around their names. -/
theorem bare_name_of_teradataColumn {row : Record} {c : Column} (h : teradataColumn row = .ok c) :
    Bare c.name.toList := by
  obtain ⟨s, -, hname⟩ := text_of_trimmedField (name_of_teradataColumn h)
  exact hname ▸ bare_trim s

theorem forall₂_columns (h : describedColumns e described = .ok columns) :
    List.Forall₂ (fun row c => Column.ofRow e row = .ok c) (described.filter (isStored e))
      columns.toList := by
  obtain ⟨decoded, hdecoded, hcolumns⟩ := bind_eq_ok_iff.mp h
  obtain rfl := Columns.ofList_eq_ok_iff.mp hcolumns
  exact mapM_eq_ok_iff.mp hdecoded

theorem exists_column {i : Nat} {name : String} (h : columns.names[i]? = some name) :
    ∃ c, columns.toList[i]? = some c ∧ c.name = name := by
  rw [Columns.names, List.getElem?_map, Option.map_eq_some_iff] at h
  exact h

theorem PairsKeys.keyNames_eq (h : PairsKeys e described keys columns names) :
    keyNames e keys = .ok (names.map trim) := by
  obtain ⟨hdecoded, ordered, places, hordered, -, hrows, hnames⟩ := h
  unfold keyNames
  rw [keyRows_of_keyOrder hordered, ok_bind, mapM_eq_ok_iff, List.forall₂_map_right_iff]
  clear hordered
  induction hrows generalizing names with
  | nil =>
    cases hnames
    exact .nil
  | cons hrow _ ih =>
    cases hnames with
    | cons hname hrest =>
      obtain ⟨row, hplace, hsame⟩ := hrow
      obtain ⟨c, hc, rfl⟩ := exists_column hname
      have hcolumn := rel_of_getElem? (forall₂_columns hdecoded) hplace hc
      exact .cons (nameIn_of_column hcolumn hsame) (ih hrest)

/-- A name of a key is the name of a column at one of the places. -/
theorem exists_place {places : List Nat} {name : String}
    (h : List.Forall₂ (fun i name => columns.names[i]? = some name) places names)
    (hmem : name ∈ names) : ∃ i ∈ places, columns.names[i]? = some name := by
  induction h with
  | nil => exact absurd hmem List.not_mem_nil
  | cons hname _ ih =>
    rcases List.mem_cons.mp hmem with rfl | hmem
    · exact ⟨_, List.mem_cons_self, hname⟩
    · obtain ⟨i, hi, hplace⟩ := ih hmem
      exact ⟨i, List.mem_cons_of_mem _ hi, hplace⟩

theorem PairsKeys.mem_names (h : PairsKeys e described keys columns names) {name : String}
    (hmem : name ∈ names) : name ∈ columns.names := by
  obtain ⟨-, ordered, places, -, -, -, hnames⟩ := h
  obtain ⟨i, -, hplace⟩ := exists_place hnames hmem
  exact List.mem_of_getElem? hplace

theorem PairsKeys.nodup_names (h : PairsKeys e described keys columns names) : names.Nodup := by
  obtain ⟨-, ordered, places, -, hplaces, hrows, hnames⟩ := h
  clear hrows
  induction hnames with
  | nil => exact List.nodup_nil
  | cons hname hrest ih =>
    rw [List.nodup_cons] at hplaces ⊢
    refine ⟨fun hmem => ?_, ih hplaces.2⟩
    -- no name of a column stands at two places
    obtain ⟨j, hj, hplace⟩ := exists_place hrest hmem
    have hlt := (List.getElem?_eq_some_iff.mp hname).1
    have hsame := (List.getElem?_inj hlt columns.nodup_names).mp (hname.trans hplace.symm)
    exact hplaces.1 (hsame ▸ hj)

theorem PairsKeys.bare_of_teradata (h : PairsKeys .teradata described keys columns names) :
    ∀ name ∈ names, Bare name.toList := by
  intro name hname
  obtain ⟨c, hc, rfl⟩ := List.mem_map.mp (h.mem_names hname)
  obtain ⟨decoded, hdecoded, hcolumns⟩ := bind_eq_ok_iff.mp h.decoded
  obtain rfl := Columns.ofList_eq_ok_iff.mp hcolumns
  obtain ⟨row, -, hrow⟩ := exists_of_mem_mapM hdecoded hc
  exact bare_name_of_teradataColumn hrow

theorem map_trim_eq_iff : names.map trim = names ↔ ∀ name ∈ names, Bare name.toList := by
  have hid : names.map trim = names ↔ names.map trim = names.map id := by rw [List.map_id]
  rw [hid, List.map_inj_left]
  constructor
  · intro h name hname
    have hname' : trim name = name := h name hname
    exact hname' ▸ bare_trim name
  · intro h name hname
    exact trim_of_bare (h name hname)

/-- Whether a table is temporary is read without a fault of a definition. -/
theorem isTemporary_ne_definition (e : Engine) (table : String) (rows : List Record)
    (fault : DefinitionFault) : isTemporary e table rows ≠ .error (.definition fault) := by
  cases e with
  | redshift => exact fun h => by cases h
  | snowflake => exact fun h => by cases h
  | teradata =>
    unfold isTemporary
    induction rows with
    | nil => exact fun h => by cases h
    | cons row rows ih =>
      rw [isTemporary.anyNamed]
      intro h
      rcases bind_eq_error_iff.mp h with h | ⟨name, -, h⟩
      · generalize (row.getAnyCase "Table Name" (.text "")).display = shown at h
        cases shown with
        | ok s => cases h
        | error unwritten => cases unwritten <;> cases h
      · split at h
        · cases h
        · exact ih h

end Reflection

open Reflection

namespace TableReference

section
variable {t : TableReference} {b : Backend} {j : Journal} {described keys : List Record}

def sql (t : TableReference) (query : String → String → CatalogQuery) : String :=
  (query t.schema t.table).render t.engine

/-- The reflected table, by what the answers say. -/
theorem run_definition {columns : Columns} {names : List String}
    (hdescribed : b.answer (j.statements ++ [t.sql .temporary]) (t.sql .columns) = .ok described)
    (hkeys : b.answer (j.statements ++ [t.sql .temporary, t.sql .columns]) (t.sql .keys) = .ok keys)
    (hcolumns : describedColumns t.engine described = .ok columns)
    (hnames : Reflection.keyNames t.engine keys = .ok names) :
    (t.definition.run b j).1 = (do
      let temporary ← b.read j.statements (t.sql .temporary) (Reflection.isTemporary t.engine t.table)
      Table.make t.schema t.table temporary columns names) := by
  have htemporary : Session.Asks t.isTemporary b j.statements j.files [t.sql .temporary]
      (b.read j.statements (t.sql .temporary) (Reflection.isTemporary t.engine t.table)) j.files :=
    Session.asks_read _ _
  have hask : Session.Asks t.columns b (j.statements ++ [t.sql .temporary]) j.files [t.sql .columns]
      (.ok columns) j.files := by
    rw [← hcolumns, ← Backend.read_of_answer hdescribed (describedColumns t.engine)]
    exact Session.asks_read _ _
  have hask' : Session.Asks t.keyNames b (j.statements ++ [t.sql .temporary] ++ [t.sql .columns])
      j.files [t.sql .keys] (.ok names) j.files := by
    rw [List.append_assoc, List.singleton_append, ← hnames,
      ← Backend.read_of_answer hkeys (Reflection.keyNames t.engine)]
    exact Session.asks_read _ _
  cases hread : b.read j.statements (t.sql .temporary) (Reflection.isTemporary t.engine t.table) with
  | error fault =>
    have hstops : Session.Asks t.definition b j.statements j.files [t.sql .temporary] (.error fault)
        j.files := by
      refine (Session.asks_note _ _ _).after_quiet ?_
      exact (hread ▸ htemporary).bind_error
    obtain ⟨j', hrun, -⟩ := hstops j rfl rfl
    exact congrArg Prod.fst hrun
  | ok temporary =>
    have hends : Session.Asks t.definition b j.statements j.files
        ([t.sql .temporary] ++ ([t.sql .columns] ++ ([t.sql .keys] ++ [])))
        (Table.make t.schema t.table temporary columns names) j.files := by
      refine (Session.asks_note _ _ _).after_quiet ?_
      refine Session.Asks.bind (hread ▸ htemporary) (hask.bind (hask'.bind ?_))
      exact Session.asks_ofExcept _
    obtain ⟨j', hrun, -⟩ := hends j rfl rfl
    exact congrArg Prod.fst hrun

/-- Where the rows of keys carry the names of described columns as they are, the keys are these names without
blanks around them. So they are the names of the columns, and there is no definition fault, exactly when
these names are bare, as those of Teradata always are; a key that is no column without its blanks is
refused. -/
theorem definition_of_pairsKeys {columns : Columns} {names : List String}
    (hdescribed : b.answer (j.statements ++ [t.sql .temporary]) (t.sql .columns) = .ok described)
    (hkeys : b.answer (j.statements ++ [t.sql .temporary, t.sql .columns]) (t.sql .keys) = .ok keys)
    (hpairs : PairsKeys t.engine described keys columns names) :
    (t.definition.run b j).1 = (do
      let temporary ← b.read j.statements (t.sql .temporary) (Reflection.isTemporary t.engine t.table)
      Table.make t.schema t.table temporary columns (names.map trim)) ∧
    (t.engine = .teradata → ∀ name ∈ names, Bare name.toList) ∧
    ((∀ name ∈ names, Bare name.toList) → ∀ fault,
      (t.definition.run b j).1 ≠ .error (.definition fault)) ∧
    ∀ temporary,
      b.read j.statements (t.sql .temporary) (Reflection.isTemporary t.engine t.table) = .ok temporary →
        ((∃ table, (t.definition.run b j).1 = .ok table ∧ table.columns = columns ∧
          table.keys = names) ↔ ∀ name ∈ names, Bare name.toList) ∧
        ((∃ name ∈ names, trim name ∉ columns.names) → ∃ key,
          (t.definition.run b j).1 = .error (.definition (.keyOutsideTable t.schema t.table key))) := by
  have hrun := run_definition hdescribed hkeys hpairs.decoded hpairs.keyNames_eq
  have hmake : ∀ temporary, (∀ name ∈ names, Bare name.toList) →
      ∃ table, Table.make t.schema t.table temporary columns (names.map trim) = .ok table ∧
        table.columns = columns ∧ table.keys = names := by
    intro temporary hbare
    rw [map_trim_eq_iff.mpr hbare]
    have hok := Table.make_eq_ok
      ⟨t.schema, t.table, temporary, columns, names, fun _ => hpairs.mem_names, hpairs.nodup_names⟩
    exact ⟨_, hok, rfl, rfl⟩
  refine ⟨hrun, ?_, ?_, ?_⟩
  · intro hteradata
    rw [hteradata] at hpairs
    exact hpairs.bare_of_teradata
  · intro hbare fault
    rw [hrun]
    intro h
    rcases bind_eq_error_iff.mp h with h | ⟨temporary, -, h⟩
    · unfold Backend.read at h
      split at h
      · exact isTemporary_ne_definition _ _ _ _ h
      · cases h
    · obtain ⟨table, htable, -⟩ := hmake temporary hbare
      rw [htable] at h
      cases h
  · intro temporary htemporary
    rw [hrun, htemporary, ok_bind]
    constructor
    · constructor
      · rintro ⟨table, htable, -, hnames⟩
        obtain ⟨-, -, -, -, htrimmed⟩ := Table.make_eq_ok_iff.mp htable
        exact map_trim_eq_iff.mp (htrimmed.symm.trans hnames)
      · exact hmake temporary
    · rintro ⟨name, hname, hstray⟩
      have hnot : ¬ ∀ key ∈ names.map trim, key ∈ columns.names := fun hall =>
        hstray (hall _ (List.mem_map_of_mem hname))
      obtain ⟨before, key, after, hsplit, hbefore, hkey⟩ := Table.exists_stray hnot
      exact ⟨key, Table.make_of_stray hsplit hbefore hkey⟩

end

open Snowflake in
/-- The keys of a Snowflake table come in the order of their numbers, which is not that of the columns. -/
theorem pairsKeys_orderLines : PairsKeys .snowflake orderLinesDescription orderLinesKeys
    orderLines.columns ["line", "order"] := by
  refine ⟨describedColumns_eq_ok describes_orderLines readable_orderLines, ?_⟩
  refine ⟨orderLinesKeys.reverse, [1, 0], ⟨(List.reverse_perm _).symm, [1, 2], rfl, by simp⟩,
    by simp, ?_, ?_⟩
  · exact .cons ⟨_, rfl, rfl⟩ (.cons ⟨_, rfl, rfl⟩ .nil)
  · exact .cons rfl (.cons rfl .nil)

open Snowflake in
theorem definition_orderLines :
    PairsKeys .snowflake orderLinesDescription orderLinesKeys orderLines.columns
      ["line", "order"] ∧
    ∃ table, ((⟨.snowflake, orderLines.schema, orderLines.name⟩ : TableReference).definition.run
        orderLinesBackend (Journal.start ⟨[], []⟩)).1 = .ok table ∧
      table.columns = orderLines.columns ∧ table.keys = ["line", "order"] := by
  obtain ⟨hcolumns, hkeys, htemporary⟩ := orderLinesRows_eq
  obtain ⟨_, _, _, hkept⟩ := definition_of_pairsKeys
    (t := ⟨.snowflake, orderLines.schema, orderLines.name⟩) (b := orderLinesBackend)
    (j := Journal.start ⟨[], []⟩) (congrArg Except.ok hcolumns) (congrArg Except.ok hkeys)
    pairsKeys_orderLines
  have hlisted : orderLinesBackend.read []
      ((CatalogQuery.temporary orderLines.schema orderLines.name).render .snowflake)
      (Reflection.isTemporary .snowflake orderLines.name) = .ok true :=
    (Backend.read_of_answer (congrArg Except.ok htemporary) _).trans rfl
  exact ⟨pairsKeys_orderLines, (hkept true hlisted).1.mpr bare_orderLines⟩

def columnRow (name : String) : Record :=
  [("column_name", .text name), ("data_type", .text "INTEGER"), ("character_maximum_length", .null),
   ("numeric_precision", .int 32), ("is_nullable", .text "YES"), ("column_default", .null),
   ("encoding", .null)]

def keyRow (name : String) : Record := [("column_name", .text name)]

/-- A catalog with one column, which is the key; its name stands in both answers as it is. -/
def oneKey (name : String) : Backend :=
  ⟨fun earlier _ => .ok <|
    match earlier.length with
    | 0 => []
    | 1 => [columnRow name]
    | _ => [keyRow name]⟩

def oneColumn (name : String) (hne : name ≠ "") : Columns :=
  ⟨[⟨name, ⟨.redshift, "INTEGER", none, true, none, none⟩, hne⟩], by simp⟩

theorem pairsKeys_oneKey (name : String) (hne : name ≠ "") :
    PairsKeys .redshift [columnRow name] [keyRow name] (oneColumn name hne) [name] := by
  have hcolumn : Column.ofRow .redshift (columnRow name) =
      .ok ⟨name, ⟨.redshift, "INTEGER", none, true, none, none⟩, hne⟩ := by
    have htype : ShownType (columnRow name) (.text (upper (squeeze "INTEGER"))) :=
      .shown (fun h => by cases h) rfl
    have hupper : upper (squeeze "INTEGER") = "INTEGER" := by decide +kernel
    rw [hupper] at htype
    have hmake : Definition.make .redshift (.text "INTEGER") [("length", .null),
        ("nullable", .bool true), ("default", .null), ("compression", .null)] =
          .ok ⟨.redshift, "INTEGER", none, true, none, none⟩ := rfl
    rw [ofRow_of_describes (.redshift htype rfl rfl)]
    exact bind_eq_ok_iff.mpr ⟨_, hmake, Column.make_eq_ok_iff.mpr ⟨rfl, rfl, rfl⟩⟩
  constructor
  · refine bind_eq_ok_iff.mpr ⟨[_], mapM_eq_ok_iff.mpr (.cons hcolumn .nil), ?_⟩
    exact Columns.ofList_eq_ok_iff.mpr rfl
  · refine ⟨_, [0], rfl, by simp, ?_, ?_⟩
    · exact .cons ⟨_, rfl, rfl⟩ .nil
    · exact .cons rfl .nil

/-- A key whose name begins with a blank is no column of the reflected table. -/
theorem definition_oneKey_padded :
    PairsKeys .redshift [columnRow " id"] [keyRow " id"] (oneColumn " id" (by decide)) [" id"] ∧
    ((⟨.redshift, "crm", "orders"⟩ : TableReference).definition.run (oneKey " id")
      (Journal.start ⟨[], []⟩)).1 =
        .error (.definition (.keyOutsideTable "crm" "orders" "id")) := by
  have hpairs := pairsKeys_oneKey " id" (by decide)
  have htemporary : (oneKey " id").read [] (sql ⟨.redshift, "crm", "orders"⟩ .temporary)
      (Reflection.isTemporary .redshift "orders") = .ok false := rfl
  have htrim : [" id"].map trim = [] ++ "id" :: [] := by
    rw [List.map_singleton, List.nil_append]
    decide +kernel
  refine ⟨hpairs, ?_⟩
  rw [run_definition (t := ⟨.redshift, "crm", "orders"⟩) (j := Journal.start ⟨[], []⟩)
    (b := oneKey " id") rfl rfl hpairs.decoded hpairs.keyNames_eq]
  refine bind_eq_error_iff.mpr (.inr ⟨false, htemporary, ?_⟩)
  exact Table.make_of_stray htrim (by simp) (by decide)

end TableReference

end WarehouseSchema
