import WarehouseSchema.Proofs.Statement.Parentheses
import WarehouseSchema.Proofs.Table.Acceptance

/-!
The CREATE of a table. A CREATE is written from its parts or from a table that is made of them first, and
only the table refuses keys that are repeated. Main statements: the two ways give the same text unless keys
are repeated; and every table that was read from a document has a CREATE in its own warehouse and in no other,
with its columns and its keys between the parentheses.
-/

namespace WarehouseSchema

namespace Table

section
variable {e : Engine} {schema name : String} {temporary : Bool} {columns : Columns} {keys : List String}

theorem definite_make : Definite (make schema name temporary columns keys) := by
  cases hmade : make schema name temporary columns keys with
  | ok t => exact .ok t
  | error fault =>
    rcases make_eq_error_iff.mp hmade with ⟨_, _, _, _, _, _, rfl⟩ | ⟨_, _, rfl⟩
    · exact .inr ⟨_, rfl⟩
    · exact .inr ⟨_, rfl⟩

def createSqlOf (e : Engine) (schema name : String) (temporary : Bool) (columns : Columns)
    (keys : List String) : Except Fault String := do
  (← make schema name temporary columns keys).createSql e true

theorem createSqlOf_eq_ok_iff {sql : String} :
    createSqlOf e schema name temporary columns keys = .ok sql ↔
      Statement.createSql e schema name columns keys temporary = .ok sql ∧ keys.Nodup := by
  unfold createSqlOf
  simp only [bind_eq_ok_iff, make_eq_ok_iff]
  constructor
  · rintro ⟨t, ⟨rfl, rfl, rfl, rfl, rfl⟩, hsql⟩
    exact ⟨hsql, t.keys_nodup⟩
  · rintro ⟨hsql, hnodup⟩
    have hkeys := (Statement.createSql_eq_ok_iff.mp hsql).1.keys_mem
    exact ⟨⟨schema, name, temporary, columns, keys, hkeys, hnodup⟩, ⟨rfl, rfl, rfl, rfl, rfl⟩, hsql⟩

end

/-- The two ways to a CREATE give the same text when no key is repeated. A repeated key is written when there
is no table in between, and otherwise refused; whatever else is refused is refused on both ways, with a
definition fault. -/
theorem createSqlOf_agrees (e : Engine) (schema name : String) (temporary : Bool) (columns : Columns)
    (keys : List String) :
    (∀ sql, createSqlOf e schema name temporary columns keys = .ok sql ↔
        Statement.createSql e schema name columns keys temporary = .ok sql ∧ keys.Nodup) ∧
      (∀ sql, Statement.createSql e schema name columns keys temporary = .ok sql → ¬ keys.Nodup →
        createSqlOf e schema name temporary columns keys =
          .error (.definition (.repeatedKey schema name keys))) ∧
      Definite (createSqlOf e schema name temporary columns keys) ∧
      Definite (Statement.createSql e schema name columns keys temporary) := by
  refine ⟨fun sql => createSqlOf_eq_ok_iff, ?_, ?_, Statement.definite_createSql⟩
  · intro sql hsql hrepeated
    have hkeys := (Statement.createSql_eq_ok_iff.mp hsql).1.keys_mem
    rw [createSqlOf, make_of_repeated hkeys hrepeated]
    rfl
  · exact definite_make.bind fun t _ => Statement.definite_createSql

/-- Without a table in between, a key that is named twice is written twice. -/
theorem createSql_repeatedKey :
    let columns : Columns := ⟨[⟨"number", ⟨.redshift, "INT", none, true, none, none⟩, by decide⟩], by decide⟩
    Statement.createSql .redshift "crm" "orders" columns ["number", "number"] false =
        .ok "CREATE TABLE \"crm\".\"orders\"\n(\n\"number\" INT,\nPRIMARY KEY (\"number\",\"number\")\n);" ∧
      createSqlOf .redshift "crm" "orders" false columns ["number", "number"] =
        .error (.definition (.repeatedKey "crm" "orders" ["number", "number"])) := by
  intro columns
  have hsql : Statement.createSql .redshift "crm" "orders" columns ["number", "number"] false =
      .ok "CREATE TABLE \"crm\".\"orders\"\n(\n\"number\" INT,\nPRIMARY KEY (\"number\",\"number\")\n);" :=
    eq_ok_of_toOption (by decide +kernel)
  exact ⟨hsql, rfl⟩

def createItems (t : Table) (withKeys : Bool) : List String :=
  t.columns.toList.map Column.clause ++
    if withKeys ∧ t.keys ≠ [] then
      ["PRIMARY KEY (" ++ ",".intercalate (t.keys.map quoteIdentifier) ++ ")"]
    else []

theorem createItems_eq (t : Table) (withKeys : Bool) : t.createItems withKeys =
    Statement.createItems t.columns.toList (if withKeys then t.keys else []) := by
  unfold createItems Statement.createItems
  cases withKeys with
  | false => simp
  | true =>
    cases t.keys with
    | nil => simp
    | cons key keys => rfl

/-- A table that was read for a warehouse has a CREATE there and nowhere else: elsewhere its first column is
refused. Between the parentheses of the CREATE stand the clauses of the columns, in their order, and behind
them the keys when they are asked for and there are any. -/
theorem ofValue_created {e : Engine} {v : Value} {t : Table} (h : ofValue e v = .ok t) (g : Engine)
    (withKeys : Bool) :
    ((∃ sql, t.createSql g withKeys = .ok sql) ↔ e = g) ∧
      (e ≠ g → ∃ fault, t.createSql g withKeys = .error (.definition fault) ∧ fault.category = .column ∧
        ∃ c ∈ t.columns.toList.head?, fault = .foreignColumn g e c.name) ∧
      ∀ sql, t.createSql g withKeys = .ok sql →
        Statement.parenthesized? sql = some (",\n".intercalate (t.createItems withKeys)) := by
  have hcreatable : t.Creatable e := creatable_of_ofValue h
  have hforeign : e ≠ g → ∃ c ∈ t.columns.toList.head?,
      t.createSql g withKeys = .error (.definition (.foreignColumn g e c.name)) :=
    hcreatable.createSql_of_ne
  have hsame : ∀ sql, t.createSql g withKeys = .ok sql → e = g := by
    intro sql hsql
    by_contra hne
    obtain ⟨c, _, hrefused⟩ := hforeign hne
    rw [hrefused] at hsql
    exact absurd hsql (by simp)
  refine ⟨⟨fun ⟨sql, hsql⟩ => hsame sql hsql, ?_⟩, ?_, ?_⟩
  · rintro rfl
    exact ⟨_, hcreatable.createSql_eq_ok_iff.mpr rfl⟩
  · intro hne
    obtain ⟨c, hc, hrefused⟩ := hforeign hne
    exact ⟨_, hrefused, rfl, c, hc, rfl⟩
  · intro sql hsql
    obtain rfl := hsame sql hsql
    rw [← hcreatable.createSql_eq_ok_iff.mp hsql, Statement.parenthesized?_create, createItems_eq]

/-- Quotes and parentheses at the ends of lines in the names, and in a default. -/
def bracketedDocument : Value :=
  .map [(.text "schema_name", .text "crm"), (.text "table_name", .text "notes\"(\n"),
    (.text "columns", .list [
      .map [(.text "name", .text "author"), (.text "type", .text "bigint"), (.text "nullable", .bool false)],
      .map [(.text "name", .text "text(\n"), (.text "type", .text "varchar"), (.text "length", .int 8),
        (.text "default", .text "'\n)'")]]),
    (.text "primary_keys", .list [.text "text(\n", .text "author"])]

def bracketedTable : Table where
  schema := "crm"
  name := "notes\"(\n"
  temporary := false
  columns := ⟨[⟨"author", ⟨.snowflake, "BIGINT", none, false, none, none⟩, by decide⟩,
    ⟨"text(\n", ⟨.snowflake, "VARCHAR", some "8", true, some "'\n)'", none⟩, by decide⟩], by decide⟩
  keys := ["text(\n", "author"]
  keys_mem := by decide
  keys_nodup := by decide

theorem ofValue_bracketedDocument : ofValue .snowflake bracketedDocument = .ok bracketedTable ∧
    (∃ sql, bracketedTable.createSql .snowflake true = .ok sql ∧ Statement.parenthesized? sql =
      some ("\"author\" BIGINT NOT NULL,\n\"text(\n\" VARCHAR(8) DEFAULT '\n)',\n" ++
        "PRIMARY KEY (\"text(\n\",\"author\")")) ∧
    ¬ ∃ sql, bracketedTable.createSql .redshift false = .ok sql := by
  have hread : ofValue .snowflake bracketedDocument = .ok bracketedTable :=
    eq_ok_of_toOption (by decide +kernel)
  have hitems : ",\n".intercalate (bracketedTable.createItems true) =
      "\"author\" BIGINT NOT NULL,\n\"text(\n\" VARCHAR(8) DEFAULT '\n)',\n" ++
        "PRIMARY KEY (\"text(\n\",\"author\")" := by
    decide +kernel
  obtain ⟨hown, _, hinside⟩ := ofValue_created hread .snowflake true
  obtain ⟨sql, hsql⟩ := hown.mpr rfl
  refine ⟨hread, ⟨sql, hsql, hitems ▸ hinside sql hsql⟩, ?_⟩
  rw [(ofValue_created hread .redshift false).1]
  decide

end Table

end WarehouseSchema
