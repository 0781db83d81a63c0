import WarehouseSchema.Quoting
import WarehouseSchema.Table

/-!
Statements that create, rename, empty and drop tables. A `Statement` says what is asked for,
`Statement.render` writes it in the dialect of a warehouse, and `Statement.create` checks that a
warehouse can write what is asked for.
-/

namespace WarehouseSchema

inductive Statement where
  | create (schema table : String) (temporary : Bool) (columns : List Column) (keys : List String)
  | rename (schema old new : String)
  | truncate (schema table : String)
  | drop (schema table : String)
  deriving DecidableEq, Repr

/-- The clause of a column: quoted name, type, default, compression and whether nulls are
refused. -/
def Column.clause (c : Column) : String :=
  let d := c.definition
  quoteIdentifier c.name ++ " " ++ d.typeSql ++
    (match d.default with
     | none => ""
     | some default => " DEFAULT " ++ default) ++
    d.compressionSql ++ (if d.nullable then "" else " NOT NULL")

namespace Statement

/-- What stands before the parentheses of a CREATE. Redshift keeps temporary tables in a schema of
the session, so that they are not qualified there. -/
def createHead (e : Engine) (schema table : String) (temporary : Bool) : String :=
  match e, temporary with
  | .redshift, true => "CREATE TEMPORARY TABLE " ++ quoteIdentifier table
  | .redshift, false | .snowflake, false => "CREATE TABLE " ++ quoteQualified schema table
  | .snowflake, true => "CREATE TEMPORARY TABLE " ++ quoteQualified schema table
  | .teradata, true => "CREATE MULTISET VOLATILE TABLE " ++ quoteQualified schema table ++ ", NO LOG"
  | .teradata, false => "CREATE MULTISET TABLE " ++ quoteQualified schema table ++ ", FALLBACK"

/-- What stands behind the parentheses of a CREATE. -/
def createTail (e : Engine) (temporary : Bool) : String :=
  match e, temporary with
  | .teradata, true => "\nON COMMIT PRESERVE ROWS;"
  | _, _ => ";"

/-- The items in the parentheses of a CREATE: one clause per column, then the keys if there are
any. -/
def createItems (columns : List Column) (keys : List String) : List String :=
  columns.map Column.clause ++
    if keys.isEmpty then [] else ["PRIMARY KEY (" ++ quoteIdentifiers keys ++ ")"]

/-- The text of a statement in the dialect of a warehouse. -/
def render (e : Engine) : Statement → String
  | create schema table temporary columns keys =>
    createHead e schema table temporary ++ "\n(\n" ++
      ",\n".intercalate (createItems columns keys) ++ "\n)" ++ createTail e temporary
  | rename schema old new =>
    match e with
    | .redshift =>
      "ALTER TABLE " ++ quoteQualified schema old ++ " RENAME TO " ++ quoteIdentifier new
    | .snowflake =>
      "ALTER TABLE " ++ quoteQualified schema old ++ " RENAME TO " ++ quoteQualified schema new
    | .teradata =>
      "RENAME TABLE " ++ quoteQualified schema old ++ " TO " ++ quoteQualified schema new
  | truncate schema table =>
    match e with
    | .teradata => "DELETE FROM " ++ quoteQualified schema table ++ " ALL"
    | .redshift | .snowflake => "TRUNCATE TABLE " ++ quoteQualified schema table
  | drop schema table => "DROP TABLE " ++ quoteQualified schema table

def check (e : Engine) (columns : Columns) (keys : List String) : Except Fault Unit :=
  if columns.toList.isEmpty then DefinitionFault.noColumns.raise
  else
    match columns.toList.find? fun c => c.engine != e with
    | some c => (DefinitionFault.foreignColumn e c.engine c.name).raise
    | none =>
      match keys.find? fun key => !columns.contains key with
      | some key => (DefinitionFault.keyOutsideColumns key).raise
      | none => .ok ()

/-- The text of a CREATE for these parts, if the warehouse can write it. -/
def createSql (e : Engine) (schema table : String) (columns : Columns) (keys : List String)
    (temporary : Bool) : Except Fault String := do
  check e columns keys
  return (create schema table temporary columns.toList keys).render e

end Statement

def Table.createSql (e : Engine) (t : Table) (withKeys : Bool) : Except Fault String :=
  Statement.createSql e t.schema t.name t.columns (if withKeys then t.keys else []) t.temporary

def Table.renameSql (e : Engine) (t : Table) (new : String) : String :=
  (Statement.rename t.schema t.name new).render e

def Table.truncateSql (e : Engine) (t : Table) : String :=
  (Statement.truncate t.schema t.name).render e

def Table.dropSql (e : Engine) (t : Table) : String := (Statement.drop t.schema t.name).render e

end WarehouseSchema
