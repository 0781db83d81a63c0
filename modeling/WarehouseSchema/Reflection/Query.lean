import WarehouseSchema.Quoting
import WarehouseSchema.Datatype.Engine

/-!
Questions to the catalog of a warehouse. A `CatalogQuery` says what is asked about which schema or
table, and `CatalogQuery.render` writes it for a warehouse.
-/

namespace WarehouseSchema

/-- A question about a schema or a table. -/
inductive CatalogQuery where
  | schema (schema : String)
  | tables (schema : String)
  | views (schema : String)
  | columns (schema table : String)
  | keys (schema table : String)
  | rowCount (schema table : String)
  | temporary (schema table : String)
  deriving DecidableEq, Repr

namespace CatalogQuery

def countField : Engine → String
  | .redshift | .snowflake => "count"
  | .teradata => "NumberOfRows"

def redshiftTables (schema kind : String) : String :=
  "SELECT table_name FROM information_schema.tables WHERE table_schema = " ++ quoteLiteral schema ++
    " AND table_type = " ++ quoteLiteral kind ++ " ORDER BY table_name"

def teradataTables (schema kinds : String) : String :=
  "SELECT TableName FROM DBC.TablesV WHERE TableKind IN (" ++ kinds ++ ") AND DataBaseName = " ++
    quoteLiteral schema

def render (e : Engine) : CatalogQuery → String
  | schema s =>
    match e with
    | .redshift => "SELECT nspname FROM pg_namespace WHERE nspname = " ++ quoteLiteral s
    | .snowflake => "DESC SCHEMA " ++ quoteIdentifier s
    | .teradata => "HELP DATABASE " ++ quoteIdentifier s
  | tables s =>
    match e with
    | .redshift => redshiftTables s "BASE TABLE"
    | .snowflake => "SHOW TABLES IN SCHEMA " ++ quoteIdentifier s
    | .teradata => teradataTables s "'T', 'O'"
  | views s =>
    match e with
    | .redshift => redshiftTables s "VIEW"
    | .snowflake => "SHOW VIEWS IN SCHEMA " ++ quoteIdentifier s
    | .teradata => teradataTables s "'V'"
  | columns s t =>
    match e with
    | .redshift =>
      "SELECT c.column_name, c.data_type, c.character_maximum_length, c.numeric_precision, c.numeric_scale, " ++
        "c.is_nullable, c.column_default, format_encoding(a.attencodingtype::integer) AS encoding " ++
        "FROM information_schema.columns c " ++
        "JOIN pg_namespace n ON n.nspname = c.table_schema " ++
        "JOIN pg_class t ON t.relnamespace = n.oid AND t.relname = c.table_name " ++
        "LEFT JOIN pg_attribute a ON a.attrelid = t.oid AND a.attname = c.column_name " ++
        "WHERE c.table_schema = " ++ quoteLiteral s ++ " AND c.table_name = " ++ quoteLiteral t ++
        " ORDER BY c.ordinal_position"
    | .snowflake => "DESC TABLE " ++ quoteQualified s t
    | .teradata =>
      "SELECT ColumnName, ColumnType, ColumnLength, DecimalTotalDigits, DecimalFractionalDigits, " ++
        "CharType, Nullable, DefaultValue FROM DBC.ColumnsV " ++
        "WHERE DataBaseName = " ++ quoteLiteral s ++ " AND TableName = " ++ quoteLiteral t ++
        " ORDER BY ColumnId"
  | keys s t =>
    match e with
    | .redshift =>
      "SELECT kcu.column_name FROM information_schema.table_constraints tc " ++
        "JOIN information_schema.key_column_usage kcu " ++
        "ON tc.constraint_name = kcu.constraint_name AND tc.table_schema = kcu.table_schema " ++
        "AND tc.table_name = kcu.table_name " ++
        "WHERE tc.constraint_type = 'PRIMARY KEY' AND tc.table_schema = " ++ quoteLiteral s ++
        " AND tc.table_name = " ++ quoteLiteral t ++ " ORDER BY kcu.ordinal_position"
    | .snowflake => "SHOW PRIMARY KEYS IN TABLE " ++ quoteQualified s t
    | .teradata =>
      "SELECT ColumnName FROM DBC.IndicesV " ++
        "WHERE DataBaseName = " ++ quoteLiteral s ++ " AND TableName = " ++ quoteLiteral t ++
        " AND IndexType = 'K' ORDER BY ColumnPosition"
  | rowCount s t => "SELECT COUNT(*) AS " ++ countField e ++ " FROM " ++ quoteQualified s t
  | temporary s t =>
    match e with
    | .redshift =>
      "SELECT n.nspname FROM pg_class c JOIN pg_namespace n ON n.oid = c.relnamespace " ++
        "WHERE c.relname = " ++ quoteLiteral t ++ " AND n.nspname LIKE 'pg_temp_%'"
    | .snowflake => "SHOW TABLES LIKE " ++ quoteLiteral t ++ " IN SCHEMA " ++ quoteIdentifier s
    | .teradata => "HELP VOLATILE TABLE"

end CatalogQuery

end WarehouseSchema
