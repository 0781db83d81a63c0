import WarehouseSchema.Datatype.Basetype
import WarehouseSchema.Datatype.Engine
import WarehouseSchema.Datatype.Length

/-!
What each warehouse offers: its type names with their length rules and base types, its options and
its compression codecs. Everything that differs between warehouses in a column type is in these
tables.
-/

namespace WarehouseSchema

/-- A family of type names of a warehouse that share length rule and base type. -/
structure TypeFamily where
  names : List String
  rule : LengthRule
  basetype : Basetype

namespace Engine

def families : Engine → List TypeFamily
  | redshift =>
    [⟨["SMALLINT", "INT2", "INTEGER", "INT", "INT4", "BIGINT", "INT8"], .none, .integer⟩,
     ⟨["DECIMAL", "NUMERIC"], .numeric 37, .numeric⟩,
     ⟨["REAL", "FLOAT4", "DOUBLE PRECISION", "FLOAT8", "FLOAT"], .none, .float⟩,
     ⟨["BOOLEAN", "BOOL"], .none, .boolean⟩,
     ⟨["CHAR", "CHARACTER", "NCHAR", "BPCHAR"], .integer 1 4096, .string⟩,
     ⟨["VARCHAR", "CHARACTER VARYING", "NVARCHAR", "TEXT"], .integer 1 65535, .string⟩,
     ⟨["DATE"], .none, .date⟩,
     ⟨["TIMESTAMP", "TIMESTAMP WITHOUT TIME ZONE", "TIMESTAMPTZ", "TIMESTAMP WITH TIME ZONE"],
       .integer 0 9, .timestamp⟩]
  | snowflake =>
    [⟨["NUMBER", "DECIMAL", "NUMERIC"], .numeric 38, .numeric⟩,
     ⟨["INT", "INTEGER", "BIGINT", "SMALLINT", "TINYINT", "BYTEINT"], .none, .integer⟩,
     ⟨["FLOAT", "FLOAT4", "FLOAT8", "DOUBLE", "DOUBLE PRECISION", "REAL"], .none, .float⟩,
     ⟨["VARCHAR", "CHAR", "CHARACTER", "STRING", "TEXT"], .integer 1 16777216, .string⟩,
     ⟨["BOOLEAN"], .none, .boolean⟩,
     ⟨["DATE"], .none, .date⟩,
     ⟨["TIME"], .integer 0 9, .string⟩,
     ⟨["DATETIME", "TIMESTAMP", "TIMESTAMP_NTZ", "TIMESTAMP_LTZ", "TIMESTAMP_TZ"],
       .integer 0 9, .timestamp⟩,
     ⟨["BINARY", "VARBINARY"], .integer 1 8388608, .string⟩,
     ⟨["VARIANT", "OBJECT", "ARRAY", "GEOGRAPHY"], .none, .string⟩]
  | teradata =>
    [⟨["BYTEINT", "SMALLINT", "INTEGER", "INT", "BIGINT"], .none, .integer⟩,
     ⟨["DECIMAL", "DEC", "NUMERIC", "NUMBER"], .numeric 38, .numeric⟩,
     ⟨["FLOAT", "REAL", "DOUBLE PRECISION"], .none, .float⟩,
     ⟨["CHAR", "CHARACTER", "VARCHAR", "CHARACTER VARYING", "CHAR VARYING"],
       .integer 1 64000, .string⟩,
     ⟨["LONG VARCHAR"], .none, .string⟩,
     ⟨["BYTE", "VARBYTE"], .integer 1 64000, .string⟩,
     ⟨["BLOB", "BINARY LARGE OBJECT", "CLOB", "CHARACTER LARGE OBJECT"],
       .integer 1 2097088000, .string⟩,
     ⟨["DATE"], .none, .date⟩,
     ⟨["TIME", "TIME WITH TIME ZONE"], .integer 0 6, .string⟩,
     ⟨["TIMESTAMP", "TIMESTAMP WITH TIME ZONE"], .integer 0 6, .timestamp⟩,
     ⟨["JSON", "XML"], .none, .string⟩]

def family? (e : Engine) (type : String) : Option TypeFamily :=
  e.families.find? fun f => f.names.contains type

def types (e : Engine) : List String := e.families.flatMap (·.names)

/-- The length rule of a type; a type of another warehouse takes no length. -/
def lengthRule (e : Engine) (type : String) : LengthRule :=
  ((e.family? type).map (·.rule)).getD .none

def basetype (e : Engine) (type : String) : Basetype :=
  ((e.family? type).map (·.basetype)).getD .string

def hasCompression (e : Engine) : Bool := e.options.contains "compression"

/-- The compression codecs of a warehouse, each with the base types that it may be applied to. -/
def codecs : Engine → List (String × List Basetype)
  | redshift =>
    let numbersAndTime := [Basetype.integer, .numeric, .date, .timestamp]
    let numbers := [Basetype.integer, .numeric]
    [("RAW", Basetype.all), ("RUNLENGTH", Basetype.all), ("ZSTD", Basetype.all),
     ("BYTEDICT", Basetype.all.filter (· != .boolean)),
     ("LZO", Basetype.all.filter fun b => b != .boolean && b != .float),
     ("AZ64", numbersAndTime), ("DELTA", numbersAndTime), ("DELTA32K", numbersAndTime),
     ("MOSTLY8", numbers), ("MOSTLY16", numbers), ("MOSTLY32", numbers),
     ("TEXT255", [.string]), ("TEXT32K", [.string])]
  | snowflake | teradata => []

/-- The type that stands for a base type when nothing else is known. -/
def typeOf : Engine → Basetype → String
  | redshift, .integer => "BIGINT"
  | redshift, .numeric => "NUMERIC"
  | redshift, .float => "DOUBLE PRECISION"
  | redshift, .boolean => "BOOLEAN"
  | redshift, .timestamp => "TIMESTAMP"
  | snowflake, .integer => "INTEGER"
  | snowflake, .numeric => "NUMBER"
  | snowflake, .float => "FLOAT"
  | snowflake, .boolean => "BOOLEAN"
  | snowflake, .timestamp => "TIMESTAMP_NTZ"
  | teradata, .integer => "BIGINT"
  | teradata, .numeric => "DECIMAL"
  | teradata, .float => "FLOAT"
  | teradata, .boolean => "BYTEINT"
  | teradata, .timestamp => "TIMESTAMP"
  | _, .date => "DATE"
  | _, .string => "VARCHAR"

/-- Whether the lengths of text types count octets of UTF-8 rather than characters. -/
def countsOctets : Engine → Bool
  | redshift => true
  | snowflake | teradata => false

/-- The length of a column about whose type nothing is known. -/
def genericLength? : Engine → Option String
  | redshift => some "65535"
  | snowflake => none
  | teradata => some "32000"

theorem typeOf_mem_types (e : Engine) (b : Basetype) : e.typeOf b ∈ e.types := by
  cases e <;> cases b <;> decide

end Engine

end WarehouseSchema
