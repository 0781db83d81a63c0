/-!
The supported warehouses.
-/

namespace WarehouseSchema

inductive Engine where
  | redshift
  | snowflake
  | teradata
  deriving DecidableEq, Repr, Inhabited

namespace Engine

/-- All warehouses, in the order of their names. -/
def all : List Engine := [redshift, snowflake, teradata]

theorem mem_all (e : Engine) : e ∈ all := by cases e <;> decide

def name : Engine → String
  | redshift => "redshift"
  | snowflake => "snowflake"
  | teradata => "teradata"

def title : Engine → String
  | redshift => "Redshift"
  | snowflake => "Snowflake"
  | teradata => "Teradata"

def columnTitle (e : Engine) : String := e.title ++ "Column"

/-- What the statement generator of a warehouse is called. -/
def generatorTitle (e : Engine) : String := e.title ++ "DDLGenerator"

def connectionTitle : Engine → String
  | snowflake => "SnowflakeConnection"
  | redshift | teradata => "SQLAlchemyConnection"

def schemaReflectionTitle (e : Engine) : String := e.title ++ "SchemaReflection"

def tableReflectionTitle (e : Engine) : String := e.title ++ "TableReflection"

/-- The options of a column type, in the order of their names. -/
def options : Engine → List String
  | redshift => ["compression", "default", "length", "nullable"]
  | snowflake | teradata => ["default", "length", "nullable"]

end Engine

end WarehouseSchema
