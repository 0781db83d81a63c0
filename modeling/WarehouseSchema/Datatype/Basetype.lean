/-!
Base types: what a column type stores, whatever the warehouse calls it.
-/

namespace WarehouseSchema

/-- The kinds of data that column types store. -/
inductive Basetype where
  | integer
  | numeric
  | float
  | boolean
  | date
  | timestamp
  | string
  deriving DecidableEq, Repr, Inhabited

namespace Basetype

def all : List Basetype := [integer, numeric, float, boolean, date, timestamp, string]

def name : Basetype → String
  | integer => "INTEGER"
  | numeric => "NUMERIC"
  | float => "FLOAT"
  | boolean => "BOOLEAN"
  | date => "DATE"
  | timestamp => "TIMESTAMP"
  | string => "STRING"

def ofName? (s : String) : Option Basetype := all.find? fun b => b.name == s

end Basetype

end WarehouseSchema
