import WarehouseSchema.Value

/-!
Plain data: what is written to documents. Plain data is a value, and its items and entries are values.
-/

namespace WarehouseSchema

open Number

/-- Data without dates, octets, tuples and sets, whose keys are texts. -/
inductive Plain where
  | null
  | bool (b : Bool)
  | int (n : Int)
  | float (x : Binary64)
  | text (s : String)
  | list (items : List Plain)
  | map (entries : List (String × Plain))
  deriving Inhabited

namespace Plain

def ofOption : Option String → Plain
  | none => null
  | some s => text s

mutual

def toValue : Plain → Value
  | null => .null
  | bool b => .bool b
  | int n => .int n
  | float x => .float x
  | text s => .text s
  | list items => .list (toValues items)
  | map entries => .map (toEntries entries)

def toValues : List Plain → List Value
  | [] => []
  | p :: rest => toValue p :: toValues rest

def toEntries : List (String × Plain) → List (Value × Value)
  | [] => []
  | (key, p) :: rest => (.text key, toValue p) :: toEntries rest

end

theorem toValues_eq_map (ps : List Plain) : toValues ps = ps.map toValue := by
  induction ps with
  | nil => rfl
  | cons p ps ih => rw [toValues, ih, List.map_cons]

theorem toEntries_eq_map (es : List (String × Plain)) :
    toEntries es = es.map fun e => (.text e.1, e.2.toValue) := by
  induction es with
  | nil => rfl
  | cons e es ih => rw [toEntries, ih, List.map_cons]

end Plain

end WarehouseSchema
