import WarehouseSchema.Fault

/-!
Values as collections: the items of a value, and the entries of a value that is a map or lists pairs
of keys and values.
-/

namespace WarehouseSchema

namespace Value

mutual

def canBeKey : Value → Bool
  | .list _ | .map _ | .set _ => false
  | .tuple items => canBeKeys items
  | _ => true

def canBeKeys : List Value → Bool
  | [] => true
  | v :: vs => canBeKey v && canBeKeys vs

end

/-- The items of a collection: the keys of a map, the characters of a text, the octets of octets. -/
def items : Value → Except Fault (List Value)
  | .list items | .tuple items | .set items => .ok items
  | .map entries => .ok (entries.map (·.1))
  | .text s => .ok (s.toList.map fun c => .text (String.ofList [c]))
  | .octets bytes => .ok (bytes.map fun b => .int (b.toNat : Int))
  | _ => .error .wrongType

/-- The entries that pairs make, the first pair having this index. -/
def entriesOfPairs (index : Nat) (entries : List (Value × Value)) :
    List Value → Except Fault (List (Value × Value))
  | [] => .ok entries
  | pair :: rest => do
    match ← pair.items with
    | [key, v] =>
      if key.canBeKey then entriesOfPairs (index + 1) (putEntry entries key v) rest
      else .error .wrongType
    | parts => .error (.notPair index parts.length)

/-- The entries of a map, or those that the pairs of another collection make. -/
def entries : Value → Except Fault (List (Value × Value))
  | .map entries => .ok entries
  | v => do entriesOfPairs 0 [] (← v.items)

end Value

end WarehouseSchema
