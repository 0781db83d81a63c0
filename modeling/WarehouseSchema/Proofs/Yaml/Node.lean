import WarehouseSchema.Yaml.Node

/-!
Equality of nodes can be decided, level by level.
-/

namespace WarehouseSchema.Yaml.Node

mutual

def decEq : (m n : Node) → Decidable (m = n)
  | .scalar tag text, .scalar tag' text' =>
    decidable_of_iff (tag = tag' ∧ text = text') (by simp)
  | .sequence tag items, .sequence tag' items' =>
    have := decEqItems items items'
    decidable_of_iff (tag = tag' ∧ items = items') (by simp)
  | .mapping tag entries, .mapping tag' entries' =>
    have := decEqEntries entries entries'
    decidable_of_iff (tag = tag' ∧ entries = entries') (by simp)
  | .scalar _ _, .sequence _ _ | .scalar _ _, .mapping _ _ => isFalse (by simp)
  | .sequence _ _, .scalar _ _ | .sequence _ _, .mapping _ _ => isFalse (by simp)
  | .mapping _ _, .scalar _ _ | .mapping _ _, .sequence _ _ => isFalse (by simp)

def decEqItems : (ms ns : List Node) → Decidable (ms = ns)
  | [], [] => isTrue rfl
  | m :: ms, n :: ns =>
    have := decEq m n
    have := decEqItems ms ns
    decidable_of_iff (m = n ∧ ms = ns) (by simp)
  | [], _ :: _ | _ :: _, [] => isFalse (by simp)

def decEqEntries : (ms ns : List (Node × Node)) → Decidable (ms = ns)
  | [], [] => isTrue rfl
  | (key, value) :: ms, (key', value') :: ns =>
    have := decEq key key'
    have := decEq value value'
    have := decEqEntries ms ns
    decidable_of_iff ((key = key' ∧ value = value') ∧ ms = ns) (by simp)
  | [], _ :: _ | _ :: _, [] => isFalse (by simp)

end

instance : DecidableEq Node := decEq

end WarehouseSchema.Yaml.Node
