/-!
Powers of two and of ten, and the sizes of machine words.
-/

namespace WarehouseSchema.Number

def twoTo (n : Nat) : Nat := Nat.pow 2 n

def tenTo (n : Nat) : Nat := Nat.pow 10 n

theorem twoTo_pos (n : Nat) : 0 < twoTo n := Nat.pow_pos (by decide)

theorem tenTo_pos (n : Nat) : 0 < tenTo n := Nat.pow_pos (by decide)

theorem twoTo_succ (n : Nat) : twoTo (n + 1) = twoTo n * 2 := rfl

/-- The least natural number that a signed word of 32 bits does not hold. -/
def halfWord : Nat := 2147483648

/-- The least natural number that a signed word of 64 bits does not hold. -/
def word : Nat := 9223372036854775808

/-- The greatest natural number of an unsigned word of 64 bits. -/
def greatestUnsigned : Nat := 18446744073709551615

end WarehouseSchema.Number
