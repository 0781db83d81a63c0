/-!
Decimal digits: the ASCII ones, and those of every script that writes numbers in base ten.
-/

namespace WarehouseSchema.Text

/-- The code points of the zeros of the decimal digit rows (Unicode 14); the nine other digits of a
row follow its zero. -/
def decimalZeros : List Nat := [
  48, 1632, 1776, 1984, 2406, 2534, 2662, 2790, 2918, 3046, 3174, 3302, 3430, 3558, 3664, 3792,
  3872, 4160, 4240, 6112, 6160, 6470, 6608, 6784, 6800, 6992, 7088, 7232, 7248, 42528, 43216,
  43264, 43472, 43504, 43600, 44016, 65296, 66720, 68912, 69734, 69872, 69942, 70096, 70384, 70736,
  70864, 71248, 71360, 71472, 71904, 72016, 72784, 73040, 73120, 92768, 92864, 93008, 120782,
  120792, 120802, 120812, 120822, 123200, 123632, 125264, 130032]

/-- The value of a decimal digit of any script. -/
def decimalValue? (c : Char) : Option Nat :=
  let n := c.toNat
  (decimalZeros.find? fun z => z ≤ n && n ≤ z + 9).map (n - ·)

def isDigit (c : Char) : Bool := '0' ≤ c && c ≤ '9'

def digitValue (c : Char) : Nat := c.toNat - 48

/-- The number that a run of ASCII digits writes in base ten. -/
def digitsValue (cs : List Char) : Nat := cs.foldl (fun n c => 10 * n + digitValue c) 0

def digitChar (n : Nat) : Char := Char.ofNat (48 + n)

def natText (n : Nat) : String := toString n

/-- The base-ten text of an integer, with a minus sign before a negative one. -/
def intText : Int → String
  | .ofNat n => natText n
  | .negSucc n => "-" ++ natText (n + 1)

/-- The number with zeros before it up to `width` digits. -/
def paddedNat (width n : Nat) : String :=
  let s := natText n
  String.ofList (List.replicate (width - s.length) '0') ++ s

end WarehouseSchema.Text
