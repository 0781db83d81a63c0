import WarehouseSchema.Number.Shortest

/-!
Floating-point numbers with a chosen count of digits: with fixed places behind the point, with an
exponent, or in the shorter of the two. Halves go to the even digit.
-/

namespace WarehouseSchema.Number

open Text

/-- The exact value of a finite number without its sign. -/
def magnitude (mantissa : Nat) (exponent : Int) : Ratio := Ratio.twoPower mantissa exponent

def zeros (n : Nat) : String := String.ofList (List.replicate n '0')

/-- A point and the digits behind it; a point alone stays only if `keepPoint`. -/
def fractionText (keepPoint : Bool) (digits : String) : String :=
  if digits = "" then (if keepPoint then "." else "") else "." ++ digits

/-- The number with `places` digits behind the point. -/
def fixedText (keepPoint : Bool) (places : Nat) (value : Ratio) : String :=
  let n := roundHalfEven (value.num * tenTo places) value.den
  let ds := (paddedNat (places + 1) n).toList
  let whole := ds.take (ds.length - places)
  String.ofList whole ++ fractionText keepPoint (String.ofList (ds.drop (ds.length - places)))

/-- Exactly `count` digits of a number and the place of its point. -/
def leadingDigits (count : Nat) (value : Ratio) : Decimal :=
  if value.num = 0 then ⟨List.replicate count 0, 1⟩
  else
    let k := value.decimalPoint - count
    let n :=
      if 0 ≤ k then roundHalfEven value.num (value.den * tenTo k.toNat)
      else roundHalfEven (value.num * tenTo (-k).toNat) value.den
    let ds := digitList n
    ⟨ds.take count, k + ds.length⟩

/-- The exponent with its mark, its sign and at least two digits. -/
def exponentText (exponent : Int) : String :=
  "e" ++ (if exponent < 0 then "-" else "+") ++ paddedNat 2 exponent.natAbs

/-- A digit, `places` digits behind the point and an exponent. -/
def exponentialText (keepPoint : Bool) (places : Nat) (value : Ratio) : String :=
  let d := leadingDigits (places + 1) value
  digitsText (d.digits.take 1) ++ fractionText keepPoint (digitsText (d.digits.drop 1)) ++
    exponentText (d.point - 1)

/-- `count` significant digits: positional for exponents from -4 up to `count`, else with an
exponent; zeros at the end are dropped unless `keepZeros`. -/
def generalText (keepZeros : Bool) (count : Nat) (value : Ratio) : String :=
  let count := max 1 count
  let d := leadingDigits count value
  let exponent := d.point - 1
  let tidy (ds : List Nat) : List Nat := if keepZeros then ds else dropTrailingZeros ds
  if -4 ≤ exponent && exponent < count then
    let whole := if d.point ≤ 0 then [0] else d.digits.take d.point.toNat
    let fraction :=
      if d.point ≤ 0 then List.replicate (-d.point).toNat 0 ++ d.digits
      else d.digits.drop d.point.toNat
    digitsText whole ++ fractionText keepZeros (digitsText (tidy fraction))
  else
    digitsText (d.digits.take 1) ++ fractionText keepZeros (digitsText (tidy (d.digits.drop 1))) ++
      exponentText exponent

end WarehouseSchema.Number
