import WarehouseSchema.Number.Power

/-!
Floating-point numbers of 64 bits as exact values. A finite number is `± mantissa · 2 ^ exponent`;
the mantissa has at most 53 bits and the exponent is at least -1074. Rounding and comparison are
done in exact integer arithmetic.
-/

namespace WarehouseSchema.Number

inductive Binary64 where
  | nan
  | infinite (negative : Bool)
  | finite (negative : Bool) (mantissa : Nat) (exponent : Int)
  deriving DecidableEq, Repr, Inhabited

/-- The quotient rounded to the nearest whole number, a half to the even neighbour. -/
def roundHalfEven (num den : Nat) : Nat :=
  let q := num / den
  let r := num % den
  if 2 * r < den then q
  else if den < 2 * r then q + 1
  else if q % 2 = 0 then q else q + 1

/-- `num / den · 2 ^ (-e)` as a quotient of naturals. -/
def scaleDown (num den : Nat) (e : Int) : Nat × Nat :=
  if 0 ≤ e then (num, den * twoTo e.toNat) else (num * twoTo (-e).toNat, den)

namespace Binary64

def maxExponent : Int := 971

def minExponent : Int := -1074

def zero (negative : Bool) : Binary64 := .finite negative 0 minExponent

/-- The nearest number to `± num / den`, a tie going to the even mantissa; beyond the largest
finite number it is infinite. -/
def ofRatio (negative : Bool) (num den : Nat) : Binary64 :=
  if num = 0 then zero negative
  else
    let guess : Int := (num.log2 : Int) - den.log2 - 52
    let e := max minExponent guess
    let fit (e : Int) : Binary64 :=
      let (n, d) := scaleDown num den e
      let m := roundHalfEven n d
      let (m, e) := if m = twoTo 53 then (twoTo 52, e + 1) else (m, e)
      if maxExponent < e then .infinite negative else .finite negative m e
    let (n, d) := scaleDown num den e
    if n / d < twoTo 52 && minExponent < e then fit (e - 1) else fit e

/-- The nearest number to `± digits · 10 ^ power`. -/
def ofDecimal (negative : Bool) (digits : Nat) (power : Int) : Binary64 :=
  if digits = 0 then zero negative
  else
    let magnitude := (digits.log2 : Int) * 3 / 10 + power
    if 400 < magnitude then .infinite negative
    else if magnitude < -800 then zero negative
    else if 0 ≤ power then ofRatio negative (digits * tenTo power.toNat) 1
    else ofRatio negative digits (tenTo (-power).toNat)

def ofInt (n : Int) : Binary64 := ofRatio (decide (n < 0)) n.natAbs 1

def isZero : Binary64 → Bool
  | .finite _ m _ => m == 0
  | _ => false

/-- The magnitude of a finite number without its fraction. -/
def wholePart (mantissa : Nat) (exponent : Int) : Nat :=
  if 0 ≤ exponent then mantissa * twoTo exponent.toNat else mantissa / twoTo (-exponent).toNat

/-- The integer part of a finite number, toward zero. -/
def truncate? : Binary64 → Option Int
  | .finite negative m e =>
    let n : Int := wholePart m e
    some (if negative then -n else n)
  | _ => none

/-- Whether the number is finite and has no fraction. -/
def isWhole : Binary64 → Bool
  | .finite _ m e => decide (0 ≤ e) || m % twoTo (-e).toNat == 0
  | _ => false

def negate : Binary64 → Binary64
  | .nan => .nan
  | .infinite negative => .infinite !negative
  | .finite negative m e => .finite (!negative) m e

/-- A finite number as a signed numerator over a power of two. -/
def toRatio (negative : Bool) (m : Nat) (e : Int) : Int × Nat :=
  let (n, d) : Nat × Nat := if 0 ≤ e then (m * twoTo e.toNat, 1) else (m, twoTo (-e).toNat)
  (if negative then -n else n, d)

/-- The nearest number to the sum. -/
def add : Binary64 → Binary64 → Binary64
  | .nan, _ | _, .nan => .nan
  | .infinite a, .infinite b => if a = b then .infinite a else .nan
  | .infinite a, _ | _, .infinite a => .infinite a
  | .finite a m e, .finite b n f =>
    let (x, c) := toRatio a m e
    let (y, d) := toRatio b n f
    let sum := x * d + y * c
    if sum = 0 then zero (a && b) else ofRatio (decide (sum < 0)) sum.natAbs (c * d)

def mul : Binary64 → Binary64 → Binary64
  | .nan, _ | _, .nan => .nan
  | .infinite a, .infinite b => .infinite (a != b)
  | .infinite a, .finite b m _ | .finite b m _, .infinite a =>
    if m = 0 then .nan else .infinite (a != b)
  | .finite a m e, .finite b n f =>
    let (x, c) := toRatio false m e
    let (y, d) := toRatio false n f
    ofRatio (a != b) (x * y).natAbs (c * d)

def div : Binary64 → Binary64 → Binary64
  | .nan, _ | _, .nan => .nan
  | .infinite _, .infinite _ => .nan
  | .infinite a, .finite b _ _ => .infinite (a != b)
  | .finite a _ _, .infinite b => zero (a != b)
  | .finite a m e, .finite b n f =>
    if n = 0 then if m = 0 then .nan else .infinite (a != b)
    else
      let (x, c) := toRatio false m e
      let (y, d) := toRatio false n f
      ofRatio (a != b) (x.natAbs * d) (y.natAbs * c)

end Binary64

end WarehouseSchema.Number
