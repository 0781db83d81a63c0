import WarehouseSchema.Number.Binary64
import WarehouseSchema.Text.Digit

/-!
Decimal text of floating-point numbers. `shortest` finds the fewest digits that read back as the
same number, and among those the nearest ones; `Binary64.text` writes them positionally for
exponents from -4 to 15 and in scientific form otherwise. `Binary64.rounded` writes a number with a
bounded count of significant digits.
-/

namespace WarehouseSchema.Number

open Text

/-- A positive number as decimal digits: `0.d₁d₂… · 10 ^ point`. -/
structure Decimal where
  digits : List Nat
  point : Int
  deriving DecidableEq, Repr

def digitList (n : Nat) : List Nat := (natText n).toList.map digitValue

def dropTrailingZeros (ds : List Nat) : List Nat := (ds.reverse.dropWhile (· == 0)).reverse

structure Ratio where
  num : Nat
  den : Nat

namespace Ratio

def le (a b : Ratio) : Bool := a.num * b.den ≤ b.num * a.den

def lt (a b : Ratio) : Bool := a.num * b.den < b.num * a.den

def dist (a b : Ratio) : Ratio :=
  let x := a.num * b.den
  let y := b.num * a.den
  ⟨if x ≤ y then y - x else x - y, a.den * b.den⟩

def tenPower (n : Nat) (k : Int) : Ratio :=
  if 0 ≤ k then ⟨n * tenTo k.toNat, 1⟩ else ⟨n, tenTo (-k).toNat⟩

def twoPower (n : Nat) (k : Int) : Ratio :=
  if 0 ≤ k then ⟨n * twoTo k.toNat, 1⟩ else ⟨n, twoTo (-k).toNat⟩

/-- The whole part of `a / 10 ^ k`. -/
def floorTen (a : Ratio) (k : Int) : Nat :=
  if 0 ≤ k then a.num / (a.den * tenTo k.toNat) else a.num * tenTo (-k).toNat / a.den

/-- The least `k` with `a < 10 ^ k`, for a positive quotient. -/
def decimalPoint (a : Ratio) : Int :=
  let guess : Int := ((a.num.log2 : Int) - a.den.log2) * 30103 / 100000
  let near := [guess - 1, guess, guess + 1, guess + 2]
  (near.find? fun k => a.lt (tenPower 1 k)).getD (guess + 2)

end Ratio

/-- The reals that round to the number `mantissa · 2 ^ exponent`: lower end, upper end and whether
the ends belong to them. -/
def roundingInterval (mantissa : Nat) (exponent : Int) : Ratio × Ratio × Bool :=
  let closed := mantissa % 2 == 0
  let lower :=
    if mantissa = twoTo 52 && Binary64.minExponent < exponent then
      Ratio.twoPower (4 * mantissa - 1) (exponent - 2)
    else Ratio.twoPower (2 * mantissa - 1) (exponent - 1)
  (lower, Ratio.twoPower (2 * mantissa + 1) (exponent - 1), closed)

/-- The best multiple of `10 ^ k` that reads back, if one does: the nearer of the two neighbours,
the even one of two equally near. -/
def gridPoint? (value lower upper : Ratio) (closed : Bool) (k : Int) : Option Nat :=
  let below := value.floorTen k
  let inside (n : Nat) : Bool :=
    let x := Ratio.tenPower n k
    if closed then lower.le x && x.le upper else lower.lt x && x.lt upper
  let near (n : Nat) : Ratio := value.dist (Ratio.tenPower n k)
  match inside below, inside (below + 1) with
  | true, false => some below
  | false, true => some (below + 1)
  | false, false => none
  | true, true =>
    if (near below).lt (near (below + 1)) then some below
    else if (near (below + 1)).lt (near below) then some (below + 1)
    else if below % 2 = 0 then some below else some (below + 1)

/-- The fewest decimal digits that read back as `mantissa · 2 ^ exponent`, for a positive
mantissa. -/
def shortest (mantissa : Nat) (exponent : Int) : Decimal :=
  let value := Ratio.twoPower mantissa exponent
  let (lower, upper, closed) := roundingInterval mantissa exponent
  let top := value.decimalPoint
  let hit := (List.range 17).findSome? fun i =>
    let k := top - (i + 1 : Nat)
    (gridPoint? value lower upper closed k).map fun n => (n, k)
  match hit with
  | some (n, k) =>
    let ds := digitList n
    ⟨dropTrailingZeros ds, k + ds.length⟩
  | none => ⟨[0], 1⟩

def digitsText (ds : List Nat) : String := String.ofList (ds.map digitChar)

/-- `d.ddde±xx`, the exponent with at least two digits. -/
def scientific (d : Decimal) : String :=
  let exponent := d.point - 1
  let sign := if exponent < 0 then "-" else "+"
  let head := digitsText (d.digits.take 1)
  let tail := d.digits.drop 1
  let fraction := if tail.isEmpty then "" else "." ++ digitsText tail
  head ++ fraction ++ "e" ++ sign ++ paddedNat 2 exponent.natAbs

/-- Digits with a decimal point and no exponent; a whole number ends in `wholeEnd`. -/
def positional (wholeEnd : String) (d : Decimal) : String :=
  if d.point ≤ 0 then
    "0." ++ repeatedZero (-d.point).toNat ++ digitsText d.digits
  else
    let n := d.point.toNat
    let whole := d.digits.take n
    let fraction := d.digits.drop n
    digitsText whole ++ repeatedZero (n - d.digits.length) ++
      (if fraction.isEmpty then wholeEnd else "." ++ digitsText fraction)
where
  repeatedZero (n : Nat) : String := String.ofList (List.replicate n '0')

def signText (negative : Bool) : String := if negative then "-" else ""

/-- The text of a number: positional for exponents from -4 to 15, a whole number with `.0`. -/
def Binary64.text : Binary64 → String
  | .nan => "nan"
  | .infinite negative => signText negative ++ "inf"
  | .finite negative m e =>
    if m = 0 then signText negative ++ "0.0"
    else
      let d := shortest m e
      signText negative ++
        (if -4 < d.point && d.point ≤ 16 then positional ".0" d else scientific d)

/-- A positive quotient to `count` significant digits, a half going to the even digit. -/
def significant (count : Nat) (value : Ratio) : Decimal :=
  let top := value.decimalPoint
  let k := top - count
  let n :=
    if 0 ≤ k then roundHalfEven value.num (value.den * tenTo k.toNat)
    else roundHalfEven (value.num * tenTo (-k).toNat) value.den
  let ds := digitList n
  ⟨dropTrailingZeros ds, k + ds.length⟩

/-- The text of a number with at most six significant digits and no zeros at the end; positional for
exponents from -4 to 5. -/
def Binary64.rounded : Binary64 → String
  | .nan => "nan"
  | .infinite negative => signText negative ++ "inf"
  | .finite negative m e =>
    if m = 0 then signText negative ++ "0"
    else
      let d := significant 6 (Ratio.twoPower m e)
      signText negative ++ (if -4 < d.point && d.point ≤ 6 then positional "" d else scientific d)

end WarehouseSchema.Number
