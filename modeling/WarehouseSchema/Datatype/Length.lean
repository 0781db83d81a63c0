import WarehouseSchema.Number.Reading

/-!
Lengths of column types. A rule says which length texts a type takes: none at all, one whole number
within bounds, or a precision with an optional scale. `validate` checks a length that has no blanks
at its ends, `clamp` moves a number into the bounds of a rule.
-/

namespace WarehouseSchema

open Text Number

inductive LengthRule where
  | none
  | integer (minimum maximum : Int)
  | numeric (maxPrecision : Int)
  deriving DecidableEq, Repr, Inhabited

inductive LengthFault where
  | notAccepted
  | notInteger
  | outside (minimum maximum : Int)
  | notPrecisionAndScale
  | notIntegers
  | precisionOutside (maximum : Int)
  | scaleAbovePrecision
  deriving DecidableEq, Repr

def LengthFault.message : LengthFault → String
  | .notAccepted => "type does not accept a length"
  | .notInteger => "expected a single non-negative integer"
  | .outside lo hi => "must be between " ++ intText lo ++ " and " ++ intText hi
  | .notPrecisionAndScale => "expected 'precision' or 'precision,scale'"
  | .notIntegers => "precision and scale must be non-negative integers"
  | .precisionOutside hi => "precision must be between 1 and " ++ intText hi
  | .scaleAbovePrecision => "scale cannot exceed precision"

namespace LengthRule

/-- Checks precision and scale against each other and the greatest precision. -/
def checkNumeric (maxPrecision : Int) (precision scale : Option Nat) : Option LengthFault :=
  match precision, scale with
  | some p, some s =>
    if ¬ (1 ≤ (p : Int) ∧ (p : Int) ≤ maxPrecision) then some (.precisionOutside maxPrecision)
    else if p < s then some .scaleAbovePrecision
    else Option.none
  | _, _ => some .notIntegers

/-- Why a length does not obey the rule; `none` when it does. -/
def faultOf (rule : LengthRule) (length : String) : Except NumeralFault (Option LengthFault) :=
  match rule with
  | .none => return some .notAccepted
  | .integer lo hi => do
    match ← readNatural length.toList with
    | Option.none => return some .notInteger
    | some n => return if lo ≤ n ∧ n ≤ hi then Option.none else some (.outside lo hi)
  | .numeric hi =>
    match splitOn ',' length.toList with
    | [p] => do return checkNumeric hi (← readNatural p) (some 0)
    | [p, s] => do
      let precision ← readNatural p
      let scale ← readNatural s
      return checkNumeric hi precision scale
    | _ => return some .notPrecisionAndScale

/-- The number moved into the bounds of an integer rule; the upper bound gives way to the lower. -/
def clamp (minimum maximum value : Int) : Int := max minimum (min value maximum)

end LengthRule

end WarehouseSchema
