import WarehouseSchema.Csv.Sample
import WarehouseSchema.Number.Reading

/-!
What the values of a sampled column are. Whole numbers of 64 bits come first, with or without a sign,
then floating-point numbers, then truth values, and texts at last. Integers beside missing values are
floating-point numbers.
-/

namespace WarehouseSchema.Csv

open Text Number

/-- White space that may stand around a number. -/
def isNumberBlank (c : Char) : Bool := c == ' ' || (9 ≤ c.toNat && c.toNat ≤ 13)

inductive IntegerFault where
  | malformed
  | tooLarge
  deriving DecidableEq, Repr

/-- The number that digits write, at most `limit`; a number beyond it is too large whatever follows
it. -/
def boundedNumber (limit : Nat) : Nat → List Char → Except IntegerFault (Nat × List Char)
  | n, [] => .ok (n, [])
  | n, c :: cs =>
    if isDigit c then
      let m := 10 * n + digitValue c
      if limit < m then .error .tooLarge else boundedNumber limit m cs
    else .ok (n, c :: cs)

/-- Digits with blanks behind them and nothing else. -/
def boundedDigits (limit : Nat) (cs : List Char) : Except IntegerFault Nat :=
  match cs with
  | [] => .error .malformed
  | c :: _ =>
    if !isDigit c then .error .malformed
    else
      match boundedNumber limit 0 cs with
      | .error fault => .error fault
      | .ok (n, rest) => if rest.all isNumberBlank then .ok n else .error .malformed

/-- The integer of 64 bits with a sign that a text writes. -/
def signedInteger (s : String) : Except IntegerFault Int :=
  match s.toList.dropWhile isNumberBlank with
  | '-' :: ds => (boundedDigits word ds).map fun n : Nat => -(n : Int)
  | '+' :: ds => (boundedDigits (word - 1) ds).map Int.ofNat
  | ds => (boundedDigits (word - 1) ds).map Int.ofNat

/-- The integer of 64 bits without a sign that a text writes, `none` for one with a minus. -/
def unsignedInteger (s : String) : Except IntegerFault (Option Nat) :=
  match s.toList.dropWhile isNumberBlank with
  | '-' :: _ => .ok none
  | '+' :: ds => (boundedDigits greatestUnsigned ds).map some
  | ds => (boundedDigits greatestUnsigned ds).map some

/-- The greatest count of digits of a floating-point number that are taken into account. -/
def countedDigits : Nat := 17

def tenTo (k : Nat) : Binary64 := .ofDecimal false 1 k

def withDigit (x : Binary64) (c : Char) : Binary64 :=
  (x.mul (.ofInt 10)).add (.ofInt (digitValue c))

/-- The number multiplied by a power of ten, as far as floating-point numbers go. -/
def scaled (x : Binary64) (power : Int) : Option Binary64 :=
  if 308 < power then none
  else if 0 < power then
    match x.mul (tenTo power.toNat) with
    | .infinite _ => none
    | y => some y
  else if power < -308 then some ((x.div (tenTo (-308 - power).toNat)).div (tenTo 308))
  else some (x.div (tenTo (-power).toNat))

/-- The power that a mark and digits write at the front of a text, and the rest. -/
def takeScale (cs : List Char) : Int × List Char :=
  match cs with
  | mark :: rest =>
    if mark = 'e' || mark = 'E' then
      let (negative, digits) := takeSign rest
      let counted := (digits.takeWhile isDigit).take countedDigits
      if counted = [] then (0, cs)
      else
        let n : Int := digitsValue counted
        (if negative then -n else n, digits.drop counted.length)
    else (0, cs)
  | [] => (0, [])

/-- The digits behind a point that are taken into account beside `count` others, and the rest. -/
def takeFraction (count : Nat) : List Char → List Char × List Char
  | '.' :: more =>
    let counted := (more.takeWhile isDigit).take (countedDigits - count)
    (counted, if countedDigits ≤ count + counted.length then more.dropWhile isDigit
      else more.drop counted.length)
  | rest => ([], rest)

/-- The finite floating-point number that a text writes. Digits beyond the counted ones only move the
point. -/
def decimalNumber? (s : String) : Option Binary64 :=
  let (negative, body) := takeSign (s.toList.dropWhile isNumberBlank)
  let (whole, rest) := body.span isDigit
  let (fraction, rest) := takeFraction whole.length rest
  if whole.isEmpty && fraction.isEmpty then none
  else
    let x := (whole.take countedDigits ++ fraction).foldl withDigit (.zero false)
    let (power, rest) := takeScale rest
    let power := power + (whole.length - countedDigits : Nat) - fraction.length
    if rest.all isNumberBlank then scaled (if negative then x.negate else x) power else none

/-- The words for infinities. -/
def infinityWords : List (String × Bool) :=
  [("inf", false), ("+inf", false), ("infinity", false), ("+infinity", false), ("-inf", true),
   ("-infinity", true)]

def floatNumber? (s : String) : Option Binary64 :=
  match decimalNumber? s with
  | some x => some x
  | none =>
    (infinityWords.lookup (String.ofList (s.toList.map Char.toLower))).map Binary64.infinite

def truthWords : List String := ["True", "TRUE", "true", "False", "FALSE", "false"]

inductive Kind where
  | truths
  | integers
  | floats (values : List Binary64)
  | texts (values : List String)
  deriving Repr

/-- Integers without a sign where those with one are too large: kept apart from missing and from
negative values. -/
def unsignedKind (cells : List (Option String)) : Except IntegerFault Bool :=
  let numbers := (cells.filterMap id).mapM unsignedInteger
  numbers.map fun ns => !(ns.contains none) && !((cells.any Option.isNone) &&
    ns.any fun n => n.any (word ≤ ·))

/-- What values that are no integers are. -/
def otherKind (values : List String) : Kind :=
  match values.mapM floatNumber? with
  | some xs => .floats xs
  | none => if values.all truthWords.contains then .truths else .texts values

def SampleColumn.kind (c : SampleColumn) : Kind :=
  match c.present.mapM signedInteger with
  | .ok ns => if c.hasMissing then .floats (ns.map Binary64.ofInt) else .integers
  | .error .malformed => otherKind c.present
  | .error .tooLarge =>
    match unsignedKind c.cells with
    | .ok true => .integers
    | .ok false | .error .tooLarge => .texts c.present
    | .error .malformed => otherKind c.present

end WarehouseSchema.Csv
