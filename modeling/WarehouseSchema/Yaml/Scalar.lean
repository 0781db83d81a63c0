import WarehouseSchema.Value
import WarehouseSchema.Yaml.Tag

/-!
Values of scalars. A scalar with a tag is read as its tag says, also when its text is not what such
a value looks like; each tag then has a fault of its own.
-/

namespace WarehouseSchema.Yaml

open Text Number

def truthWords : List (String × Bool) :=
  [("yes", true), ("no", false), ("true", true), ("false", false), ("on", true), ("off", false)]

def readBool (s : String) : Except Fault Value :=
  match truthWords.lookup (lower s) with
  | some b => .ok (.bool b)
  | none => .error (.missingKey (.text (lower s)))

/-- The sign of a number and the rest, underscores being left out; an empty text is refused. -/
def splitNumber (s : String) : Except Fault (Bool × List Char) :=
  match s.toList.filter (· != '_') with
  | [] => .error .noRow
  | '-' :: cs => .ok (true, cs)
  | '+' :: cs => .ok (false, cs)
  | cs => .ok (false, cs)

/-- The number whose digits in base sixty are given, the highest first. -/
def ofSixtieths (ds : List Int) : Int := ds.foldl (fun n d => 60 * n + d) 0

/-- The integer that a text without sign and underscores writes: in base two behind `0b`, in base
sixteen behind `0x`, in base eight behind another zero, in base sixty with colons, else in base
ten. -/
def readUnsignedInt (cs : List Char) : Except Fault Int :=
  match cs with
  | [] => .error .noRow
  | ['0'] => .ok 0
  | '0' :: 'b' :: ds => Fault.ofNumeral (readIntIn 2 (String.ofList ds))
  | '0' :: 'x' :: ds => Fault.ofNumeral (readIntIn 16 (String.ofList ds))
  | '0' :: _ => Fault.ofNumeral (readIntIn 8 (String.ofList cs))
  | _ =>
    if cs.contains ':' then do
      let ds ← (splitOn ':' cs).mapM fun part => Fault.ofNumeral (readInt (String.ofList part))
      return ofSixtieths ds
    else Fault.ofNumeral (readInt (String.ofList cs))

def readInteger (s : String) : Except Fault Value := do
  let (negative, cs) ← splitNumber s
  let n ← readUnsignedInt cs
  return .int (if negative then -n else n)

/-- The floating-point number that a text without underscores writes. -/
def readDecimal (cs : List Char) : Except Fault Binary64 :=
  match readFloat? (String.ofList cs) with
  | some x => .ok x
  | none =>
    .error (.badFormat ("could not convert string to float: " ++ literal (String.ofList cs)))

/-- The sum of digits in base sixty, the lowest first, each step being rounded. -/
def sumSixtieths : Nat → Binary64 → List Binary64 → Binary64
  | _, sum, [] => sum
  | base, sum, d :: ds =>
    sumSixtieths (60 * base) (sum.add (d.mul (Binary64.ofInt base))) ds

/-- The floating-point number that a text without sign and underscores writes. -/
def readUnsignedFloat (cs : List Char) : Except Fault Binary64 :=
  if cs = ".inf".toList then .ok (.infinite false)
  else if cs = ".nan".toList then .ok .nan
  else if cs.contains ':' then do
    let ds ← (splitOn ':' cs).mapM readDecimal
    return sumSixtieths 1 (.zero false) ds.reverse
  else readDecimal cs

def readFloating (s : String) : Except Fault Value := do
  let (negative, cs) ← splitNumber (lower s)
  let x ← readUnsignedFloat cs
  return .float (if negative then x.negate else x)

def base64Value? (c : Char) : Option Nat :=
  if 'A' ≤ c && c ≤ 'Z' then some (c.toNat - 65)
  else if 'a' ≤ c && c ≤ 'z' then some (c.toNat - 71)
  else if '0' ≤ c && c ≤ '9' then some (c.toNat + 4)
  else if c = '+' then some 62
  else if c = '/' then some 63
  else none

/-- Octets from base 64: `filled` characters of a group of four are in `held`, and `pads` signs of
equality have come after them. Other characters do not count. -/
def base64Octets? (filled held pads : Nat) : List Char → Option (List UInt8)
  | [] => if filled = 0 then some [] else none
  | c :: cs =>
    if c = '=' then
      if 2 ≤ filled && 4 ≤ filled + pads + 1 then some []
      else base64Octets? filled held (if 2 ≤ filled then pads + 1 else pads) cs
    else
      match base64Value? c with
      | none => base64Octets? filled held pads cs
      | some v =>
        match filled with
        | 0 => base64Octets? 1 v 0 cs
        | 1 => (base64Octets? 2 (v % 16) 0 cs).map (UInt8.ofNat (held * 4 + v / 16) :: ·)
        | 2 => (base64Octets? 3 (v % 4) 0 cs).map (UInt8.ofNat (held * 16 + v / 4) :: ·)
        | _ => (base64Octets? 0 0 0 cs).map (UInt8.ofNat (held * 64 + v) :: ·)

def readBinary (s : String) : Except Fault Value :=
  if s.toList.all fun c => c.toNat < 128 then
    match base64Octets? 0 0 0 s.toList with
    | some octets => .ok (.octets octets)
    | none => .error (.yaml .constructor)
  else .error (.yaml .constructor)

def dayMinutes : Nat := 1440

/-- The offset of a zone in minutes, which is less than a day. -/
def readOffset : Option (Option (Bool × Nat × Nat)) → Except Fault (Option Int)
  | none => .ok none
  | some none => .ok (some 0)
  | some (some (negative, hour, minute)) =>
    let n := hour * 60 + minute
    let offset : Int := if negative then -(n : Int) else n
    if n < dayMinutes then .ok (some offset)
    else
      .error (.calendar (.offset (offset / dayMinutes) (offset % dayMinutes * 60).toNat))

/-- A fraction of a second in microseconds. -/
def microseconds (ds : List Char) : Nat :=
  digitsValue ((ds.take 6) ++ List.replicate (6 - ds.length) '0')

def ofCalendar {α : Type} : Except Calendar.Fault α → Except Fault α
  | .ok a => .ok a
  | .error fault => .error (.calendar fault)

def readStamp (s : String) : Except Fault Value :=
  match Stamp.ofChars? s.toList with
  | none => .error .wrongAttribute
  | some stamp =>
    match stamp.clock with
    | none => do return .date (← ofCalendar (Date.ofNumbers stamp.year stamp.month stamp.day))
    | some (hour, minute, second) => do
      let offset ← readOffset stamp.zone
      return .moment (← ofCalendar (Moment.ofNumbers stamp.year stamp.month stamp.day hour minute
        second (microseconds stamp.fraction) offset))

def readScalar (tag : Tag) (s : String) : Except Fault Value :=
  match tag with
  | .null => .ok .null
  | .bool => readBool s
  | .int => readInteger s
  | .float => readFloating s
  | .timestamp => readStamp s
  | .binary => readBinary s
  | .text => .ok (.text s)
  | .sequence | .pairs | .set | .mapping | .merge | .value | .other => .error (.yaml .constructor)

end WarehouseSchema.Yaml
