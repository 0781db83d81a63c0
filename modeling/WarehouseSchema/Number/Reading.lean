import WarehouseSchema.Number.Binary64
import WarehouseSchema.Text.Basic
import WarehouseSchema.Text.Blank
import WarehouseSchema.Text.Digit
import WarehouseSchema.Text.LetterCase
import WarehouseSchema.Text.Literal

/-!
Numbers from text. An integer is a sign and decimal digits of any script, single underscores being
allowed between digits; more than `digitLimit` digits are refused, in reading as in writing. Blanks
around a number do not count.
-/

namespace WarehouseSchema.Number

open Text

/-- The greatest count of digits of an integer that is read from or written as text. -/
def digitLimit : Nat := 4300

/-- Why a text is not an integer, or an integer has no text. -/
inductive NumeralFault where
  | malformed (base : Nat) (text : String)
  | tooLongToRead (digits : Nat)
  | tooLongToWrite
  deriving DecidableEq, Repr

def NumeralFault.message : NumeralFault → String
  | .malformed base text =>
    s!"invalid literal for int() with base {base}: " ++ String.ofList ((literal text).toList.take 200)
  | .tooLongToRead digits =>
    s!"Exceeds the limit ({digitLimit} digits) for integer string conversion: value has {digits} digits; use sys.set_int_max_str_digits() to increase the limit"
  | .tooLongToWrite =>
    s!"Exceeds the limit ({digitLimit} digits) for integer string conversion; use sys.set_int_max_str_digits() to increase the limit"

/-- A blank that may stand around a number: the ASCII separators are not among them. -/
def isNumeralBlank (c : Char) : Bool := isBlank c && !(28 ≤ c.toNat && c.toNat ≤ 31)

def trimNumeral (cs : List Char) : List Char :=
  dropEndWhile isNumeralBlank (cs.dropWhile isNumeralBlank)

/-- A leading sign, true for minus, and the rest. -/
def takeSign : List Char → Bool × List Char
  | '-' :: cs => (true, cs)
  | '+' :: cs => (false, cs)
  | cs => (false, cs)

/-- The digits at the front and the rest; `none` when an underscore does not stand between two
digits. `after` says whether a digit has just been read. -/
def takeDigits (after : Bool) : List Char → Option (List Nat × List Char)
  | [] => some ([], [])
  | c :: cs =>
    match decimalValue? c with
    | some d => (takeDigits true cs).map fun (ds, rest) => (d :: ds, rest)
    | none =>
      if c = '_' then
        if after && ((cs.head?.bind decimalValue?).isSome) then takeDigits false cs else none
      else some ([], c :: cs)

def ofDigits (ds : List Nat) : Nat := ds.foldl (fun n d => 10 * n + d) 0

def readInt (s : String) : Except NumeralFault Int :=
  let (negative, body) := takeSign (trimNumeral s.toList)
  match takeDigits false body with
  | none => throw (.malformed 10 s)
  | some ([], _) => throw (.malformed 10 s)
  | some (ds, rest) =>
    if digitLimit < ds.length then throw (.tooLongToRead ds.length)
    else if rest ≠ [] then throw (.malformed 10 s)
    else
      let n : Int := ofDigits ds
      return if negative then -n else n

/-- The value of a digit or letter below `base`. -/
def valueBelow? (base : Nat) (c : Char) : Option Nat :=
  let v? :=
    if 'a' ≤ c && c ≤ 'z' then some (c.toNat - 87)
    else if 'A' ≤ c && c ≤ 'Z' then some (c.toNat - 55)
    else decimalValue? c
  v?.filter (· < base)

/-- The letter that marks numbers of a base behind a zero. -/
def baseMark? : Nat → Option Char
  | 2 => some 'b'
  | 8 => some 'o'
  | 16 => some 'x'
  | _ => none

/-- The integer that a text writes in a base that is a power of two; the mark of the base may stand
before its digits. -/
def readIntIn (base : Nat) (s : String) : Except NumeralFault Int :=
  let (negative, body) := takeSign (trimNumeral s.toList)
  let ds :=
    match body with
    | '0' :: mark :: ds => if baseMark? base = some mark.toLower then ds else body
    | ds => ds
  match ds.mapM (valueBelow? base) with
  | some (v :: vs) =>
    let n : Int := (vs.foldl (fun n v => base * n + v) v : Nat)
    return if negative then -n else n
  | _ => throw (.malformed base s)

/-- The text of an integer, refused when it has too many digits. -/
def writeInt (n : Int) : Except NumeralFault String :=
  let s := intText n
  if digitLimit < (natText n.natAbs).length then throw .tooLongToWrite else return s

/-- The number that ASCII digits with blanks around them write; `none` for any other text. -/
def readNatural (cs : List Char) : Except NumeralFault (Option Nat) :=
  let ds := trimChars cs
  if ds ≠ [] ∧ ds.all isDigit then
    if digitLimit < ds.length then throw (.tooLongToRead ds.length)
    else return some (digitsValue ds)
  else return Option.none

/-- The exponent at the front of a text, with its mark; absent is zero. -/
def takeExponent (cs : List Char) : Option (Int × List Char) :=
  match cs with
  | c :: rest =>
    if c = 'e' || c = 'E' then
      let (negative, body) := takeSign rest
      match takeDigits false body with
      | some (d :: ds, rest) =>
        let n : Int := ofDigits (d :: ds)
        some (if negative then -n else n, rest)
      | _ => none
    else some (0, cs)
  | [] => some (0, [])

/-- The finite floating-point number that an unsigned text writes. -/
def readUnsigned (negative : Bool) (cs : List Char) : Option Binary64 := do
  let (whole, rest) ← takeDigits false cs
  let (fraction, rest) ←
    match rest with
    | '.' :: rest => takeDigits false rest
    | rest => some ([], rest)
  if whole.isEmpty && fraction.isEmpty then none
  let (power, rest) ← takeExponent rest
  if rest ≠ [] then none
  let ds := whole ++ fraction
  return Binary64.ofDecimal negative (ofDigits ds) (power - fraction.length)

/-- The floating-point number that a text writes: decimal with an optional exponent, `inf`,
`infinity` or `nan` in any letter case. -/
def readFloat? (s : String) : Option Binary64 :=
  let (negative, body) := takeSign (trimNumeral s.toList)
  let word := body.map Char.toLower
  if word = "inf".toList || word = "infinity".toList then some (.infinite negative)
  else if word = "nan".toList then some .nan
  else readUnsigned negative body

end WarehouseSchema.Number
