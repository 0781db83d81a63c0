import WarehouseSchema.Text.Digit
import WarehouseSchema.Text.Printable

/-!
A text as a quoted literal. The literal stands in single quotes, or in double quotes when the text
holds single quotes only; the quote, the backslash and every character without a visible form are
escaped.
-/

namespace WarehouseSchema.Text

/-- The lower-case hexadecimal digit of a number below sixteen. -/
def hexDigit (n : Nat) : Char := if n < 10 then Char.ofNat (48 + n) else Char.ofNat (87 + n)

/-- The last `width` hexadecimal digits of a number. -/
def hexDigits : Nat → Nat → List Char
  | 0, _ => []
  | width + 1, n => hexDigits width (n / 16) ++ [hexDigit (n % 16)]

/-- The escape of a code point: two digits after `\\x`, four after `\\u` or eight after `\\U`. -/
def escapeCode (n : Nat) : List Char :=
  if n < 0x100 then '\\' :: 'x' :: hexDigits 2 n
  else if n < 0x10000 then '\\' :: 'u' :: hexDigits 4 n
  else '\\' :: 'U' :: hexDigits 8 n

def literalQuote (cs : List Char) : Char :=
  if cs.contains '\'' && !cs.contains '"' then '"' else '\''

/-- A character inside a literal that stands in `quote`. -/
def literalChar (quote c : Char) : List Char :=
  if c = quote || c = '\\' then ['\\', c]
  else if c = '\n' then ['\\', 'n']
  else if c = '\r' then ['\\', 'r']
  else if c = '\t' then ['\\', 't']
  else if isPrintable c then [c]
  else escapeCode c.toNat

def literal (s : String) : String :=
  let quote := literalQuote s.toList
  String.ofList (quote :: s.toList.flatMap (literalChar quote) ++ [quote])

/-- Octets as a quoted literal with the mark `b` before it. -/
def octetsLiteral (octets : List UInt8) : String :=
  let cs := octets.map fun b => Char.ofNat b.toNat
  let quote := literalQuote cs
  let body := cs.flatMap fun c => if c.toNat < 128 then literalChar quote c else escapeCode c.toNat
  String.ofList ('b' :: quote :: body ++ [quote])

end WarehouseSchema.Text
