import WarehouseSchema.Fault

/-!
JSON texts as values. White space is blank, tab, line feed and carriage return. Numbers with a point
or an exponent are floating-point ones, and the words for infinities and for no number are read too.
Of equal keys the last one counts. Characters below the blank have to be escaped.
-/

namespace WarehouseSchema.Json

open Text Number

inductive ReadFault where
  | malformed
  | number (fault : NumeralFault)
  deriving DecidableEq, Repr

def isSpace (c : Char) : Bool := c == ' ' || c == '\t' || c == '\n' || c == '\r'

def skipSpace (cs : List Char) : List Char := cs.dropWhile isSpace

/-- The value of four hexadecimal digits at the front of a text. -/
def takeUnit : List Char → Option (Nat × List Char)
  | a :: b :: c :: d :: rest => do
    let ds ← [a, b, c, d].mapM fun c => if c.toNat < 128 then valueBelow? 16 c else none
    return (ds.foldl (fun n d => 16 * n + d) 0, rest)
  | _ => none

/-- A code point of a text; halves of pairs without their other half are kept as they are. -/
abbrev CodePoint := Nat

/-- The code point that an escape without a short form begins, the second unit of a pair included. -/
def takeEscapedPoint (cs : List Char) : Option (CodePoint × List Char) := do
  let (n, rest) ← takeUnit cs
  if n < 0xD800 || 0xDBFF < n then return (n, rest)
  match rest with
  | '\\' :: 'u' :: more =>
    match takeUnit more with
    | some (m, after) =>
      if 0xDC00 ≤ m && m ≤ 0xDFFF then
        return (0x10000 + (n - 0xD800) * 0x400 + (m - 0xDC00), after)
      else return (n, rest)
    | none => none
  | _ => return (n, rest)

/-- The characters that letters after a backslash stand for. -/
def shortForms : List (Char × Char) :=
  [('"', '"'), ('\\', '\\'), ('/', '/'), ('b', '\x08'), ('f', '\x0c'), ('n', '\n'), ('r', '\r'),
   ('t', '\t')]

/-- The code points of a text up to its closing quote, and what follows, within `fuel` steps. -/
def takeQuoted : Nat → List Char → Option (List CodePoint × List Char)
  | 0, _ => none
  | _, [] => none
  | _, '"' :: rest => some ([], rest)
  | fuel + 1, '\\' :: 'u' :: rest => do
    let (n, rest) ← takeEscapedPoint rest
    let (ns, rest) ← takeQuoted fuel rest
    return (n :: ns, rest)
  | fuel + 1, '\\' :: letter :: rest => do
    let c ← shortForms.lookup letter
    let (ns, rest) ← takeQuoted fuel rest
    return (c.toNat :: ns, rest)
  | fuel + 1, c :: rest => do
    if c.toNat < 32 || c == '\\' then none
    let (ns, rest) ← takeQuoted fuel rest
    return (c.toNat :: ns, rest)

/-- The octets of a code point in the way of UTF-8, for halves of pairs too. -/
def pointOctets (n : CodePoint) : List UInt8 :=
  let tail (k : Nat) : UInt8 := UInt8.ofNat (0x80 + n / Number.twoTo (6 * k) % 64)
  if n < 0x80 then [UInt8.ofNat n]
  else if n < 0x800 then [UInt8.ofNat (0xC0 + n / 64), tail 0]
  else if n < 0x10000 then [UInt8.ofNat (0xE0 + n / 4096), tail 1, tail 0]
  else [UInt8.ofNat (0xF0 + n / 262144), tail 2, tail 1, tail 0]

/-- Code points as a text; with half a pair among them they are no text, and are kept as octets. -/
def textOfPoints (ns : List CodePoint) : Value :=
  if ns.all fun n => (Nat.isValidChar n : Bool) then .text (String.ofList (ns.map Char.ofNat))
  else .octets (ns.flatMap pointOctets)

def takeText (cs : List Char) : Except ReadFault (Value × List Char) :=
  match takeQuoted (cs.length + 1) cs with
  | some (ns, rest) => .ok (textOfPoints ns, rest)
  | none => .error .malformed

/-- The whole digits of a number: a zero alone, or digits that begin with another one. -/
def takeWhole : List Char → List Char × List Char
  | '0' :: rest => (['0'], rest)
  | cs => cs.span isDigit

/-- A point with digits behind it. -/
def takeFraction (cs : List Char) : List Char × List Char :=
  match cs with
  | '.' :: rest =>
    match rest.span isDigit with
    | ([], _) => ([], cs)
    | (ds, rest) => ('.' :: ds, rest)
  | _ => ([], cs)

/-- A mark, an optional sign and digits. -/
def takePower (cs : List Char) : List Char × List Char :=
  match cs with
  | mark :: rest =>
    if mark = 'e' || mark = 'E' then
      let (sign, digits) :=
        match rest with
        | '+' :: more => (['+'], more)
        | '-' :: more => (['-'], more)
        | more => ([], more)
      match digits.span isDigit with
      | ([], _) => ([], cs)
      | (ds, rest) => (mark :: sign ++ ds, rest)
    else ([], cs)
  | [] => ([], [])

def takeNumber (cs : List Char) : Except ReadFault (Value × List Char) :=
  let (sign, body) : List Char × List Char :=
    match cs with
    | '-' :: rest => (['-'], rest)
    | rest => ([], rest)
  let (whole, rest) := takeWhole body
  if whole = [] then .error .malformed
  else
    let (fraction, rest) := takeFraction rest
    let (power, rest) := takePower rest
    if fraction = [] && power = [] then
      match readInt (String.ofList (sign ++ whole)) with
      | .ok n => .ok (.int n, rest)
      | .error fault => .error (.number fault)
    else
      match readFloat? (String.ofList (sign ++ whole ++ fraction ++ power)) with
      | some x => .ok (.float x, rest)
      | none => .error .malformed

def words : List (String × Value) :=
  [("null", .null), ("true", .bool true), ("false", .bool false), ("NaN", .float .nan),
   ("Infinity", .float (.infinite false)), ("-Infinity", .float (.infinite true))]

def takeWord? (cs : List Char) : Option (Value × List Char) :=
  (words.find? fun w => w.1.toList.isPrefixOf cs).map fun w => (w.2, cs.drop w.1.length)

mutual

/-- The value at the front of a text, within `fuel` steps. -/
def takeValue : Nat → List Char → Except ReadFault (Value × List Char)
  | 0, _ => .error .malformed
  | fuel + 1, cs =>
    match cs with
    | '"' :: rest => takeText rest
    | '[' :: rest =>
      match skipSpace rest with
      | ']' :: after => .ok (.list [], after)
      | inner => do
        let (items, rest) ← takeItems fuel inner
        return (.list items, rest)
    | '\x7b' :: rest =>
      match skipSpace rest with
      | '\x7d' :: after => .ok (.map [], after)
      | inner => do
        let (entries, rest) ← takeEntries fuel [] inner
        return (.map entries, rest)
    | cs =>
      match takeWord? cs with
      | some r => .ok r
      | none => takeNumber cs

def takeItems : Nat → List Char → Except ReadFault (List Value × List Char)
  | 0, _ => .error .malformed
  | fuel + 1, cs => do
    let (v, rest) ← takeValue fuel cs
    match skipSpace rest with
    | ']' :: after => return ([v], after)
    | ',' :: more => do
      let (vs, rest) ← takeItems fuel (skipSpace more)
      return (v :: vs, rest)
    | _ => throw .malformed

/-- The entries of a map up to its brace, put to those that came before. -/
def takeEntries : Nat → List (Value × Value) → List Char →
    Except ReadFault (List (Value × Value) × List Char)
  | 0, _, _ => .error .malformed
  | fuel + 1, before, cs => do
    let (key, rest) ←
      match cs with
      | '"' :: rest => takeText rest
      | _ => .error .malformed
    match skipSpace rest with
    | ':' :: rest => do
      let (v, rest) ← takeValue fuel (skipSpace rest)
      let entries := Value.putEntry before key v
      match skipSpace rest with
      | '\x7d' :: after => return (entries, after)
      | ',' :: more => takeEntries fuel entries (skipSpace more)
      | _ => throw .malformed
    | _ => throw .malformed

end

def read (s : String) : Except ReadFault Value := do
  let cs := s.toList
  let (v, rest) ← takeValue (2 * cs.length + 2) (skipSpace cs)
  if skipSpace rest = [] then return v else throw .malformed

end WarehouseSchema.Json
