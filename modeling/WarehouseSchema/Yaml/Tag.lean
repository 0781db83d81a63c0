import WarehouseSchema.Text.Basic
import WarehouseSchema.Text.Digit
import WarehouseSchema.Yaml.Cursor

/-!
Tags say what kind of value a node stands for. A plain scalar without a tag gets one from its text:
`Tag.ofPlain` knows the texts of truth values, numbers, times and so on; any other plain scalar is a
text.
-/

namespace WarehouseSchema.Yaml

open Text

/-- What kind of value a node stands for. -/
inductive Tag where
  | null
  | bool
  | int
  | float
  | timestamp
  | binary
  | text
  | sequence
  | pairs
  | set
  | mapping
  | merge
  | value
  | other
  deriving DecidableEq, Repr

namespace Tag

def standardAddress : String := "tag:yaml.org,2002:"

def standardNames : List (String × Tag) :=
  [("null", null), ("bool", bool), ("int", int), ("float", float), ("timestamp", timestamp),
   ("binary", binary), ("str", text), ("seq", sequence), ("omap", pairs), ("pairs", pairs),
   ("set", set), ("map", mapping), ("merge", merge), ("value", value)]

def ofAddress (address : String) : Tag :=
  ((standardNames.find? fun e => standardAddress ++ e.1 == address).map (·.2)).getD other

/-- Whether the value is a collection, whose items are made later than the collection. -/
def isCollection : Tag → Bool
  | sequence | pairs | set | mapping => true
  | _ => false

def boolWords : List String :=
  ["yes", "Yes", "YES", "no", "No", "NO", "true", "True", "TRUE", "false", "False", "FALSE", "on",
   "On", "ON", "off", "Off", "OFF"]

def nullWords : List String := ["~", "null", "Null", "NULL", ""]

def isSpaced (c : Char) : Bool := isDigit c || c == '_'

def dropSign : List Char → List Char
  | '-' :: cs => cs
  | '+' :: cs => cs
  | cs => cs

/-- Whether all of a non-empty text is in `p`. -/
def areAll (p : Char → Bool) (cs : List Char) : Bool := !cs.isEmpty && cs.all p

/-- Whether a part of a number in base sixty is one digit, or two of which the first is below six. -/
def isSixtieth (cs : List Char) : Bool :=
  match cs with
  | [d] => isDigit d
  | [t, d] => isDigit t && t < '6' && isDigit d
  | _ => false

/-- Whether a digit stands first and only digits and underscores follow. -/
def isSpacedNumber (cs : List Char) : Bool := (cs.head?.map isDigit).getD false && cs.all isSpaced

/-- Whether an exponent with its sign, or nothing, stands here. -/
def isExponent (cs : List Char) : Bool :=
  match cs with
  | [] => true
  | e :: sign :: ds => (e == 'e' || e == 'E') && (sign == '-' || sign == '+') && areAll isDigit ds
  | _ => false

/-- Whether a text behind its sign writes an integer. -/
def isUnsignedInt (cs : List Char) : Bool :=
  match cs with
  | '0' :: 'b' :: ds => areAll (fun c => c == '0' || c == '1' || c == '_') ds
  | '0' :: 'x' :: ds => areAll (fun c => (hexValue? c).isSome || c == '_') ds
  | ['0'] => true
  | '0' :: ds => areAll (fun c => ('0' ≤ c && c ≤ '7') || c == '_') ds
  | _ =>
    match splitOn ':' cs with
    | [ds] => isSpacedNumber ds
    | ds :: parts => isSpacedNumber ds && parts.all isSixtieth
    | [] => false

/-- Whether a text behind its sign writes a number with a fraction, in base ten or sixty. -/
def isUnsignedFloat (cs : List Char) : Bool :=
  let whole := cs.takeWhile (· != '.')
  match cs.dropWhile (· != '.') with
  | '.' :: rest =>
    let exponent := rest.dropWhile isSpaced
    match splitOn ':' whole with
    | [ds] => isSpacedNumber ds && isExponent exponent
    | ds :: parts => isSpacedNumber ds && parts.all isSixtieth && exponent.isEmpty
    | [] => false
  | _ => false

/-- Whether a text writes a number with a fraction, an infinity or not a number. -/
def isFloat (cs : List Char) : Bool :=
  isUnsignedFloat (dropSign cs) ||
    (match cs with
     | '.' :: ds => (ds.head?.map isDigit).getD false && isExponent (ds.dropWhile isSpaced)
     | _ => false) ||
    [".inf", ".Inf", ".INF"].contains (String.ofList (dropSign cs)) ||
    [".nan", ".NaN", ".NAN"].contains (String.ofList cs)

end Tag

/-- A date as written, perhaps with a time of day; a zone of `none` inside a time is missing, one
with no sign is universal time. -/
structure Stamp where
  year : Nat
  month : Nat
  day : Nat
  clock : Option (Nat × Nat × Nat)
  fraction : List Char
  zone : Option (Option (Bool × Nat × Nat))

namespace Stamp

/-- From one to `most` digits at the front. -/
def takeDigits? (most : Nat) (cs : List Char) : Option (Nat × List Char) :=
  let ds := (cs.take most).takeWhile isDigit
  if ds.isEmpty then none else some (digitsValue ds, cs.drop ds.length)

def takeExactly? (count : Nat) (cs : List Char) : Option (Nat × List Char) :=
  let ds := (cs.take count).takeWhile isDigit
  if ds.length = count then some (digitsValue ds, cs.drop count) else none

def expect? (c : Char) : List Char → Option (List Char)
  | d :: cs => if d = c then some cs else none
  | [] => none

def isGap (c : Char) : Bool := c == ' ' || c == '\t'

def readZone? (cs : List Char) : Option (Option (Option (Bool × Nat × Nat))) :=
  match cs.dropWhile isGap with
  | ['Z'] => some (some none)
  | sign :: rest =>
    if sign == '-' || sign == '+' then do
      let (hour, rest) ← takeDigits? 2 rest
      match rest with
      | [] => some (some (some (sign == '-', hour, 0)))
      | _ =>
        let (minute, rest) ← takeExactly? 2 (← expect? ':' rest)
        if rest.isEmpty then some (some (some (sign == '-', hour, minute))) else none
    else none
  | [] => if cs.isEmpty then some none else none

def ofChars? (cs : List Char) : Option Stamp := do
  let (year, cs) ← takeExactly? 4 cs
  let (month, cs) ← takeDigits? 2 (← expect? '-' cs)
  let (day, cs) ← takeDigits? 2 (← expect? '-' cs)
  match cs with
  | [] => some ⟨year, month, day, none, [], none⟩
  | t :: rest =>
    let cs ←
      if t == 'T' || t == 't' then some rest
      else if isGap t then some (rest.dropWhile isGap)
      else none
    let (hour, cs) ← takeDigits? 2 cs
    let (minute, cs) ← takeExactly? 2 (← expect? ':' cs)
    let (second, cs) ← takeExactly? 2 (← expect? ':' cs)
    let (fraction, cs) :=
      match cs with
      | '.' :: rest => (rest.takeWhile isDigit, rest.dropWhile isDigit)
      | cs => ([], cs)
    let zone ← readZone? cs
    some ⟨year, month, day, some (hour, minute, second), fraction, zone⟩

/-- Whether a plain scalar is a stamp: a date alone has two digits for month and day. -/
def isPlain (cs : List Char) : Bool :=
  match ofChars? cs with
  | some stamp => stamp.clock.isSome || cs.length = 10
  | none => false

end Stamp

namespace Tag

def ofPlain (s : String) : Tag :=
  let cs := s.toList
  if boolWords.contains s then bool
  else if isFloat cs then float
  else if isUnsignedInt (dropSign cs) then int
  else if s = "<<" then merge
  else if nullWords.contains s then null
  else if Stamp.isPlain cs then timestamp
  else if s = "=" then value
  else if s = "!" || s = "&" || s = "*" then other
  else text

end Tag

end WarehouseSchema.Yaml
