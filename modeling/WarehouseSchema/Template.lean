import WarehouseSchema.Fault
import WarehouseSchema.Number.Places

/-!
Texts with places to fill. A place is a percent sign, optionally a key in parentheses, flags, a
width, a precision, and a letter that says how the value is written. The values are taken in turn, or
by key from a map. Two percent signs are one.
-/

namespace WarehouseSchema

open Text Number

namespace Template

/-- What the places of a text are filled with. -/
inductive Arguments where
  | inTurn (values : List Value)
  | byKey (entries : List (Value × Value))

structure Place where
  left : Bool
  plus : Bool
  blank : Bool
  marked : Bool
  zero : Bool
  width : Nat
  precision : Option Nat

def Place.plain : Place := ⟨false, false, false, false, false, 0, none⟩

/-- The values that are still to be used, and the map that keys are looked up in. -/
structure Supply where
  pending : List Value
  entries : Option (List (Value × Value))

/-- The supply that arguments make: a map without keys in the text is itself the one value. -/
def Supply.ofArguments : Arguments → Supply
  | .inTurn values => ⟨values, none⟩
  | .byKey entries => ⟨[.map entries], some entries⟩

def Supply.next (s : Supply) : Except Fault (Value × Supply) :=
  match s.pending with
  | v :: rest => .ok (v, { s with pending := rest })
  | [] => .error .wrongType

def takeFlags (p : Place) : List Char → Place × List Char
  | [] => (p, [])
  | c :: cs =>
    if c = '-' then takeFlags { p with left := true } cs
    else if c = '+' then takeFlags { p with plus := true } cs
    else if c = ' ' then takeFlags { p with blank := true } cs
    else if c = '#' then takeFlags { p with marked := true } cs
    else if c = '0' then takeFlags { p with zero := true } cs
    else (p, c :: cs)

/-- The characters up to the parenthesis that closes the one before them, and what follows it. -/
def takeKey : Nat → List Char → Option (List Char × List Char)
  | _, [] => none
  | depth, c :: cs =>
    if c = ')' then
      match depth with
      | 0 => some ([], cs)
      | depth + 1 => (takeKey depth cs).map fun (key, rest) => (c :: key, rest)
    else (takeKey (if c = '(' then depth + 1 else depth) cs).map fun (key, rest) => (c :: key, rest)

def amountOf : Value → Except Fault Int
  | .int n => if n.natAbs < word then .ok n else .error .tooLargeInteger
  | .bool b => .ok (if b then 1 else 0)
  | _ => .error .wrongType

def takeWidth (p : Place) (s : Supply) (cs : List Char) : Except Fault (Place × Supply × List Char) :=
  match cs with
  | '*' :: rest => do
    let (v, s) ← s.next
    let n ← amountOf v
    return ({ p with width := n.natAbs, left := p.left || decide (n < 0) }, s, rest)
  | _ =>
    let n := digitsValue (cs.takeWhile isDigit)
    if word ≤ n then .error (.badFormat "width too big")
    else .ok ({ p with width := n }, s, cs.dropWhile isDigit)

/-- The precision of a place, if a point begins it. -/
def takePrecision (p : Place) (s : Supply) (cs : List Char) :
    Except Fault (Place × Supply × List Char) :=
  match cs with
  | '.' :: '*' :: rest => do
    let (v, s) ← s.next
    let n ← amountOf v
    return ({ p with precision := some n.toNat }, s, rest)
  | '.' :: rest =>
    let n := digitsValue (rest.takeWhile isDigit)
    if halfWord ≤ n then .error (.badFormat "precision too big")
    else .ok ({ p with precision := some n }, s, rest.dropWhile isDigit)
  | _ => .ok (p, s, cs)

def pad (p : Place) (s : String) : String := if p.left then padEnd p.width s else padStart p.width s

/-- A number of a place: sign, mark of its base and digits, with zeros between them or blanks around
them up to the width. -/
def padNumber (p : Place) (negative : Bool) (mark digits : String) : String :=
  let sign := if negative then "-" else if p.plus then "+" else if p.blank then " " else ""
  let front := sign ++ mark
  if p.zero && !p.left then front ++ zeros (p.width - front.length - digits.length) ++ digits
  else pad p (front ++ digits)

def digitsIn (base : Nat) (n : Nat) : String := String.ofList (Nat.toDigits base n)

/-- Text in capital letters, as the letter of a place asks. -/
def capital (letter : Char) (s : String) : String :=
  if letter.isUpper then String.ofList (s.toList.map Char.toUpper) else s

/-- The integer that a value gives; for bases other than ten it has to be one. -/
def integerOf (letter : Char) : Value → Except Fault Int
  | .int n => .ok n
  | .bool b => .ok (if b then 1 else 0)
  | .float x =>
    if letter = 'o' || letter = 'x' || letter = 'X' then .error .wrongType
    else
      match x with
      | .nan => .error .notANumberInteger
      | .infinite _ => .error .infiniteInteger
      | x => .ok (x.truncate?.getD 0)
  | _ => .error .wrongType

def integerText (p : Place) (letter : Char) (v : Value) : Except Fault String := do
  let n ← integerOf letter v
  let (digits, mark) ←
    match letter with
    | 'o' => pure (digitsIn 8 n.natAbs, "0o")
    | 'x' | 'X' => pure (capital letter (digitsIn 16 n.natAbs), "0" ++ String.ofList [letter])
    | _ => do pure (← Fault.ofNumeral (writeInt n.natAbs), "")
  let digits := zeros (p.precision.getD 0 - digits.length) ++ digits
  return padNumber p (decide (n < 0)) (if p.marked then mark else "") digits

def floatOf : Value → Except Fault Binary64
  | .float x => .ok x
  | .bool b => .ok (.ofInt (if b then 1 else 0))
  | .int n =>
    match Binary64.ofInt n with
    | .infinite _ => .error .tooLargeFloat
    | x => .ok x
  | _ => .error .wrongType

def floatText (p : Place) (letter : Char) (v : Value) : Except Fault String := do
  match ← floatOf v with
  | .nan => return padNumber p false "" (capital letter "nan")
  | .infinite negative => return padNumber p negative "" (capital letter "inf")
  | .finite negative m e =>
    let places := p.precision.getD 6
    let digits :=
      match letter.toLower with
      | 'e' => exponentialText p.marked places (magnitude m e)
      | 'f' => fixedText p.marked places (magnitude m e)
      | _ => generalText p.marked places (magnitude m e)
    return padNumber p negative "" (capital letter digits)

/-- The literal with an escape for every character outside ASCII. -/
def asciiLiteral (s : String) : String :=
  String.ofList (s.toList.flatMap fun c => if c.toNat < 128 then [c] else escapeCode c.toNat)

/-- A text in a place, cut to the precision. -/
def textIn (p : Place) (s : String) : String :=
  pad p (match p.precision with
    | some n => String.ofList (s.toList.take n)
    | none => s)

def characterText (p : Place) (v : Value) : Except Fault String :=
  let one (n : Int) : Except Fault String :=
    if 0 ≤ n && n < 0x110000 then .ok (pad p (String.ofList [Char.ofNat n.toNat]))
    else .error .notCharacter
  match v with
  | .text s => if s.length = 1 then .ok (pad p s) else .error .wrongType
  | .int n => one n
  | .bool b => one (if b then 1 else 0)
  | _ => .error .wrongType

/-- The value of a place as its letter asks. `index` is where the letter stands in the text. -/
def fill (p : Place) (letter : Char) (index : Nat) (v : Value) : Except Fault String :=
  if letter = 's' then do return textIn p (← Fault.ofText v.display)
  else if letter = 'r' then do return textIn p (← Fault.ofText v.literal)
  else if letter = 'a' then do return textIn p (asciiLiteral (← Fault.ofText v.literal))
  else if "diuoxX".toList.contains letter then integerText p letter v
  else if "eEfFgG".toList.contains letter then floatText p letter v
  else if letter = 'c' then characterText p v
  else
    let n := letter.toNat
    let shown := if 31 ≤ n && n < 126 then letter else '?'
    .error (.badFormat ("unsupported format character '" ++ String.ofList [shown] ++ "' (0x" ++
      digitsIn 16 n ++ s!") at index {index}"))

/-- What a place begins with: the supply after a key, if there is one. -/
def openPlace (s : Supply) (cs : List Char) : Except Fault (Supply × List Char) :=
  match cs with
  | '(' :: rest =>
    match s.entries with
    | none => .error .wrongType
    | some entries =>
      match takeKey 0 rest with
      | none => .error (.badFormat "incomplete format key")
      | some (key, rest) =>
        match Value.entry? entries (String.ofList key) with
        | none => .error (.missingKey (.text (String.ofList key)))
        | some v => .ok ({ s with pending := [v] }, rest)
  | _ => .ok (s, cs)

/-- One place, filled, and what follows it. `total` is the length of the whole text. -/
def fillPlace (total : Nat) (s : Supply) (cs : List Char) :
    Except Fault (String × Supply × List Char) := do
  let (s, cs) ← openPlace s cs
  let (p, cs) := takeFlags .plain cs
  let (p, s, cs) ← takeWidth p s cs
  let (p, s, cs) ← takePrecision p s cs
  let cs :=
    match cs with
    | c :: rest => if c = 'h' || c = 'l' || c = 'L' then rest else cs
    | [] => []
  match cs with
  | [] => throw (.badFormat "incomplete format")
  | letter :: rest => do
    let (v, s) ← s.next
    return (← fill p letter (total - rest.length - 1) v, s, rest)

/-- The text with its places filled, within `fuel` steps. -/
def fillAll (total : Nat) : Nat → Supply → List Char → Except Fault (String × Supply)
  | 0, s, _ | _, s, [] => .ok ("", s)
  | fuel + 1, s, '%' :: '%' :: cs => do
    let (rest, s) ← fillAll total fuel s cs
    return ("%" ++ rest, s)
  | fuel + 1, s, '%' :: cs => do
    let (here, s, cs) ← fillPlace total s cs
    let (rest, s) ← fillAll total fuel s cs
    return (here ++ rest, s)
  | fuel + 1, s, c :: cs => do
    let (rest, s) ← fillAll total fuel s cs
    return (String.ofList [c] ++ rest, s)

/-- The text with its places filled; every value that stands in turn has to be used. -/
def render (text : String) (arguments : Arguments) : Except Fault String := do
  let cs := text.toList
  let (filled, s) ← fillAll cs.length (cs.length + 1) (.ofArguments arguments) cs
  match arguments, s.pending with
  | .inTurn _, _ :: _ => throw .wrongType
  | _, _ => return filled

end Template

end WarehouseSchema
