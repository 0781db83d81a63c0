import WarehouseSchema.Fault
import WarehouseSchema.Number.Power

/-!
Checks of the shape of a document. A reader takes a value to what it stands for, or to a report of
all places that do not fit; reports of neighbouring places add up. Readers are lenient: a truth value
may be written as a number or a word, an integer as text.
-/

namespace WarehouseSchema

open Text Number

/-- What a reader found, or all places where the document does not fit. -/
abbrev Checked (α : Type) := Except ShapeReport α

namespace Checked

def refuse {α : Type} (fault : ShapeFault) : Checked α := .error [([], fault)]

/-- Puts a step in front of every place of a report. -/
def under {α : Type} (step : String) : Checked α → Checked α
  | .ok a => .ok a
  | .error report => .error (report.map fun place => (step :: place.1, place.2))

/-- Applies a function, both reports being kept when function and argument are refused. -/
def apply {α β : Type} : Checked (α → β) → Checked α → Checked β
  | .ok f, .ok a => .ok (f a)
  | .ok _, .error report => .error report
  | .error report, .ok _ => .error report
  | .error report, .error more => .error (report ++ more)

/-- Keeps a value if a second check passes too. -/
def alongside {α : Type} (r : Checked α) (check : Checked Unit) : Checked α :=
  apply (apply (.ok fun a _ => a) r) check

/-- Reads all items, each under its index counted from `start`. -/
def itemsFrom {α : Type} (read : Value → Checked α) : Nat → List Value → Checked (List α)
  | _, [] => .ok []
  | start, v :: vs =>
    apply (apply (.ok List.cons) (under (natText start) (read v))) (itemsFrom read (start + 1) vs)

def orFault {α : Type} : Checked α → Except Fault α
  | .ok a => .ok a
  | .error report => .error (.shape report)

theorem itemsFrom_ok {α β : Type} {read : Value → Checked α} {write : β → Value} {f : β → α}
    (h : ∀ b, read (write b) = .ok (f b)) (items : List β) (start : Nat) :
    itemsFrom read start (items.map write) = .ok (items.map f) := by
  induction items generalizing start with
  | nil => rfl
  | cons b items ih => simp [itemsFrom, h, ih, under, apply]

end Checked

/-- The step of a report for the key of a map: a truth value counts as a number. -/
def Value.stepText (key : Value) : String :=
  match key with
  | .text s => s
  | .bool b => if b then "1" else "0"
  | .int n => intText n
  | v => v.literal.toOption.getD ""

namespace Shape

/-- A text, or octets that are one in UTF-8. -/
def readText : Value → Checked String
  | .text s => .ok s
  | .octets bytes =>
    match String.fromUTF8? ⟨bytes.toArray⟩ with
    | some s => .ok s
    | none => Checked.refuse .stringUnicode
  | _ => Checked.refuse .stringType

def truthWords : List (String × Bool) :=
  [("0", false), ("f", false), ("n", false), ("no", false), ("off", false), ("false", false),
   ("1", true), ("t", true), ("y", true), ("on", true), ("yes", true), ("true", true)]

/-- The truth value that a word names in any case of its ASCII letters. -/
def truthOfWord (s : String) : Checked Bool :=
  match truthWords.lookup (String.ofList (s.toList.map Char.toLower)) with
  | some b => .ok b
  | none => Checked.refuse .boolParsing

/-- The least integer that takes more than 64 bits with its sign. -/
def wordLimit : Int := (Number.word : Nat)

/-- A truth value written as a number: zero or one. -/
def truthOfInt (n : Int) : Checked Bool :=
  if n = 0 then .ok false
  else if n = 1 then .ok true
  else if -wordLimit ≤ n && n < wordLimit then Checked.refuse .boolParsing
  else Checked.refuse .boolType

/-- A truth value, or a word or number that names one. -/
def readBool : Value → Checked Bool
  | .bool b => .ok b
  | .text s => truthOfWord s
  | .octets bytes =>
    match String.fromUTF8? ⟨bytes.toArray⟩ with
    | some s => truthOfWord s
    | none => Checked.refuse .boolParsing
  | .int n => truthOfInt n
  | .float x =>
    match x.truncate? with
    | some n => if x.isWhole then truthOfInt n else Checked.refuse .boolType
    | none => Checked.refuse .boolType
  | _ => Checked.refuse .boolType

/-- The digits of an integer text without its leading zeros; an underscore may follow a leading
zero. -/
def dropLeadingZeros (cs : List Char) : Option (List Char) :=
  match cs with
  | '0' :: rest =>
    match rest.dropWhile fun c => c == '0' || c == '_' with
    | [] => some (cs.drop (cs.length - 1))
    | c :: more => if '1' ≤ c && c ≤ '9' then some (c :: more) else none
  | c :: _ => if ('1' ≤ c && c ≤ '9') || c == '-' then some cs else none
  | [] => none

/-- Drops underscores that stand alone between other characters. -/
def dropUnderscores (cs : List Char) : List Char :=
  if cs.head? = some '_' || cs.getLast? = some '_' || occursIn ['_', '_'] cs then cs
  else cs.filter (· != '_')

/-- An optional minus and digits without a leading zero. -/
def plainInt (cs : List Char) : Checked Int :=
  let (negative, ds) :=
    match cs with
    | '-' :: ds => (true, ds)
    | ds => (false, ds)
  if ds = [] || !ds.all isDigit || (ds.head? = some '0' && 1 < ds.length) then
    Checked.refuse .intParsing
  else if digitLimit < ds.length then Checked.refuse .intParsingSize
  else
    let n : Int := digitsValue ds
    .ok (if negative then -n else n)

/-- The integer that a text writes: blanks around it, a plus, leading zeros, single underscores and
a fraction of zeros do not count. -/
def intOfText (s : String) : Checked Int :=
  let body := trimNumeral s.toList
  let unsigned :=
    match body with
    | '+' :: '-' :: _ => []
    | '+' :: cs => cs
    | cs => cs
  let whole := unsigned.takeWhile (· != '.')
  let digits := if (unsigned.dropWhile (· != '.')).drop 1 |>.all (· == '0') then whole else unsigned
  match dropLeadingZeros digits with
  | none => Checked.refuse .intParsing
  | some ds => plainInt (dropUnderscores ds)

/-- An integer, or a truth value, whole number or text that stands for one. -/
def readInt : Value → Checked Int
  | .int n => .ok n
  | .bool b => .ok (if b then 1 else 0)
  | .text s => intOfText s
  | .octets bytes =>
    match String.fromUTF8? ⟨bytes.toArray⟩ with
    | some s => intOfText s
    | none => Checked.refuse .intParsing
  | .float x =>
    match x.truncate? with
    | none => Checked.refuse .finiteNumber
    | some n =>
      if !x.isWhole then Checked.refuse .intFromFloat
      else if -wordLimit ≤ n && n < wordLimit then .ok n
      else Checked.refuse .intParsingSize
  | _ => Checked.refuse .intType

/-- An integer from `least` to `greatest`. -/
def readIntWithin (least greatest : Int) (v : Value) : Checked Int :=
  match readInt v with
  | .error report => .error report
  | .ok n =>
    if n < least then Checked.refuse .atLeast
    else if greatest < n then Checked.refuse .atMost
    else .ok n

def readItems {α : Type} (read : Value → Checked α) : Value → Checked (List α)
  | .list items | .tuple items | .set items => Checked.itemsFrom read 0 items
  | _ => Checked.refuse .listType

def required {α : Type} (entries : List (Value × Value)) (name : String)
    (read : Value → Checked α) : Checked α :=
  Checked.under name <|
    match Value.entry? entries name with
    | some v => read v
    | none => Checked.refuse .missing

def optional {α : Type} (entries : List (Value × Value)) (name : String) (default : α)
    (read : Value → Checked α) : Checked α :=
  match Value.entry? entries name with
  | some v => Checked.under name (read v)
  | none => .ok default

/-- Refuses keys that are not texts, and text keys outside `allowed` where only those may stand. -/
def checkKeys (allowed : Option (List String)) : List (Value × Value) → Checked Unit
  | [] => .ok ()
  | (key, _) :: rest =>
    let here : Checked Unit :=
      match key.text?, allowed with
      | none, _ => Checked.under key.stepText (Checked.refuse .invalidKey)
      | some name, some names =>
        if names.contains name then .ok ()
        else Checked.under name (Checked.refuse .extraForbidden)
      | some _, none => .ok ()
    Checked.alongside here (checkKeys allowed rest)

end Shape

end WarehouseSchema
