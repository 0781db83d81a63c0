import WarehouseSchema.Calendar
import WarehouseSchema.Number.Reading
import WarehouseSchema.Number.Shortest

/-!
Values of documents, options and catalog rows, whose shape is not known in advance. `literal` writes
a value so that its kind can be seen, `display` writes a text as it is and everything else as its
literal. An integer with too many digits has no literal, and neither has a value that holds one.
-/

namespace WarehouseSchema

open Text Number

/-- A value of a document, of an option or of a catalog field. -/
inductive Value where
  | null
  | bool (b : Bool)
  | int (n : Int)
  | float (x : Binary64)
  | text (s : String)
  | list (items : List Value)
  | tuple (items : List Value)
  | map (entries : List (Value × Value))
  | set (items : List Value)
  | date (d : Date)
  | moment (m : Moment)
  | octets (bytes : List UInt8)
  deriving Repr, Inhabited

inductive TextFault where
  | numeral (fault : NumeralFault)
  | tooDeep
  deriving DecidableEq, Repr

def TextFault.ofNumeral {α : Type} : Except NumeralFault α → Except TextFault α
  | .ok a => .ok a
  | .error fault => .error (.numeral fault)

namespace Value

def kind : Value → String
  | .null => "NoneType"
  | .bool _ => "bool"
  | .int _ => "int"
  | .float _ => "float"
  | .text _ => "str"
  | .list _ => "list"
  | .tuple _ => "tuple"
  | .map _ => "dict"
  | .set _ => "set"
  | .date _ => "date"
  | .moment _ => "datetime"
  | .octets _ => "bytes"

/-- Empty collections and texts, zeros, `false` and `null` count as false, all else as true. -/
def isTruthy : Value → Bool
  | .null => false
  | .bool b => b
  | .int n => n ≠ 0
  | .float x => !x.isZero
  | .text s => s ≠ ""
  | .list items | .tuple items | .set items => !items.isEmpty
  | .map entries => !entries.isEmpty
  | .date _ | .moment _ => true
  | .octets bytes => !bytes.isEmpty

def boolLiteral (b : Bool) : String := if b then "True" else "False"

/-- The count of nested values, the outermost one included, that can be written. They share the 1000 places
of the interpreter's stack with the calls that lead to the writing. -/
def depthLimit : Nat := 980

mutual

/-- The literal of a value for which `room` levels are left. -/
def literalWithin (room : Nat) (v : Value) : Except TextFault String :=
  match room, v with
  | 0, _ => throw .tooDeep
  | _ + 1, .null => return "None"
  | _ + 1, .bool b => return boolLiteral b
  | _ + 1, .int n => TextFault.ofNumeral (writeInt n)
  | _ + 1, .float x => return x.text
  | _ + 1, .text s => return Text.literal s
  | room + 1, .list items => do
    return "[" ++ ", ".intercalate (← literalsWithin room items) ++ "]"
  | room + 1, .tuple items => do
    let parts ← literalsWithin room items
    return "(" ++ ", ".intercalate parts ++ (if parts.length = 1 then ",)" else ")")
  | room + 1, .map entries => do
    return "\x7b" ++ ", ".intercalate (← entryLiteralsWithin room entries) ++ "\x7d"
  -- A set is written by way of the list of its items.
  | room + 1, .set items => do
    let parts ← literalsWithin (room - 1) items
    return if parts.isEmpty then "set()" else "\x7b" ++ ", ".intercalate parts ++ "\x7d"
  | _ + 1, .date d => return d.literal
  | _ + 1, .moment m => return m.literal
  | _ + 1, .octets bytes => return octetsLiteral bytes

def literalsWithin (room : Nat) : List Value → Except TextFault (List String)
  | [] => return []
  | v :: vs => do return (← literalWithin room v) :: (← literalsWithin room vs)

def entryLiteralsWithin (room : Nat) : List (Value × Value) → Except TextFault (List String)
  | [] => return []
  | (k, v) :: rest => do
    return ((← literalWithin room k) ++ ": " ++ (← literalWithin room v)) ::
      (← entryLiteralsWithin room rest)

end

def literal (v : Value) : Except TextFault String := v.literalWithin depthLimit

/-- The value as text: a text and a date as they are, everything else as its literal. -/
def display : Value → Except TextFault String
  | .text s => return s
  | .date d => return d.text
  | .moment m => return m.text " "
  | v => v.literal

/-- The whole number that a truth value, an integer or a whole floating-point number is. -/
def whole? : Value → Option Int
  | .bool b => some (if b then 1 else 0)
  | .int n => some n
  | .float x => if x.isWhole then x.truncate? else none
  | _ => none

/-- Whether two values are one key of a map: numbers count by their value and moments with an offset
by the instant. -/
def sameKey (a b : Value) : Bool :=
  match a, b with
  | .null, .null => true
  | .text s, .text t => s == t
  | .date d, .date e => d == e
  | .moment m, .moment n => m.sameInstant n
  | .octets xs, .octets ys => xs == ys
  | .float x, .float y => x == y || (a.whole?.isSome && a.whole? == b.whole?)
  | _, _ => a.whole?.isSome && a.whole? == b.whole?

/-- The entries with `value` under `key`: in place of an earlier value, else at the end. -/
def putEntry (entries : List (Value × Value)) (key value : Value) : List (Value × Value) :=
  if entries.any fun e => e.1.sameKey key then
    entries.map fun e => if e.1.sameKey key then (e.1, value) else e
  else entries ++ [(key, value)]

def text? : Value → Option String
  | .text s => some s
  | _ => none

def isText (v : Value) (s : String) : Bool := v.text? == some s

theorem isText_iff {v : Value} {s : String} : v.isText s = true ↔ v = .text s := by
  cases v <;> simp [isText, text?]

/-- The value under a text key of a map. -/
def entry? (entries : List (Value × Value)) (name : String) : Option Value :=
  (entries.find? fun e => e.1.isText name).map (·.2)

/-- A text without blanks at its ends; other values are left alone. -/
def trimmed : Value → Value
  | .text s => .text (trim s)
  | v => v

end Value

/-- Named values in the order in which they were given: options, a catalog row, a document. -/
abbrev Record := List (String × Value)

namespace Record

def find? (r : Record) (name : String) : Option Value := r.lookup name

/-- The value under exactly this name, `null` when there is none. -/
def get (r : Record) (name : String) : Value := (r.find? name).getD .null

/-- The value under this name or else under the first name that equals it in lower case. -/
def findAnyCase? (r : Record) (name : String) : Option Value :=
  match r.find? name with
  | some v => some v
  | none => (List.find? (fun entry => Text.lower entry.1 == Text.lower name) r).map (·.2)

/-- The value under a name in any letter case, `default` when there is none. -/
def getAnyCase (r : Record) (name : String) (default : Value) : Value :=
  (r.findAnyCase? name).getD default

/-- The record with `value` under `name`: in place of an earlier value, else at the end. -/
def put (r : Record) (name : String) (value : Value) : Record :=
  if r.any (·.1 == name) then r.map fun e => if e.1 == name then (name, value) else e
  else r ++ [(name, value)]

def erase (r : Record) (name : String) : Record := List.filter (fun e => e.1 != name) r

/-- The record updated by the entries of another, one after the other. -/
def merge (r other : Record) : Record := List.foldl (fun r e => r.put e.1 e.2) r other

end Record

end WarehouseSchema
