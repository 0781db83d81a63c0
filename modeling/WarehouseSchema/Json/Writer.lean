import WarehouseSchema.Fault

/-!
Values as JSON text in ASCII: a blank after every comma and colon, and an escape for each character
outside the visible ASCII ones.
-/

namespace WarehouseSchema.Json

open Text Number

def escapeUnit (n : Nat) : List Char := '\\' :: 'u' :: hexDigits 4 n

/-- The escapes of a character without a short one: a unit, or the two units of a pair. -/
def escapeChar (c : Char) : List Char :=
  let n := c.toNat
  if n < 0x10000 then escapeUnit n
  else
    let rest := n - 0x10000
    escapeUnit (0xD800 + rest / 0x400) ++ escapeUnit (0xDC00 + rest % 0x400)

def shortEscapes : List (Char × Char) :=
  [('"', '"'), ('\\', '\\'), ('\n', 'n'), ('\r', 'r'), ('\t', 't'), ('\x08', 'b'), ('\x0c', 'f')]

def quotedChar (c : Char) : List Char :=
  match shortEscapes.lookup c with
  | some letter => ['\\', letter]
  | none => if 32 ≤ c.toNat && c.toNat < 127 then [c] else escapeChar c

def quoted (s : String) : String :=
  String.ofList ('"' :: s.toList.flatMap quotedChar ++ ['"'])

def floatText : Binary64 → String
  | .nan => "NaN"
  | .infinite negative => signText negative ++ "Infinity"
  | x => x.text

/-- The text of a key; a collection, a date or octets cannot be one. -/
def keyText : Value → Except Fault String
  | .text s => return s
  | .null => return "null"
  | .bool b => return if b then "true" else "false"
  | .int n => Fault.ofNumeral (writeInt n)
  | .float x => return floatText x
  | _ => throw .wrongType

mutual

/-- A value for which `room` levels are left as JSON text; a kind that JSON lacks is written as the text of
the value. -/
def writeWithin (room : Nat) (v : Value) : Except Fault String :=
  match room, v with
  | _, .null => return "null"
  | _, .bool b => return if b then "true" else "false"
  | _, .int n => Fault.ofNumeral (writeInt n)
  | _, .float x => return floatText x
  | _, .text s => return quoted s
  | 0, _ => throw .recursion
  | room + 1, .list items | room + 1, .tuple items => do
    return "[" ++ ", ".intercalate (← writeItems room items) ++ "]"
  | room + 1, .map entries => do
    return "\x7b" ++ ", ".intercalate (← writeEntries room entries) ++ "\x7d"
  | _ + 1, .set items => do return quoted (← Fault.ofText (Value.set items).display)
  | _ + 1, .date d => do return quoted (← Fault.ofText (Value.date d).display)
  | _ + 1, .moment m => do return quoted (← Fault.ofText (Value.moment m).display)
  | _ + 1, .octets bytes => do return quoted (← Fault.ofText (Value.octets bytes).display)

def writeItems (room : Nat) : List Value → Except Fault (List String)
  | [] => return []
  | v :: vs => do return (← writeWithin room v) :: (← writeItems room vs)

def writeEntries (room : Nat) : List (Value × Value) → Except Fault (List String)
  | [] => return []
  | (k, v) :: rest => do
    return (quoted (← keyText k) ++ ": " ++ (← writeWithin room v)) :: (← writeEntries room rest)

end

def write (v : Value) : Except Fault String := writeWithin Value.depthLimit v

end WarehouseSchema.Json
