import WarehouseSchema.Fault

/-!
A place in a YAML text, with the line and column that indentation and simple keys depend on, and the
classes of characters that matter there.
-/

namespace WarehouseSchema.Yaml

/-- A line feed, next line, line separator or paragraph separator. -/
def isBreak (c : Char) : Bool :=
  c == '\n' || c == '\r' || c.toNat == 0x85 || c.toNat == 0x2028 || c.toNat == 0x2029

/-- The mark that may stand before a text and takes no column. -/
def isByteOrderMark (c : Char) : Bool := c.toNat == 0xFEFF

/-- A character that may stand in a document. -/
def isAdmitted (c : Char) : Bool :=
  let n := c.toNat
  n == 9 || n == 10 || n == 13 || (0x20 ≤ n && n ≤ 0x7E) || n == 0x85 ||
    (0xA0 ≤ n && n ≤ 0xD7FF) || (0xE000 ≤ n && n ≤ 0xFFFD) || 0x10000 ≤ n

def isWordChar (c : Char) : Bool :=
  ('0' ≤ c && c ≤ '9') || ('A' ≤ c && c ≤ 'Z') || ('a' ≤ c && c ≤ 'z') || c == '-' || c == '_'

def isAddressChar (c : Char) : Bool := isWordChar c || ";/?:@&=+$,.!~*'()[]%".toList.contains c

def hexValue? (c : Char) : Option Nat :=
  if '0' ≤ c && c ≤ '9' then some (c.toNat - 48)
  else if 'a' ≤ c && c ≤ 'f' then some (c.toNat - 87)
  else if 'A' ≤ c && c ≤ 'F' then some (c.toNat - 55)
  else none

def hexNumber? (cs : List Char) : Option Nat :=
  cs.foldlM (fun n c => (hexValue? c).map (16 * n + ·)) 0

def endsLine : Option Char → Bool
  | none => true
  | some c => isBreak c

/-- Whether a text or a line ends here, or a space follows. -/
def endsWord (c? : Option Char) : Bool := endsLine c? || c? == some ' '

/-- Whether a text or a line ends here, or a space or tab follows. -/
def endsToken (c? : Option Char) : Bool := endsWord c? || c? == some '\t'

/-- A place in a text: the characters from there on, and how many came before it. -/
structure Cursor where
  rest : List Char
  index : Nat
  line : Nat
  column : Nat

namespace Cursor

def start (cs : List Char) : Cursor := ⟨cs, 0, 0, 0⟩

def peek (c : Cursor) : Option Char := c.rest.head?

def peekAt (c : Cursor) (k : Nat) : Option Char := c.rest[k]?

def next (c : Cursor) : Cursor :=
  match c.rest with
  | [] => c
  | ch :: rest =>
    if ch == '\r' && rest.head? == some '\n' then ⟨rest, c.index + 1, c.line, c.column + 1⟩
    else if isBreak ch then ⟨rest, c.index + 1, c.line + 1, 0⟩
    else if isByteOrderMark ch then ⟨rest, c.index + 1, c.line, c.column⟩
    else ⟨rest, c.index + 1, c.line, c.column + 1⟩

def skip : Nat → Cursor → Cursor
  | 0, c => c
  | n + 1, c => skip n c.next

def run (p : Char → Bool) (c : Cursor) : List Char := c.rest.takeWhile p

def skipRun (p : Char → Bool) (c : Cursor) : Cursor := c.skip (c.run p).length

def skipSpaces (c : Cursor) : Cursor := c.skipRun (· == ' ')

def skipLine (c : Cursor) : Cursor := c.skipRun fun ch => !isBreak ch

/-- The place behind a comment that starts here, if one does. -/
def skipComment (c : Cursor) : Cursor := if c.peek == some '#' then c.skipLine else c

/-- A line break as part of a text, and the place behind it; separators of lines and paragraphs stay
what they are. -/
def takeBreak (c : Cursor) : List Char × Cursor :=
  match c.rest with
  | '\r' :: '\n' :: _ => (['\n'], c.skip 2)
  | ch :: _ =>
    if ch.toNat == 0x2028 || ch.toNat == 0x2029 then ([ch], c.next)
    else if isBreak ch then (['\n'], c.next)
    else ([], c)
  | [] => ([], c)

/-- Whether three such characters and the end of a token follow, as before or after a document. -/
def atMarker (mark : Char) (c : Cursor) : Bool :=
  c.rest.take 3 == [mark, mark, mark] && endsToken (c.peekAt 3)

/-- Whether a mark of the beginning or end of a document follows. -/
def atDocumentMarker (c : Cursor) : Bool := c.atMarker '-' || c.atMarker '.'

end Cursor

end WarehouseSchema.Yaml
