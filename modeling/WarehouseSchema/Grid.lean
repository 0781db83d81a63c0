import WarehouseSchema.Fault
import WarehouseSchema.Number.Places

/-!
Grids: tables of text with ruled cells. A column of numbers is aligned at the decimal point and any
other column at its left edge; a column is two characters wider than its header at least. When a cell
of the grid has several lines, so can every row.
-/

namespace WarehouseSchema

open Text Number

inductive Cell where
  | absent
  | truth (b : Bool)
  | text (s : String)
  deriving DecidableEq, Repr

namespace Cell

def ofOption : Option String → Cell
  | none => .absent
  | some s => .text s

end Cell

/-- What the cells of a column have in common. A kind includes those before it. -/
inductive CellKind where
  | absent
  | truth
  | integer
  | number
  | text
  deriving DecidableEq, Repr

namespace CellKind

def rank : CellKind → Nat
  | absent => 0
  | truth => 1
  | integer => 2
  | number => 3
  | text => 4

def join (a b : CellKind) : CellKind := if a.rank < b.rank then b else a

/-- Whether a column of this kind is aligned at the decimal point. -/
def isNumeric (k : CellKind) : Bool := k = integer || k = number

/-- Whether a text writes a floating-point number. Infinity and what is no number count in their
shortest spelling only. -/
def isNumberText (s : String) : Bool :=
  match readFloat? s with
  | some (.finite ..) => true
  | some _ => ["inf", "-inf", "nan"].contains (lower s)
  | none => false

def ofText (s : String) : CellKind :=
  if s = "True" || s = "False" then truth
  else if (readInt s).toOption.isSome then integer
  else if isNumberText s then number
  else text

def ofCell : Cell → CellKind
  | .absent => absent
  | .truth _ => truth
  | .text s => ofText s

/-- The kind of a column; one without texts is a column of truth values. -/
def ofCells (cells : List Cell) : CellKind := cells.foldl (fun k c => k.join (ofCell c)) truth

end CellKind

namespace Grid

/-- A floating-point number with six digits. -/
def numberText : Binary64 → String
  | .nan => "nan"
  | .infinite negative => if negative then "-inf" else "inf"
  | .finite negative m e => (if negative then "-" else "") ++ generalText false 6 (magnitude m e)

/-- The text of a cell in a column of a kind. A word of truth has none among floating-point
numbers. -/
def cellText (kind : CellKind) : Cell → Except Fault String
  | .absent => .ok ""
  | .truth b => .ok (if b then "True" else "False")
  | .text s =>
    if kind = .number then
      match readFloat? s with
      | some x => .ok (numberText x)
      | none => .error (.notNumber s)
    else .ok s

/-- How many characters a number has behind its decimal point, or else behind the mark of its
exponent; `none` for what has neither. -/
def placesOf (s : String) : Option Nat :=
  if CellKind.ofText s ≠ .number then none
  else
    let behind (isMark : Char → Bool) : Option Nat :=
      if s.toList.any isMark then some (s.toList.reverse.takeWhile fun c => !isMark c).length
      else none
    behind (· == '.') <|> behind fun c => c == 'e' || c == 'E'

/-- The count of blanks behind a number that has no place where another has some. -/
def placesWithPoint (s : String) : Nat :=
  match placesOf s with
  | some n => n + 1
  | none => 0

/-- Texts with blanks behind them so that their decimal points stand at the same distance from the
end. -/
def alignPoints (texts : List String) : List String :=
  let most := (texts.map placesWithPoint).foldl max 0
  texts.map fun s => s ++ repeated ' ' (most - placesWithPoint s)

def endsLine (c : Char) : Bool := c = '\n' || c = '\r'

def endsCellLine (c : Char) : Bool :=
  endsLine c || [11, 12, 28, 29, 30, 133, 8232, 8233].contains c.toNat

/-- The lines of a cell; a line end at its end starts no further line. -/
def cellLines : List Char → List (List Char)
  | [] => []
  | '\r' :: '\n' :: cs => [] :: cellLines cs
  | c :: cs =>
    if endsCellLine c then [] :: cellLines cs
    else
      match cellLines cs with
      | line :: lines => (c :: line) :: lines
      | [] => [[c]]

/-- The length of the longest line of a text. -/
def widthOf (s : String) : Nat :=
  let step (state : Nat × Nat) (c : Char) : Nat × Nat :=
    if endsLine c then (0, state.2) else (state.1 + 1, max (state.1 + 1) state.2)
  (s.toList.foldl step (0, 0)).2

/-- A column as it is laid out: its width, the lines of its header and those of its cells. -/
structure LaidColumn where
  width : Nat
  header : List String
  cells : List (List String)

def layColumn (severalLines : Bool) (header : String) (cells : List Cell) :
    Except Fault LaidColumn := do
  let kind := CellKind.ofCells cells
  let texts ← cells.mapM (cellText kind)
  let texts := if kind.isNumeric then alignPoints texts else texts.map trim
  let width := (texts.map widthOf).foldl max (header.length + 2)
  let pad := if kind.isNumeric then padStart width else padEnd width
  let linesOf (s : String) : List String :=
    if severalLines then (cellLines s.toList).map String.ofList else [s]
  return ⟨width, [pad header], texts.map fun s => (linesOf s).map pad⟩

def rule (fill : Char) (widths : List Nat) : String :=
  "+" ++ "+".intercalate (widths.map fun w => repeated fill (w + 2)) ++ "+"

/-- The lines of a row, whose cells come with the width of their column. -/
def rowLines (cells : List (Nat × List String)) : List String :=
  let height := (cells.map fun c => c.2.length).foldl max 0
  (List.range height).map fun k =>
    "| " ++ " | ".intercalate (cells.map fun c => c.2.getD k (repeated ' ' c.1)) ++ " |"

/-- Rows as columns, or columns as rows: one list for each of the `count` places. -/
def turned {α : Type} (count : Nat) (rows : List (List α)) : List (List α) :=
  rows.foldr (List.zipWith (· :: ·)) (List.replicate count [])

def render (headers : List String) (rows : List (List Cell)) : Except Fault String := do
  let severalLines := rows.any fun row => row.any fun cell =>
    match cell with
    | .text s => s.toList.any endsLine
    | _ => false
  let columns ← (headers.zip (turned headers.length rows)).mapM fun c =>
    layColumn severalLines c.1 c.2
  let widths := columns.map (·.width)
  let bodies := (turned rows.length (columns.map (·.cells))).map fun row =>
    rowLines (widths.zip row)
  let top := rule '-' widths :: rowLines (widths.zip (columns.map (·.header)))
  return "\n".intercalate
    (top ++ [rule '=' widths] ++ [rule '-' widths].intercalate bodies ++ [rule '-' widths])

end Grid

end WarehouseSchema
