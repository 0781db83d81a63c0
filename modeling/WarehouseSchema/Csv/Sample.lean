import WarehouseSchema.Csv.Record
import WarehouseSchema.Text.Digit

/-!
Samples of comma-separated values: named columns with the texts of their first rows. Columns without
a name are named for their place, and repeated names are told apart by a number. Where the rows have
more fields than the header, the fields in front have no column.
-/

namespace WarehouseSchema.Csv

open Text

def missingTexts : List String :=
  ["", "#N/A", "#N/A N/A", "#NA", "-1.#IND", "-1.#QNAN", "-NaN", "-nan", "1.#IND", "1.#QNAN",
   "<NA>", "N/A", "NA", "NULL", "NaN", "None", "n/a", "nan", "null"]

def cell (s : String) : Option String := if missingTexts.contains s then none else some s

structure SampleColumn where
  name : String
  cells : List (Option String)
  deriving Repr

namespace SampleColumn

/-- The values that are not missing. -/
def present (c : SampleColumn) : List String := c.cells.filterMap id

def hasMissing (c : SampleColumn) : Bool := c.cells.any Option.isNone

end SampleColumn

def placeName (index : Nat) : String := "Unnamed: " ++ natText index

abbrev NameCounts := List (String × Nat)

def countOf (counts : NameCounts) (name : String) : Nat := (counts.lookup name).getD 0

def setCount (counts : NameCounts) (name : String) (n : Nat) : NameCounts :=
  (name, n) :: counts.filter (·.1 != name)

/-- A name that is not taken, made of a repeated one and a number from `n` on, within `fuel` tries;
and the counts after it. -/
def freshName (name : String) (taken : List String) : Nat → Nat → NameCounts → String × NameCounts
  | 0, _, counts => (name, counts)
  | fuel + 1, n, counts =>
    let counts := setCount counts name (n + 1)
    let candidate := name ++ "." ++ natText n
    if taken.contains candidate then freshName name taken fuel (n + 1) counts
    else
      match countOf counts candidate with
      | 0 => (candidate, counts)
      | m + 1 => freshName name taken fuel (m + 1) counts

/-- The names with the one at a place made different from those before. -/
def separateAt (state : List String × NameCounts) (index : Nat) : List String × NameCounts :=
  let (names, counts) := state
  let name := names.getD index ""
  let (fresh, counts) :=
    match countOf counts name with
    | 0 => (name, counts)
    | n + 1 => freshName name names (2 * names.length + 2) (n + 1) counts
  (names.set index fresh, setCount counts fresh (countOf counts fresh + 1))

/-- The names of the columns of a header: given names are kept before others are made different from
them. -/
def columnNames (header : List String) : List String :=
  let places := List.range header.length
  let names := header.zipIdx.map fun (name, i) => if name = "" then placeName i else name
  let (given, unnamed) := places.partition fun i => header.getD i "" != ""
  ((given ++ unnamed).foldl separateAt (names, [])).1

/-- The columns of a header with the values of the first `count` of the records below it. -/
def columnsOf (header : List String) (records : List (List String)) (count : Nat) :
    List SampleColumn :=
  let front := ((records.head?.map List.length).getD 0) - header.length
  (columnNames header).zipIdx.map fun (name, i) =>
    ⟨name, (records.take count).map fun record => cell (record.getD (front + i) "")⟩

/-- The columns of a text with the values of its first `rows` rows. What is wrong with the header or
the first row is found before a negative number of rows is. -/
def readSample (rows : Int) (text : String) : Except CsvFault (List SampleColumn) := do
  match ← readRecords 2 text with
  | [] => throw .noColumns
  | header :: _ =>
    if rows < 0 then throw .negativeRows
    let records ← readRecords (max 2 (rows.toNat + 1)) text
    return columnsOf header (records.drop 1) rows.toNat

end WarehouseSchema.Csv
