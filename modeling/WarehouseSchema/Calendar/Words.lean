import WarehouseSchema.Text.Blank
import WarehouseSchema.Text.Digit
import WarehouseSchema.Text.LetterCase

/-!
Words and numbers of a written date. A text is cut into runs of letters, numbers with at most one
point, and single other characters; every blank is one space.
-/

namespace WarehouseSchema.Calendar

open Text

def isLetter (c : Char) : Bool := c.isAlpha || (127 < c.toNat && isCased c)

/-- What a run of characters is while it is read: letters, a number, or either with points in it. -/
inductive RunKind where
  | letters
  | number
  | dottedLetters
  | dottedNumber
  deriving DecidableEq, Repr

/-- Whether a character goes on with a run, and what the run is then. `run` is what was read of it,
the last character first. -/
def continueRun (kind : RunKind) (run : List Char) (c : Char) : Option RunKind :=
  match kind with
  | .letters => if isLetter c then some .letters else if c = '.' then some .dottedLetters else none
  | .number =>
    if isDigit c then some .number
    else if c = '.' || (c = ',' && 2 ≤ run.length) then some .dottedNumber
    else none
  | .dottedLetters =>
    if c = '.' || isLetter c then some .dottedLetters
    else if isDigit c && run.head? = some '.' then some .dottedNumber
    else none
  | .dottedNumber =>
    if c = '.' || isDigit c then some .dottedNumber
    else if isLetter c && run.head? = some '.' then some .dottedLetters
    else none

/-- A run from its second character on, and what follows it. -/
def takeRun (kind : RunKind) (run : List Char) : List Char → RunKind × List Char × List Char
  | [] => (kind, run.reverse, [])
  | c :: cs =>
    match continueRun kind run c with
    | some next => takeRun next (c :: run) cs
    | none => (kind, run.reverse, c :: cs)

/-- The pieces of a run at its points and commas, which are pieces too. -/
def splitPoints : List Char → List (List Char)
  | [] => []
  | c :: cs =>
    if c = '.' || c = ',' then [c] :: splitPoints cs
    else
      match splitPoints cs with
      | [] => [[c]]
      | piece :: rest =>
        if piece = ['.'] || piece = [','] then [c] :: piece :: rest else (c :: piece) :: rest

/-- The words that a run makes. A number with one point stays whole. -/
def wordsOfRun (kind : RunKind) (run : List Char) : List (List Char) :=
  let dotted := kind = .dottedLetters || kind = .dottedNumber
  let endsOpen := run.getLast? = some '.' || run.getLast? = some ','
  if dotted && (run.any isLetter || 1 < run.count '.' || endsOpen) then splitPoints run
  else if kind = .dottedNumber && run.count '.' = 0 then
    [run.map fun c => if c = ',' then '.' else c]
  else [run]

def dateWordsFrom : Nat → List Char → List (List Char)
  | 0, _ | _, [] => []
  | fuel + 1, c :: cs =>
    if isLetter c then
      let (kind, run, rest) := takeRun .letters [c] cs
      wordsOfRun kind run ++ dateWordsFrom fuel rest
    else if isDigit c then
      let (kind, run, rest) := takeRun .number [c] cs
      wordsOfRun kind run ++ dateWordsFrom fuel rest
    else if isBlank c then [' '] :: dateWordsFrom fuel cs
    else [c] :: dateWordsFrom fuel cs

def dateWords (s : String) : List String :=
  (dateWordsFrom s.length (s.toList.filter fun c => c.toNat != 0)).map String.ofList

end WarehouseSchema.Calendar
