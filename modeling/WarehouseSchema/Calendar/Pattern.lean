import WarehouseSchema.Calendar
import WarehouseSchema.Text.Basic

/-!
Moments written by a pattern. A percent sign, optional flags, an optional width and a letter stand
for a part of the moment; all other characters, and signs with an unknown letter, stand for
themselves. Clocks show universal time.
-/

namespace WarehouseSchema.Calendar

open Text

/-- How a part is padded: as is usual for it, not at all, with blanks or with zeros. -/
inductive Padding where
  | usual
  | bare
  | blanks
  | zeros
  deriving DecidableEq, Repr

structure PartStyle where
  padding : Padding
  upper : Bool
  swapped : Bool
  width : Nat

/-- The names of the weekdays, from Monday. -/
def weekdayNames : List String :=
  ["Monday", "Tuesday", "Wednesday", "Thursday", "Friday", "Saturday", "Sunday"]

def monthNames : List String :=
  ["January", "February", "March", "April", "May", "June", "July", "August", "September",
   "October", "November", "December"]

def shortName (s : String) : String := String.ofList (s.toList.take 3)

/-- The year and the number of the week that a date belongs to, when weeks start on Monday and the
first one holds the fourth of January. -/
def isoWeek (d : Date) : Nat × Nat :=
  let thursday := Date.ofDayNumber (d.dayNumber + 3 - d.weekday)
  (thursday.year, (thursday.yearDay - 1) / 7 + 1)

def capitals (s : String) : String := String.ofList (s.toList.map Char.toUpper)

def smallLetters (s : String) : String := String.ofList (s.toList.map Char.toLower)

/-- Text filled up to the width of its part: with zeros if they are asked for, else with blanks. -/
def filled (style : PartStyle) (s : String) : String :=
  match style.padding with
  | .zeros => String.ofList (List.replicate (style.width - s.length) '0') ++ s
  | _ => padStart style.width s

def wordPart (style : PartStyle) (s : String) : String :=
  filled style (if style.upper then capitals s else s)

/-- A number with `digits` digits at least, padded in the given way unless a flag asks for another. -/
def numberPart (style : PartStyle) (padding : Padding) (digits : Nat) (n : Nat) : String :=
  let width := max digits style.width
  filled style <|
    match if style.padding = .usual then padding else style.padding with
    | .bare => natText n
    | .blanks => padStart width (natText n)
    | _ => paddedNat width n

def faceHour (hour : Nat) : Nat := if hour % 12 = 0 then 12 else hour % 12

/-- Hour, minute and second with colons. -/
def clockText (m : Moment) : String :=
  paddedNat 2 m.hour ++ ":" ++ paddedNat 2 m.minute ++ ":" ++ paddedNat 2 m.second

def slashDate (d : Date) : String :=
  paddedNat 2 d.month ++ "/" ++ paddedNat 2 d.day ++ "/" ++ paddedNat 2 (d.year % 100)

def halfDay (m : Moment) : String := if m.hour < 12 then "AM" else "PM"

def part? (style : PartStyle) (m : Moment) (letter : Char) : Option String :=
  let d := m.date
  let two (n : Nat) : Option String := some (numberPart style .zeros 2 n)
  let word (s : String) : Option String :=
    some (wordPart { style with upper := style.upper || style.swapped } s)
  let joined (s : String) : Option String := some (wordPart style s)
  let weekdayName := weekdayNames.getD d.weekday ""
  let monthName := monthNames.getD (d.month - 1) ""
  match letter with
  | '%' => joined "%"
  | 'a' => word (shortName weekdayName)
  | 'A' => word weekdayName
  | 'b' | 'h' => word (shortName monthName)
  | 'B' => word monthName
  | 'c' => joined (shortName weekdayName ++ " " ++ shortName monthName ++ " " ++
      padStart 2 (natText d.day) ++ " " ++ clockText m ++ " " ++ natText d.year)
  | 'C' => two (d.year / 100)
  | 'd' => two d.day
  | 'D' | 'x' => joined (slashDate d)
  | 'e' => some (numberPart style .blanks 2 d.day)
  | 'F' => joined d.text
  | 'g' => two ((isoWeek d).1 % 100)
  | 'G' => some (numberPart style .zeros 4 (isoWeek d).1)
  | 'H' => two m.hour
  | 'I' => two (faceHour m.hour)
  | 'j' => some (numberPart style .zeros 3 d.yearDay)
  | 'k' => some (numberPart style .blanks 2 m.hour)
  | 'l' => some (numberPart style .blanks 2 (faceHour m.hour))
  | 'm' => two d.month
  | 'M' => two m.minute
  | 'n' => joined "\n"
  | 'p' =>
    if style.swapped then some (filled style (smallLetters (halfDay m))) else joined (halfDay m)
  | 'P' => some (filled style (smallLetters (halfDay m)))
  | 'r' => joined (paddedNat 2 (faceHour m.hour) ++ ":" ++ paddedNat 2 m.minute ++ ":" ++
      paddedNat 2 m.second ++ " " ++ halfDay m)
  | 'R' => joined (paddedNat 2 m.hour ++ ":" ++ paddedNat 2 m.minute)
  | 's' => some (wordPart style (intText (m.clockCount / 1000000)))
  | 'S' => two m.second
  | 't' => joined "\t"
  | 'T' | 'X' => joined (clockText m)
  | 'u' => some (numberPart style .zeros 1 (d.weekday + 1))
  | 'U' => two ((d.yearDay + 6 - (d.weekday + 1) % 7) / 7)
  | 'V' => two (isoWeek d).2
  | 'w' => some (numberPart style .zeros 1 ((d.weekday + 1) % 7))
  | 'W' => two ((d.yearDay + 6 - d.weekday) / 7)
  | 'y' => two (d.year % 100)
  | 'Y' => some (numberPart style .zeros 4 d.year)
  | 'z' => some (filled style "+" ++ numberPart style .zeros 4 0)
  | 'Z' => if style.padding = .bare then some "UTC" else joined "UTC"
  | _ => none

def takeStyle (style : PartStyle) : List Char → PartStyle × List Char
  | [] => (style, [])
  | c :: cs =>
    if c = '_' then takeStyle { style with padding := .blanks } cs
    else if c = '-' then takeStyle { style with padding := .bare } cs
    else if c = '0' then takeStyle { style with padding := .zeros } cs
    else if c = '^' then takeStyle { style with upper := true } cs
    else if c = '#' then takeStyle { style with swapped := true } cs
    else (style, c :: cs)

def PartStyle.plain : PartStyle := ⟨.usual, false, false, 0⟩

/-- Whether a letter may follow a mark that asks for another calendar or for other digits. -/
def allowsMark (mark letter : Char) : Bool :=
  if mark = 'E' then !"aAbBhdDeFgGHIjklmMSUVwW".toList.contains letter
  else !"aAcxXDFY".toList.contains letter

def takeMark : List Char → Option Char × List Char
  | 'E' :: rest => (some 'E', rest)
  | 'O' :: rest => (some 'O', rest)
  | rest => (none, rest)

/-- The moment written by a pattern, within `fuel` steps. -/
def writeFrom (m : Moment) : Nat → List Char → String
  | 0, _ | _, [] => ""
  | fuel + 1, '%' :: cs =>
    let (style, rest) := takeStyle .plain cs
    let style := { style with width := digitsValue (rest.takeWhile isDigit) }
    let (mark, rest) := takeMark (rest.dropWhile isDigit)
    let itself (n : Nat) : String := wordPart style (String.ofList ('%' :: cs.take n))
    match rest with
    | [] => itself cs.length
    | letter :: more =>
      let part := if mark.all fun mark => allowsMark mark letter then part? style m letter else none
      part.getD (itself (cs.length - more.length)) ++ writeFrom m fuel more
  | fuel + 1, c :: cs => String.ofList [c] ++ writeFrom m fuel cs

def write (pattern : String) (m : Moment) : String :=
  writeFrom m (pattern.length + 1) pattern.toList

end WarehouseSchema.Calendar
