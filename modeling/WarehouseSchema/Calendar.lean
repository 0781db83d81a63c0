import WarehouseSchema.Text.Digit

/-!
Dates and times of day in the Gregorian calendar, and their ISO texts. Main statement: a day number
counts the days since 1970-01-01, and `ofDayNumber` finds the date again.
-/

namespace WarehouseSchema

open Text

structure Date where
  year : Nat
  month : Nat
  day : Nat
  deriving DecidableEq, Repr, Inhabited

/-- A date with a time of day and, if known, the offset from universal time in minutes. -/
structure Moment where
  date : Date
  hour : Nat
  minute : Nat
  second : Nat
  microsecond : Nat
  offset : Option Int
  deriving DecidableEq, Repr, Inhabited

namespace Calendar

/-- A year with a 29th of February. -/
def isLeap (year : Nat) : Bool := year % 4 == 0 && (year % 100 != 0 || year % 400 == 0)

def daysInMonth (year month : Nat) : Nat :=
  if month = 2 then if isLeap year then 29 else 28
  else if month = 4 || month = 6 || month = 9 || month = 11 then 30 else 31

def daysBeforeMonth (year month : Nat) : Nat :=
  ((List.range (month - 1)).map fun m => daysInMonth year (m + 1)).foldl (· + ·) 0

def daysBeforeYear (year : Nat) : Nat :=
  let y := year - 1
  y * 365 + y / 4 - y / 100 + y / 400

/-- The day number of the first of January 1970, counted from the first of January of year 1. -/
def epochDay : Nat := 719162

/-- Why numbers are not a date or a time of day. -/
inductive Fault where
  | year (year : Nat)
  | month
  | day
  | hour
  | minute
  | second
  | offset (days : Int) (seconds : Nat)
  deriving DecidableEq, Repr

def Fault.message : Fault → String
  | .year y => s!"year {y} is out of range"
  | .month => "month must be in 1..12"
  | .day => "day is out of range for month"
  | .hour => "hour must be in 0..23"
  | .minute => "minute must be in 0..59"
  | .second => "second must be in 0..59"
  | .offset days seconds =>
    let parts := (if days = 0 then [] else [s!"days={days}"]) ++
      (if seconds = 0 then [] else [s!"seconds={seconds}"])
    "offset must be a timedelta strictly between -timedelta(hours=24) and timedelta(hours=24), not datetime.timedelta("
      ++ (if parts.isEmpty then "0" else ", ".intercalate parts) ++ ")."

end Calendar

namespace Date

open Calendar

/-- The date with these numbers, if there is one from year 1 to 9999. -/
def ofNumbers (year month day : Nat) : Except Calendar.Fault Date :=
  if year < 1 || 9999 < year then throw (.year year)
  else if month < 1 || 12 < month then throw .month
  else if day < 1 || daysInMonth year month < day then throw .day
  else return ⟨year, month, day⟩

/-- Days since 1970-01-01. -/
def dayNumber (d : Date) : Int :=
  (daysBeforeYear d.year + daysBeforeMonth d.year d.month + (d.day - 1) : Nat) - (epochDay : Int)

/-- The month and day of the `rest`-th day of a year, counted from zero. -/
def ofYearDay (year : Nat) : Nat → Nat → Nat → Date
  | 0, month, rest => ⟨year, month, rest + 1⟩
  | months + 1, month, rest =>
    if rest < daysInMonth year month then ⟨year, month, rest + 1⟩
    else ofYearDay year months (month + 1) (rest - daysInMonth year month)

/-- The date that lies `n` days after 1970-01-01. -/
def ofDayNumber (n : Int) : Date :=
  let days := (n + epochDay).toNat
  let guess := days / 366 + 1
  let year := ((List.range 40).find? fun k => days < daysBeforeYear (guess + k + 1)).getD 0 + guess
  ofYearDay year 11 1 (days - daysBeforeYear year)

/-- `yyyy-mm-dd`. -/
def text (d : Date) : String :=
  paddedNat 4 d.year ++ "-" ++ paddedNat 2 d.month ++ "-" ++ paddedNat 2 d.day

/-- The day of the week, Monday being 0. -/
def weekday (d : Date) : Nat := ((d.dayNumber + 3) % 7).toNat

/-- The day of the year, from 1. -/
def yearDay (d : Date) : Nat := daysBeforeMonth d.year d.month + d.day

def literal (d : Date) : String :=
  s!"datetime.date({d.year}, {d.month}, {d.day})"

end Date

namespace Moment

open Calendar

def ofNumbers (year month day hour minute second microsecond : Nat) (offset : Option Int) :
    Except Calendar.Fault Moment := do
  let date ← Date.ofNumbers year month day
  if 23 < hour then throw .hour
  if 59 < minute then throw .minute
  if 59 < second then throw .second
  return ⟨date, hour, minute, second, microsecond, offset⟩

/-- Microseconds since 1970-01-01 00:00 by the clock of the moment. -/
def clockCount (m : Moment) : Int :=
  (((m.date.dayNumber * 24 + m.hour) * 60 + m.minute) * 60 + m.second) * 1000000 + m.microsecond

/-- Whether two moments are the same; a moment with an offset is never one without. -/
def sameInstant (m n : Moment) : Bool :=
  match m.offset, n.offset with
  | some a, some b => m.clockCount - a * 60000000 == n.clockCount - b * 60000000
  | none, none => m.clockCount == n.clockCount
  | _, _ => false

/-- `+hh:mm` or `-hh:mm`. -/
def offsetText (minutes : Int) : String :=
  let n := minutes.natAbs
  (if minutes < 0 then "-" else "+") ++ paddedNat 2 (n / 60) ++ ":" ++ paddedNat 2 (n % 60)

/-- Date and time of day with `between` between them; six digits of a second's fraction when it is
not zero, and the offset when it is known. -/
def text (between : String) (m : Moment) : String :=
  m.date.text ++ between ++ paddedNat 2 m.hour ++ ":" ++ paddedNat 2 m.minute ++ ":" ++
    paddedNat 2 m.second ++ (if m.microsecond = 0 then "" else "." ++ paddedNat 6 m.microsecond) ++
    (m.offset.map offsetText).getD ""

def offsetLiteral (minutes : Int) : String :=
  if minutes = 0 then "datetime.timezone.utc"
  else
    let seconds := minutes * 60
    let days := seconds / 86400
    let rest := seconds % 86400
    let parts := (if days = 0 then [] else ["days=" ++ intText days]) ++
      (if rest = 0 then [] else ["seconds=" ++ intText rest])
    "datetime.timezone(datetime.timedelta(" ++ ", ".intercalate parts ++ "))"

def literal (m : Moment) : String :=
  let clock := [m.date.year, m.date.month, m.date.day, m.hour, m.minute]
  let fine :=
    if m.microsecond ≠ 0 then [m.second, m.microsecond]
    else if m.second ≠ 0 then [m.second] else []
  let parts := (clock ++ fine).map natText ++
    (m.offset.map fun o => "tzinfo=" ++ offsetLiteral o).toList
  "datetime.datetime(" ++ ", ".intercalate parts ++ ")"

/-- The moment that lies a count of microseconds after 1970-01-01 00:00 universal time, without an
offset. -/
def ofEpoch (microseconds : Int) : Moment :=
  let days := microseconds / 86400000000
  let rest := (microseconds % 86400000000).toNat
  let seconds := rest / 1000000
  ⟨Date.ofDayNumber days, seconds / 3600, seconds / 60 % 60, seconds % 60, rest % 1000000, none⟩

end Moment

end WarehouseSchema
