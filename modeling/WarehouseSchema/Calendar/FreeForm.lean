import WarehouseSchema.Calendar
import WarehouseSchema.Calendar.Words
import WarehouseSchema.Number.Power
import WarehouseSchema.Number.Reading

/-!
Dates written in free form. Numbers and words are taken one after the other for parts of a date, of a
time of day or of an offset; numbers whose place is open are shared out among year, month and day at
the end, the month coming before the day where both are possible.
-/

namespace WarehouseSchema.Calendar

open Text

/-- The numbers of a date in the order in which they stand, with the places of those that are known to
be the year or the month, and whether the year is written in full. -/
structure DateNumbers where
  numbers : List Nat
  yearAt : Option Nat
  monthAt : Option Nat
  fullYear : Bool
  deriving Repr

/-- What has been read of a written date. -/
structure DateParts where
  date : DateNumbers
  weekday : Option Nat
  hour : Option Nat
  minute : Option Nat
  second : Option Nat
  microsecond : Option Nat
  zoneName : Option String
  zoneOffset : Option Int
  deriving Repr

def DateParts.nothing : DateParts :=
  ⟨⟨[], none, none, false⟩, none, none, none, none, none, none, none⟩

/-- Words that mean nothing. -/
def isFiller (w : String) : Bool :=
  [" ", ".", ",", ";", "-", "/", "'", "at", "on", "and", "ad", "m", "t", "of", "st", "nd", "rd",
   "th"].contains (lower w)

/-- The place of a word in a list of its spellings. -/
def placeOf (spellings : List (List String)) (w : String) : Option Nat :=
  spellings.findIdx? fun group => group.contains (lower w)

/-- The weekday that a word names, Monday being 0. -/
def weekdayOf : String → Option Nat := placeOf [
  ["mon", "monday"], ["tue", "tuesday"], ["wed", "wednesday"], ["thu", "thursday"],
  ["fri", "friday"], ["sat", "saturday"], ["sun", "sunday"]]

def monthOf (w : String) : Option Nat :=
  (placeOf [["jan", "january"], ["feb", "february"], ["mar", "march"], ["apr", "april"], ["may"],
    ["jun", "june"], ["jul", "july"], ["aug", "august"], ["sep", "sept", "september"],
    ["oct", "october"], ["nov", "november"], ["dec", "december"]] w).map (· + 1)

/-- The unit of time that a word names: hours, minutes or seconds. -/
def unitOf : String → Option Nat :=
  placeOf [["h", "hour", "hours"], ["m", "minute", "minutes"], ["s", "second", "seconds"]]

/-- The half of the day that a word names. -/
def halfOf : String → Option Nat := placeOf [["am", "a"], ["pm", "p"]]

/-- The names of universal time. -/
def isUniversal (w : String) : Bool := ["UTC", "GMT", "Z", "z"].contains w

/-- The digits of a number before and behind its point. -/
structure WrittenNumber where
  whole : List Char
  fraction : List Char
  deriving Repr

def numberOf? (w : String) : Option WrittenNumber :=
  let (whole, rest) := w.toList.span isDigit
  match whole, rest with
  | [], _ => none
  | whole, [] => some ⟨whole, []⟩
  | whole, '.' :: fraction => if fraction.all isDigit then some ⟨whole, fraction⟩ else none
  | _, _ => none

namespace WrittenNumber

def floor (n : WrittenNumber) : Nat := digitsValue n.whole

def isWhole (n : WrittenNumber) : Bool := n.fraction.all (· == '0')

/-- The fraction as so many sixtieths. -/
def sixtieths (n : WrittenNumber) : Nat :=
  60 * digitsValue n.fraction / Number.tenTo n.fraction.length

def microseconds (n : WrittenNumber) : Nat :=
  digitsValue ((n.fraction ++ List.replicate 6 '0').take 6)

def within (least greatest : Nat) (n : WrittenNumber) : Bool :=
  least ≤ n.floor && (n.floor < greatest || (n.floor = greatest && n.isWhole))

end WrittenNumber

/-- A whole number in digits, of which there are not too many. -/
def wholeOf? (w : String) : Option Nat :=
  if w ≠ "" && w.toList.all isDigit && w.length ≤ Number.digitLimit then
    some (digitsValue w.toList)
  else none

namespace DateNumbers

/-- Marks the last number as the year; there is only one. -/
def markYear (d : DateNumbers) : Option DateNumbers :=
  match d.yearAt with
  | none => some { d with yearAt := some (d.numbers.length - 1) }
  | some _ => none

def push (d : DateNumbers) (n : Nat) : DateNumbers := { d with numbers := d.numbers ++ [n] }

/-- A number that is the month; there is only one. -/
def pushMonth (d : DateNumbers) (n : Nat) : Option DateNumbers :=
  match d.monthAt with
  | none => some { d.push n with monthAt := some d.numbers.length }
  | some _ => none

/-- A number in digits; one with more than two of them is the year. -/
def pushDigits (d : DateNumbers) (w : String) : Option DateNumbers := do
  let n ← wholeOf? w
  if 2 < w.length then markYear { d.push n with fullYear := true } else return d.push n

def pushYear (d : DateNumbers) (w : String) : Option DateNumbers := do
  let n ← wholeOf? w
  markYear { d.push n with fullYear := d.fullYear || 2 < w.length }

/-- A number by its value; one above a hundred is the year. -/
def pushNumber (d : DateNumbers) (n : WrittenNumber) : Option DateNumbers :=
  if 100 < n.floor || (n.floor = 100 && !n.isWhole) then
    markYear { d.push n.floor with fullYear := true }
  else some (d.push n.floor)

def allowsDay (d : DateNumbers) (n : WrittenNumber) : Bool :=
  let month := d.monthAt.map fun i => d.numbers.getD i 0
  let year := d.yearAt.map fun i => d.numbers.getD i 0
  match month with
  | none => n.within 1 31
  | some month => n.within 1 (daysInMonth (year.getD 2000) month)

/-- Year, month and day, as far as there are numbers for them. -/
abbrev Shared := Option Nat × Option Nat × Option Nat

/-- The numbers shared out when none is known by itself but perhaps the month. -/
def shareByValue (d : DateNumbers) : Option Shared :=
  match d.numbers, d.monthAt with
  | [], _ => some (none, none, none)
  | [a], none => some (if 31 < a then (some a, none, none) else (none, none, some a))
  | [a], some _ => some (none, some a, none)
  | [a, b], some 0 => some (if 31 < b then (some b, some a, none) else (none, some a, some b))
  | [a, b], some _ => some (if 31 < a then (some a, some b, none) else (none, some b, some a))
  | [a, b], none =>
    some (if 31 < a then (some a, some b, none)
      else if 31 < b then (some b, some a, none) else (none, some a, some b))
  | [a, b, c], some 0 =>
    some (if 31 < b then (some b, some a, some c) else (some c, some a, some b))
  | [a, b, c], some 1 =>
    some (if 31 < a then (some a, some b, some c) else (some c, some b, some a))
  | [a, b, c], some _ =>
    some (if 31 < b then (some b, some c, some a) else (some a, some c, some b))
  | [a, b, c], none =>
    some (if 31 < a || d.yearAt = some 0 then (some a, some b, some c)
      else if 12 < a then (some c, some b, some a) else (some c, some a, some b))
  | _, _ => none

def share (d : DateNumbers) : Option Shared :=
  let at_ (i : Nat) : Option Nat := d.numbers[i]?
  match d.yearAt, d.monthAt, d.numbers.length with
  | some y, some m, 3 => some (at_ y, at_ m, at_ (3 - y - m))
  | some y, some m, 2 => some (at_ y, at_ m, none)
  | some y, none, 1 => some (at_ y, none, none)
  | none, some m, 1 => some (none, at_ m, none)
  | _, _, _ => d.shareByValue

end DateNumbers

/-- The hour of the whole day from one of its halves. -/
def hourOfHalf (hour half : Nat) : Nat :=
  if hour < 12 && half = 1 then hour + 12 else if hour = 12 && half = 0 then 0 else hour

def withSeconds (p : DateParts) (w : String) : Option DateParts := do
  let n ← numberOf? w
  return { p with second := some n.floor, microsecond := some n.microseconds }

/-- Minutes, a fraction of which gives the seconds. -/
def withMinutes (p : DateParts) (n : WrittenNumber) : DateParts :=
  { p with minute := some n.floor, second := if n.isWhole then none else some n.sixtieths }

def withUnit (p : DateParts) (w : String) (n : WrittenNumber) (unit : Nat) : Option DateParts :=
  match unit with
  | 0 =>
    some { p with hour := some n.floor, minute := if n.isWhole then p.minute else some n.sixtieths }
  | 1 => some (withMinutes p n)
  | 2 => withSeconds p w
  | _ => some p

/-- The unit of the number at a place: the one behind it, or the one after that before it. The place
of the last word that belongs to the number comes with it. -/
def unitAt (ws : List String) (i : Nat) : Option (Nat × Nat) :=
  let word (k : Nat) : Option String := ws[k]?
  match (word (i + 1)).bind unitOf with
  | some u => some (i + 1, u)
  | none =>
    match (if word (i + 1) = some " " then (word (i + 2)).bind unitOf else none) with
    | some u => some (i + 2, u)
    | none =>
      match (if 0 < i then (word (i - 1)).bind unitOf else none) with
      | some u => some (i, u + 1)
      | none =>
        if 1 < i && i + 1 = ws.length && word (i - 1) = some " " then
          ((word (i - 2)).bind unitOf).map fun u => (i, u + 1)
        else none

/-- The two digits at a place of a word. -/
def pair (w : String) (k : Nat) : String := String.ofList ((w.toList.drop k).take 2)

/-- A date or a time of day without marks between its numbers: six digits, perhaps with a
fraction. -/
def withSixDigits (p : DateParts) (w : String) : Option DateParts := do
  if p.date.numbers.isEmpty && !w.toList.contains '.' then
    let d ← p.date.pushDigits (pair w 0)
    let d ← d.pushDigits (pair w 2)
    return { p with date := ← d.pushDigits (pair w 4) }
  else
    let p := { p with hour := wholeOf? (pair w 0), minute := wholeOf? (pair w 2) }
    withSeconds p (String.ofList (w.toList.drop 4))

/-- A date with the year in full, without marks between its numbers and perhaps with a time of
day. -/
def withManyDigits (p : DateParts) (w : String) : Option DateParts := do
  let d ← p.date.pushYear (String.ofList (w.toList.take 4))
  let d ← d.pushDigits (pair w 4)
  let d ← d.pushDigits (pair w 6)
  let p := { p with date := d }
  if w.length ≤ 8 then return p
  let hour ← wholeOf? (pair w 8)
  let minute ← wholeOf? (pair w 10)
  let p := { p with hour := some hour, minute := some minute }
  if w.length ≤ 12 then return p
  return { p with second := some (← wholeOf? (String.ofList (w.toList.drop 12))) }

/-- A number with a mark behind it that may join it to others of a date. The place of the last word
that belongs to it comes with it. -/
def withJoined (p : DateParts) (ws : List String) (i : Nat) (mark : String) :
    Option (DateParts × Nat) := do
  let word (k : Nat) : Option String := ws[k]?
  let d ← p.date.pushDigits (ws.getD i "")
  match word (i + 2) with
  | none => return ({ p with date := d }, i + 1)
  | some second =>
    if isFiller second then return ({ p with date := d }, i + 1)
    let d ← if second.toList.all isDigit then d.pushDigits second
      else do d.pushMonth (← monthOf second)
    if word (i + 3) = some mark then
      let third ← word (i + 4)
      let d ← match monthOf third with
        | some m => d.pushMonth m
        | none => d.pushDigits third
      return ({ p with date := d }, i + 4)
    else return ({ p with date := d }, i + 2)

/-- The number at a place, with what it says; and the place of the last word that belongs to it. -/
def takeNumberWord (p : DateParts) (ws : List String) (i : Nat) (n : WrittenNumber) :
    Option (DateParts × Nat) := do
  let w := ws.getD i ""
  let word (k : Nat) : Option String := ws[k]?
  let next := word (i + 1)
  let size := w.length
  if p.date.numbers.length = 3 && (size = 2 || size = 4) && p.hour.isNone &&
      (next.isNone || (next != some ":" && (next.bind unitOf).isNone)) then
    let hour ← wholeOf? (pair w 0)
    if size = 4 then return ({ p with hour := some hour, minute := some (← wholeOf? (pair w 2)) }, i)
    else return ({ p with hour := some hour }, i)
  if size = 6 || (6 < size && n.whole.length = 6 && n.fraction ≠ []) then
    return (← withSixDigits p w, i)
  if size = 8 || size = 12 || size = 14 then return (← withManyDigits p w, i)
  if let some (last, unit) := unitAt ws i then return (← withUnit p w n unit, last)
  if next = some ":" && (word (i + 2)).isSome then
    let minutes ← (word (i + 2)).bind numberOf?
    let p := withMinutes { p with hour := some n.floor } minutes
    if word (i + 3) = some ":" && (word (i + 4)).isSome then
      return (← withSeconds p (ws.getD (i + 4) ""), i + 4)
    else return (p, i + 2)
  match next with
  | none => return ({ p with date := ← p.date.pushNumber n }, i + 1)
  | some mark =>
    if mark = "-" || mark = "/" || mark = "." then withJoined p ws i mark
    else if isFiller mark then
      match (word (i + 2)).bind halfOf with
      | some half => return ({ p with hour := some (hourOfHalf n.floor half) }, i + 2)
      | none => return ({ p with date := ← p.date.pushNumber n }, i + 1)
    else
      match halfOf mark with
      | some half =>
        if n.floor < 24 then return ({ p with hour := some (hourOfHalf n.floor half) }, i + 1)
        else if p.date.allowsDay n then return ({ p with date := ← p.date.pushNumber n }, i)
        else none
      | none =>
        if p.date.allowsDay n then return ({ p with date := ← p.date.pushNumber n }, i) else none

/-- A month by name, with numbers that are joined to it. -/
def takeMonthWord (p : DateParts) (ws : List String) (i month : Nat) :
    Option (DateParts × Nat) := do
  let word (k : Nat) : Option String := ws[k]?
  let d ← p.date.pushMonth month
  match word (i + 1) with
  | none => return ({ p with date := d }, i)
  | some mark =>
    if mark = "-" || mark = "/" then
      let d ← d.pushDigits (← word (i + 2))
      if word (i + 3) = some mark then
        return ({ p with date := ← d.pushDigits (← word (i + 4)) }, i + 4)
      else return ({ p with date := d }, i + 2)
    else if mark = " " && word (i + 3) = some " " && (word (i + 4)).isSome &&
        (word (i + 2)).map lower = some "of" then
      match (word (i + 4)).bind wholeOf? with
      | some year => return ({ p with date := ← (d.push year).markYear }, i + 4)
      | none => return ({ p with date := d }, i + 4)
    else return ({ p with date := d }, i)

/-- Whether a word may be the name of an offset. -/
def mayNameZone (p : DateParts) (w : String) : Bool :=
  p.hour.isSome && p.zoneName.isNone && p.zoneOffset.isNone && w.length ≤ 5 &&
    (w.toList.all (fun c => 'A' ≤ c && c ≤ 'Z') || isUniversal w)

/-- An offset in numbers behind its sign. -/
def takeOffset (p : DateParts) (ws : List String) (i : Nat) (east : Bool) :
    Option (DateParts × Nat) := do
  let w ← ws[i + 1]?
  let size := w.length
  let done (hours minutes : Nat) (last : Nat) : Option (DateParts × Nat) :=
    let seconds : Int := hours * 3600 + minutes * 60
    some ({ p with zoneOffset := some (if east then seconds else -seconds) }, last)
  if size = 4 then done (← wholeOf? (pair w 0)) (← wholeOf? (pair w 2)) (i + 1)
  else if ws[i + 2]? = some ":" then do
    done (← wholeOf? w) (← wholeOf? (← ws[i + 3]?)) (i + 3)
  else if size ≤ 2 then done (← wholeOf? w) 0 (i + 1)
  else none

/-- The words from a place on, with what was read before, within `fuel` steps. `turned` says that the
sign of the offset that follows counts the other way. -/
def readWords (ws : List String) : Nat → Nat → Bool → DateParts → Option DateParts
  | 0, _, _, p => some p
  | fuel + 1, i, turned, p =>
    match ws[i]? with
    | none => some p
    | some w =>
      match numberOf? w, weekdayOf w, monthOf w, halfOf w with
      | some n, _, _, _ => do
        let (p, last) ← takeNumberWord p ws i n
        readWords ws fuel (last + 1) false p
      | none, some day, _, _ => readWords ws fuel (i + 1) false { p with weekday := some day }
      | none, none, some month, _ => do
        let (p, last) ← takeMonthWord p ws i month
        readWords ws fuel (last + 1) false p
      | none, none, none, some half =>
        match p.hour with
        | none => none
        | some hour =>
          if 12 < hour then none
          else readWords ws fuel (i + 1) false { p with hour := some (hourOfHalf hour half) }
      | none, none, none, none =>
        if mayNameZone p w then
          let signed := ws[i + 1]? = some "+" || ws[i + 1]? = some "-"
          let name := if signed && isUniversal w then none else some w
          let offset : Option Int := if !signed && isUniversal w then some 0 else none
          readWords ws fuel (i + 1) signed { p with zoneName := name, zoneOffset := offset }
        else if p.hour.isSome && (w = "+" || w = "-") then do
          let (p, last) ← takeOffset p ws i ((w == "+") != turned)
          readWords ws fuel (last + 1) false p
        else if isFiller w then readWords ws fuel (i + 1) false p
        else none

/-- A moment with the offset from universal time in seconds, if it has one. -/
structure ZonedMoment where
  moment : Moment
  zone : Option Int
  deriving Repr

/-- The offset that parts of a date give; a name that is not known is refused. -/
def zoneOf (p : DateParts) : Option (Option Int) :=
  match p.zoneName, p.zoneOffset with
  | none, offset => some offset
  | some name, offset => if isUniversal name then some (some 0) else offset.map some

/-- The year in full: one of two digits lies near `now`. -/
def fullYearOf (now : Nat) (full : Bool) (year : Nat) : Nat :=
  if 100 ≤ year || full then year
  else
    let y := year + now / 100 * 100
    if now + 50 ≤ y then y - 100 else if y + 50 < now then y + 100 else y

/-- The parts of a written date, with year, month and day shared out. -/
def readParts (s : String) : Option (DateParts × DateNumbers.Shared) := do
  let ws := dateWords s
  let p ← readWords ws (ws.length + 1) 0 false .nothing
  return (p, ← p.date.share)

/-- Why a text shows no moment: it is refused, or a number in it is beyond the words of the machine. -/
inductive MomentFault where
  | refused
  | overflow (text : String)
  deriving DecidableEq, Repr

def beginsWithClock : List Char → Bool
  | a :: ':' :: c :: d :: _ => isDigit a && '0' ≤ c && c ≤ '5' && isDigit d
  | a :: b :: ':' :: c :: d :: _ =>
    isDigit a && isDigit b && digitsValue [a, b] ≤ 23 && '0' ≤ c && c ≤ '5' && isDigit d
  | _ => false

/-- Refuses numbers beyond the words of the machine. Behind a time of day this is not the refusal of a
text. -/
def checkNumbers (clock : Bool) (numbers : List Nat) : Except MomentFault Unit :=
  match numbers.find? (Number.halfWord ≤ ·) with
  | none => .ok ()
  | some n =>
    .error (if !clock then .refused
      else if n < Number.word then .overflow "signed integer is greater than maximum"
      else .overflow "Python int too large to convert to C long")

/-- The greatest count of days of a span of time. -/
def greatestDays : Int := 999999999

/-- Refuses an offset of a day or more; one of too many days is not even a span of time. -/
def checkOffset (seconds : Int) : Except MomentFault Unit :=
  let days := seconds / 86400
  if -(Number.halfWord : Int) ≤ days && days < (Number.halfWord : Int) then
    if days < -greatestDays || greatestDays < days then
      .error (.overflow s!"days={intText days}; must have magnitude <= {intText greatestDays}")
    else if seconds ≤ -86400 || 86400 ≤ seconds then .error .refused
    else .ok ()
  else .error (.overflow "Python int too large to convert to C int")

/-- The moment that parts make; what is missing is taken from the first of January of `default`. `clock`
says that the text begins with a time of day. -/
def momentOfParts (clock : Bool) (default : Nat) (p : DateParts) (shared : DateNumbers.Shared) :
    Except MomentFault ZonedMoment := do
  let (year, month, day) := shared
  if (year.isNone && month.isNone && day.isNone) && p.hour.isNone && p.minute.isNone &&
      p.second.isNone && p.microsecond.isNone then throw .refused
  let year := (year.map (fullYearOf 2025 p.date.fullYear)).getD default
  let month := month.getD 1
  let day := day.getD 1
  let hour := p.hour.getD 0
  let minute := p.minute.getD 0
  let second := p.second.getD 0
  checkNumbers clock [year, month, day, hour, minute, second]
  match Moment.ofNumbers year month day hour minute second (p.microsecond.getD 0) none, zoneOf p with
  | .ok moment, some zone =>
    match zone with
    | none => return ⟨moment, none⟩
    | some seconds =>
      checkOffset seconds
      return ⟨moment, some seconds⟩
  | _, _ => throw .refused

end WarehouseSchema.Calendar
