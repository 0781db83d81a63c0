import WarehouseSchema.Calendar.FreeForm
import WarehouseSchema.Calendar.Pattern

/-!
Layouts of written moments. The first text of a list shows the layout that all of them have to follow;
where it shows none, every text is read by itself, and all have to agree on the offset. `readMoments`
accepts a list of texts if it is one of moments.
-/

namespace WarehouseSchema.Calendar

open Text

inductive LayoutPart where
  | year
  | monthName
  | monthShort
  | month
  | day
  | hour
  | faceHour
  | minute
  | second
  | fraction
  | zone
  | weekdayShort
  | weekdayName
  | half
  | exact (text : String)
  deriving DecidableEq, Repr

inductive LayoutField where
  | year
  | month
  | day
  | hour
  | minute
  | second
  | microsecond
  | zone
  | weekday
  | half
  deriving DecidableEq, Repr

/-- What words of a layout may stand for, in the order in which it is tried: the fields shown, the
parts and the count of digits that a word is filled up to. -/
def layoutChoices : List (List LayoutField × List LayoutPart × Nat) := [
  ([.year, .month, .day, .hour, .minute, .second],
    [.year, .month, .day, .hour, .minute, .second], 0),
  ([.year, .month, .day, .hour, .minute], [.year, .month, .day, .hour, .minute], 0),
  ([.year, .month, .day, .hour], [.year, .month, .day, .hour], 0),
  ([.year, .month, .day], [.year, .month, .day], 0),
  ([.hour, .minute, .second], [.hour, .minute, .second], 0),
  ([.hour, .minute], [.hour, .minute], 0),
  ([.year], [.year], 0), ([.month], [.monthName], 0), ([.month], [.monthShort], 0),
  ([.month], [.month], 2), ([.day], [.day], 2), ([.hour], [.hour], 2), ([.minute], [.minute], 2),
  ([.second], [.second], 2),
  ([.second, .microsecond], [.second, .exact ".", .fraction], 0), ([.zone], [.zone], 0),
  ([.weekday], [.weekdayShort], 0), ([.weekday], [.weekdayName], 0), ([.half], [.half], 0)]

/-- An offset with its sign and four digits. -/
def zoneText (seconds : Int) : String :=
  let n := seconds.natAbs / 60
  (if seconds < 0 then "-" else "+") ++ paddedNat 2 (n / 60) ++ paddedNat 2 (n % 60)

def partText (m : ZonedMoment) : LayoutPart → String
  | .year => paddedNat 4 m.moment.date.year
  | .monthName => monthNames.getD (m.moment.date.month - 1) ""
  | .monthShort => shortName (monthNames.getD (m.moment.date.month - 1) "")
  | .month => paddedNat 2 m.moment.date.month
  | .day => paddedNat 2 m.moment.date.day
  | .hour => paddedNat 2 m.moment.hour
  | .faceHour => paddedNat 2 (faceHour m.moment.hour)
  | .minute => paddedNat 2 m.moment.minute
  | .second => paddedNat 2 m.moment.second
  | .fraction => paddedNat 6 m.moment.microsecond
  | .zone => (m.zone.map zoneText).getD ""
  | .weekdayShort => shortName (weekdayNames.getD m.moment.date.weekday "")
  | .weekdayName => weekdayNames.getD m.moment.date.weekday ""
  | .half => halfDay m.moment
  | .exact s => s

/-- A word filled up to a count of digits; seconds with a fraction get two and six digits. -/
def filledWord (digits : Nat) (w : String) : String :=
  match numberOf? w with
  | some n =>
    if n.fraction = [] then String.ofList (List.replicate (digits - w.length) '0') ++ w
    else paddedNat 2 n.floor ++ "." ++ paddedNat 6 n.microseconds
  | none => w

/-- The words with an offset at the end written with its sign and four digits. -/
def withZoneWord (m : ZonedMoment) (ws : List String) : List String :=
  match m.zone with
  | none => ws
  | some seconds =>
    let fromEnd (k : Nat) : String := ws.reverse.getD (k - 1) ""
    let signed (k : Nat) : Bool := k ≤ ws.length && (fromEnd k = "+" || fromEnd k = "-")
    let cut (k : Nat) : List String := ws.take (ws.length - k) ++ [zoneText seconds]
    if ws.length ≠ 0 && fromEnd 1 = "Z" then cut 1
    else if signed 2 then cut 2
    else if signed 4 then cut 4
    else ws

/-- A word of a layout: the text that it has, filled up, and the parts that it stands for. -/
abbrev LayoutWord := String × Option (List LayoutPart)

/-- The words with the first one that shows `shown` taken for `parts`. -/
def assignWord (shown : String) (parts : List LayoutPart) (digits : Nat) :
    List LayoutWord → Option (List LayoutWord)
  | [] => none
  | (w, some taken) :: rest =>
    (assignWord shown parts digits rest).map fun ws => (w, some taken) :: ws
  | (w, none) :: rest =>
    if filledWord digits w = shown then some ((shown, some parts) :: rest)
    else (assignWord shown parts digits rest).map fun ws => (w, none) :: ws

/-- The words with the parts that they stand for, and the fields that have been found. -/
def assignWords (m : ZonedMoment) (ws : List LayoutWord) : List LayoutWord × List LayoutField :=
  layoutChoices.foldl
    (fun (ws, found) (fields, parts, digits) =>
      if fields.any found.contains || (m.zone.isNone && parts.contains .zone) then (ws, found)
      else
        match assignWord (String.join (parts.map (partText m))) parts digits ws with
        | some ws => (ws, found ++ fields)
        | none => (ws, found))
    (ws, [])

/-- The layout that words make; every number has to stand for something. -/
def layoutOfWords : List LayoutWord → Option (List LayoutPart)
  | [] => some []
  | (_, some parts) :: rest => (layoutOfWords rest).map (parts ++ ·)
  | (w, none) :: rest =>
    if (numberOf? w).isSome then none else (layoutOfWords rest).map (.exact w :: ·)

/-- The layout with hours on a clock face where halves of the day are shown. -/
def onFace (layout : List LayoutPart) : List LayoutPart :=
  if layout.contains .half then
    layout.map fun part => if part = .hour then .faceHour else part
  else layout

/-- A number of two digits, or of one, from `least` to `greatest`, at the front of a text. -/
def takeSmall (least greatest : Nat) (cs : List Char) : List (Nat × List Char) :=
  let two :=
    match cs with
    | a :: b :: rest =>
      let n := 10 * digitValue a + digitValue b
      if isDigit a && isDigit b && least ≤ n && n ≤ greatest then [(n, rest)] else []
    | _ => []
  let one :=
    match cs with
    | a :: rest => if isDigit a && least ≤ digitValue a then [(digitValue a, rest)] else []
    | [] => []
  two ++ one

/-- One of the words at the front of a text in any letter case, by its place. -/
def takeWordOf (words : List String) (cs : List Char) : List (Nat × List Char) :=
  words.zipIdx.filterMap fun (w, i) =>
    if (cs.take w.length).map Char.toLower = w.toList.map Char.toLower then
      some (i, cs.drop w.length)
    else none

/-- What a text has shown so far of a moment. -/
structure Shown where
  year : Nat
  month : Nat
  day : Nat
  zone : Option Int

/-- Zero or one choice more for what stands at the front of a text. -/
def takeZone (s : Shown) (cs : List Char) : List (Shown × List Char) :=
  match cs with
  | 'Z' :: rest => [({ s with zone := some 0 }, rest)]
  | sign :: a :: b :: rest =>
    if (sign = '+' || sign = '-') && isDigit a && isDigit b then
      let rest :=
        match rest with
        | ':' :: more => more
        | more => more
      match rest with
      | c :: d :: more =>
        if '0' ≤ c && c ≤ '5' && isDigit d then
          let n : Int := digitsValue [a, b] * 3600 + digitsValue [c, d] * 60
          [({ s with zone := some (if sign = '-' then -n else n) }, more)]
        else []
      | _ => []
    else []
  | _ => []

/-- The ways in which a part of a layout may stand at the front of a text. -/
def takePart (s : Shown) (cs : List Char) : LayoutPart → List (Shown × List Char)
  | .year =>
    let ds := cs.take 4
    if ds.length = 4 && ds.all isDigit then [({ s with year := digitsValue ds }, cs.drop 4)] else []
  | .monthName =>
    (takeWordOf monthNames cs).map fun (i, rest) => ({ s with month := i + 1 }, rest)
  | .monthShort =>
    (takeWordOf (monthNames.map shortName) cs).map fun (i, rest) => ({ s with month := i + 1 }, rest)
  | .month => (takeSmall 1 12 cs).map fun (n, rest) => ({ s with month := n }, rest)
  | .day => (takeSmall 1 31 cs).map fun (n, rest) => ({ s with day := n }, rest)
  | .hour => (takeSmall 0 23 cs).map fun (_, rest) => (s, rest)
  | .faceHour => (takeSmall 1 12 cs).map fun (_, rest) => (s, rest)
  | .minute | .second => (takeSmall 0 59 cs).map fun (_, rest) => (s, rest)
  | .fraction =>
    let ds := (cs.takeWhile isDigit).take 9
    if ds = [] then [] else [(s, cs.drop ds.length)]
  | .zone => takeZone s cs
  | .weekdayShort => (takeWordOf (weekdayNames.map shortName) cs).map fun (_, rest) => (s, rest)
  | .weekdayName => (takeWordOf weekdayNames cs).map fun (_, rest) => (s, rest)
  | .half => (takeWordOf ["AM", "PM"] cs).map fun (_, rest) => (s, rest)
  | .exact text =>
    if (cs.take text.length).map Char.toLower = text.toList.map Char.toLower then
      [(s, cs.drop text.length)]
    else []

/-- The first way in which a text follows a layout. -/
def follow (s : Shown) (cs : List Char) : List LayoutPart → Option Shown
  | [] => if cs = [] then some s else none
  | part :: layout => (takePart s cs part).findSome? fun (s, rest) => follow s rest layout

/-- The offset of the moment that a text shows by a layout, if it shows one. -/
def zoneByLayout (layout : List LayoutPart) (text : String) : Option (Option Int) := do
  let s ← follow ⟨1900, 1, 1, none⟩ text.toList layout
  match Date.ofNumbers s.year s.month s.day, s.zone.all fun seconds => seconds.natAbs < 86400 with
  | .ok _, true => return s.zone
  | _, _ => none

/-- The layout that a text shows: one of a year, a month and a day at least, or of a year, or of a
year and a month with a hyphen. -/
def layoutOf (text : String) : Option (List LayoutPart) := do
  let (parts, shared) ← readParts text
  let m ← (momentOfParts false 2000 parts shared).toOption
  let ws := (withZoneWord m (dateWords text)).map fun w => (w, none)
  let (ws, found) := assignWords m ws
  let shape := ws.map (·.2)
  let isDate := [LayoutField.year, .month, .day].all found.contains
  let isMonth := shape = [some [.year], none, some [.month]] && (ws.getD 1 ("", none)).1 = "-"
  if !isDate && shape != [some [.year]] && !isMonth then none
  let layout := onFace (← layoutOfWords ws)
  let _ ← zoneByLayout layout text
  if String.join (layout.map (partText m)) = String.join (ws.map (·.1)) then return layout else none

/-- Texts that stand for a moment whatever the layout. -/
def isMomentWord (s : String) : Bool :=
  ["NaT", "nat", "NAT", "nan", "NaN", "NAN", "now", "today", ""].contains s

/-- Whether a text may be a date at all: a number below a thousand is none. -/
def looksLikeDate (s : String) : Bool :=
  match s.toList with
  | [] => true
  | c :: _ =>
    c == '0' || (!(["a", "A", "m", "M", "p", "P", "t", "T"].contains s) &&
      match numberOf? (trim s) with
      | some n => 1000 ≤ n.floor
      | none => true)

def isQuarterDigit : List Char → Bool
  | [c] => '1' ≤ c && c ≤ '4'
  | _ => false

def isQuarterYear (cs : List Char) : Bool :=
  cs.all isDigit && (cs.length = 2 || (cs.length = 4 && digitsValue cs != 0))

/-- Whether a text names a quarter of a year: a year and a digit in either order with the letter `Q`
behind the first of them or in front of the second, and maybe a hyphen between year and letter. -/
def isQuarter (cs : List Char) : Bool :=
  match cs.span isDigit with
  | (front, '-' :: letter :: back) =>
    letter.toUpper = 'Q' && isQuarterYear front && isQuarterDigit back
  | (front, letter :: back) =>
    let year :=
      match back with
      | '-' :: year => year
      | year => year
    letter.toUpper = 'Q' &&
      ((isQuarterDigit front && isQuarterYear year) || (isQuarterYear front && isQuarterDigit back))
  | _ => false

def zoneInFreeForm (s : String) : Except MomentFault (Option Int) :=
  if !looksLikeDate s then .error .refused
  else if isQuarter s.toList then .ok none
  else
    match readParts s with
    | none => .error .refused
    | some (parts, shared) =>
      (momentOfParts (beginsWithClock s.toList) 1 parts shared).map ZonedMoment.zone

/-- The offset of the moment that a text shows, by a layout if there is one; texts that stand for a moment
whatever the layout show none. `position` is where the text stands in its list. -/
def zoneAt (layout : Option (List LayoutPart)) (entry : String × Nat) :
    Except MomentFault (Option (Option Int)) :=
  let (s, position) := entry
  if isMomentWord s then .ok none
  else
    match layout with
    | some layout =>
      match zoneByLayout layout s with
      | some zone => .ok (some zone)
      | none => .error .refused
    | none =>
      match zoneInFreeForm s with
      | .ok zone => .ok (some zone)
      | .error (.overflow text) => .error (.overflow (text ++ s!", at position {position}"))
      | .error .refused => .error .refused

/-- Whether all offsets are one, or all absent. -/
def agree : List (Option Int) → Bool
  | [] => true
  | zone :: rest => rest.all (· == zone)

/-- Accepts a list of texts of moments with one offset, or all without one. The texts are read in turn, and
the first one that cannot be read decides what is wrong. -/
def readMoments (texts : List String) : Except MomentFault Unit := do
  let layout := (texts.find? fun s => !isMomentWord s).bind layoutOf
  let zones ← texts.zipIdx.mapM (zoneAt layout)
  if agree (zones.filterMap id) then return () else throw .refused

end WarehouseSchema.Calendar
