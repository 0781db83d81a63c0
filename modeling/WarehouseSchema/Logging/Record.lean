import WarehouseSchema.Calendar.Pattern
import WarehouseSchema.Json.Writer
import WarehouseSchema.Session
import WarehouseSchema.Template

/-!
Records of the log and their lines. A record is written as one JSON object or by a format with places
for its parts; the failure that it reports follows on a line of its own.
-/

namespace WarehouseSchema

open Text Number

namespace Severity

/-- For what stops a run. -/
def critical : Severity := 50

def text (s : Severity) : String :=
  match [(0, "NOTSET"), (debug, "DEBUG"), (info, "INFO"), (warning, "WARNING"), (error, "ERROR"),
    (critical, "CRITICAL")].lookup s with
  | some name => name
  | none => "Level " ++ intText s

end Severity

/-- A record of the log. `time` is in seconds since 1970-01-01 00:00 universal time. -/
structure LogRecord where
  source : String
  severity : Severity
  message : Value
  arguments : List Value
  sql : Value
  time : Binary64
  failure : Option String

def Note.toRecord (n : Note) : LogRecord :=
  ⟨n.source, n.severity, .text n.message, [], .null, .zero false, none⟩

namespace LogRecord

/-- The quotient rounded to the nearest integer, a half to the even one, with a sign. -/
def roundSigned (negative : Bool) (num den : Nat) : Int :=
  let n : Int := roundHalfEven num den
  if negative then -n else n

/-- Microseconds since 1970-01-01 that a count of seconds makes. -/
def microseconds : Binary64 → Except Fault Int
  | .nan => .error .notANumberInteger
  | .infinite _ => .error .infiniteInteger
  | .finite negative m e =>
    let whole := wholePart m e
    let fraction := if 0 ≤ e then 0 else m % twoTo (-e).toNat
    match Binary64.mul (.finite negative fraction e) (.ofInt 1000000) with
    | .finite negative m e =>
      let (n, d) := Binary64.toRatio false m e
      let n := n.natAbs
      let seconds : Int := if negative then -whole else whole
      .ok (seconds * 1000000 + roundSigned negative n d)
    | _ => .error .infiniteInteger
where
  wholePart (m : Nat) (e : Int) : Int := (Binary64.wholePart m e : Nat)

/-- The moment that lies a count of microseconds after 1970-01-01, within the years of the
calendar. -/
def momentOf (microseconds : Int) : Except Fault Moment :=
  let days := microseconds / 86400000000
  if days < -(Calendar.epochDay : Int) then .error (.calendar (.year 0))
  else if 2932896 < days then
    .error (.calendar (.year ((days + Calendar.epochDay) * 400 / 146097 + 1).toNat))
  else .ok (.ofEpoch microseconds)

/-- What the message is filled with: a single map that is not empty is looked up by key. -/
def templateArguments (r : LogRecord) : Template.Arguments :=
  match r.arguments with
  | [.map (e :: entries)] => .byKey (e :: entries)
  | values => .inTurn values

/-- The message with its places filled; without arguments it is left as it is. -/
def messageText (r : LogRecord) : Except Fault String := do
  let s ← Fault.ofText r.message.display
  if r.arguments.isEmpty then return s else Template.render s r.templateArguments

def failureText (text : String) : String := if text = "" then "ValueError" else "ValueError: " ++ text

def toJson (r : LogRecord) : Except Fault String := do
  let time ← momentOf (← microseconds r.time)
  let entry (name : String) (v : Value) : Value × Value := (.text name, v)
  let entries := [entry "time" (.text (time.text "T")), entry "level" (.text r.severity.text),
    entry "logger" (.text r.source), entry "message" (.text (← r.messageText))]
  let sql :=
    match r.sql with
    | .null => []
    | sql => [entry "sql" sql]
  let failure := r.failure.toList.map fun text => entry "exception" (.text (failureText text))
  Json.write (.map (entries ++ sql ++ failure))

/-- The time of a record by a pattern; without one with the milliseconds behind a comma. -/
def timeText (pattern : String) (r : LogRecord) : Except Fault String := do
  let count ← microseconds r.time
  let moment ← momentOf (count / 1000000 * 1000000)
  if pattern = "" then
    return Calendar.write "%Y-%m-%d %H:%M:%S" moment ++ "," ++
      paddedNat 3 (count % 1000000 / 1000).toNat
  else return Calendar.write pattern moment

def parts (time : Option String) (message : String) (r : LogRecord) : List (Value × Value) :=
  let entry (name : String) (v : Value) : Value × Value := (.text name, v)
  [entry "name" (.text r.source), entry "msg" r.message, entry "args" (.tuple r.arguments),
   entry "levelname" (.text r.severity.text), entry "levelno" (.int r.severity),
   entry "created" (.float r.time), entry "sql" r.sql, entry "message" (.text message)] ++
    time.toList.map fun s => entry "asctime" (.text s)

def toText (format datePattern : String) (r : LogRecord) : Except Fault String := do
  let message ← r.messageText
  let time ←
    if occursIn "%(asctime)".toList format.toList then some <$> r.timeText datePattern
    else pure none
  let line ← Template.render format (.byKey (r.parts time message))
  match r.failure with
  | none => return line
  | some text =>
    return line ++ (if line.toList.getLast? = some '\n' then "" else "\n") ++ failureText text

end LogRecord

end WarehouseSchema
