import WarehouseSchema.Logging.Record
import WarehouseSchema.Logging.Settings
import WarehouseSchema.Text.Digit

/-!
The log as it is set up. A source has the level that was set for it or else that of the nearest
source around it; names are nested at their dots. A record that its source lets through goes to every
target whose own level lets it through.
-/

namespace WarehouseSchema

open Text

inductive LogLayout where
  | json
  | text (format datePattern : String)
  deriving DecidableEq, Repr

inductive LogTarget where
  | console
  | file (path : Path)
  deriving DecidableEq, Repr

/-- The log: the level of the outermost source, those of other sources, the targets with their
levels, and the layout of records. -/
structure Log where
  level : Severity
  sourceLevels : List (String × Severity)
  targets : List (LogTarget × Severity)
  layout : LogLayout
  deriving DecidableEq, Repr

namespace Log

def levelNames : List (String × Severity) :=
  [("CRITICAL", Severity.critical), ("FATAL", Severity.critical), ("ERROR", Severity.error),
   ("WARNING", Severity.warning), ("WARN", Severity.warning), ("INFO", Severity.info),
   ("DEBUG", Severity.debug), ("NOTSET", 0)]

/-- The basic format of records. Its name stands among those of the levels without being one. -/
def basicFormat : String := "%(levelname)s:%(name)s:%(message)s"

def levelOf (name : String) : Except Fault Severity :=
  match levelNames.lookup (upper name) with
  | some level => .ok level
  | none =>
    if upper name = "BASIC_FORMAT" then
      .error (.badFormat ("Unknown level: " ++ literal basicFormat))
    else if upper name = "_STYLES" then .error .wrongType
    else .error .wrongAttribute

def isNameChar (c : Char) : Bool := c.isAlphanum || c == '_' || isCased c || (decimalValue? c).isSome

/-- The text behind an amount: an asterisk or digits. -/
def dropAmount (cs : List Char) : List Char :=
  match cs with
  | '*' :: rest => rest
  | rest => rest.dropWhile fun c => (decimalValue? c).isSome

/-- Whether a text begins with the place of a named part. -/
def beginsPlace (cs : List Char) : Bool :=
  match cs with
  | '%' :: '(' :: rest =>
    match rest.span isNameChar with
    | (_ :: _, ')' :: rest) =>
      let rest := dropAmount (rest.dropWhile "#0+ -".toList.contains)
      let rest :=
        match rest with
        | '.' :: more => if (dropAmount more).length < more.length then dropAmount more else rest
        | more => more
      (rest.head?.map fun c => "diouxefgcrsa%".toList.contains c.toLower).getD false
    | _ => false
  | _ => false

/-- Whether the place of a named part occurs in a text. -/
def hasPlace : List Char → Bool
  | [] => false
  | c :: cs => beginsPlace (c :: cs) || hasPlace cs

/-- The layout that settings ask for; a format needs the place of a part. -/
def layoutOf (s : LogSettings) : Except Fault LogLayout :=
  if s.json then .ok .json
  else
    let format := if s.format = "" then "%(message)s" else s.format
    if hasPlace format.toList then .ok (.text format s.dateFormat)
    else .error (.badFormat ("Invalid format '" ++ format ++ "' for '%' style"))

/-- The files with a log file at a path, an empty one if there was none. -/
def openFile (fs : Files) (p : Path) : Except Fault Files :=
  match fs.read p with
  | .ok _ => .ok fs
  | .error _ => fs.write p ""

/-- The source levels with `level` for a source; the outermost source has no name or is `root`. -/
def setLevel (log : Log) (source : String) (level : Severity) : Log :=
  if source = "" || source = "root" then { log with level }
  else
    { log with
      sourceLevels := (log.sourceLevels.filter fun e => e.1 != source) ++ [(source, level)] }

def setNamedLevels (log : Log) : List (String × String) → Except Fault Log
  | [] => .ok log
  | (source, name) :: rest => do setNamedLevels (log.setLevel source (← levelOf name)) rest

def setUp (s : LogSettings) : ExceptT Fault (StateM Files) Log := do
  let level ← levelOf s.level
  let layout ← layoutOf s
  let consoleLevel ← levelOf s.consoleLevel
  let targets ←
    match s.file with
    | none | some "" => pure []
    | some name => do
      let p := Path.ofText name
      set (← (← get).makeFolder p.parent)
      set (← openFile (← get) p)
      pure [(LogTarget.file p, level)]
  let log : Log := ⟨level, [], (.console, consoleLevel) :: targets, layout⟩
  let log ← log.setNamedLevels s.sourceLevels
  return if s.quietDrivers then s.driverSources.foldl (setLevel · · Severity.warning) log else log

/-- The level that was set for a source, zero if none was. -/
def ownLevel (log : Log) (source : String) : Severity :=
  if source = "" || source = "root" then log.level
  else (log.sourceLevels.lookup source).getD 0

/-- The sources around a source, from the inside out, and before them the source itself. -/
def around (source : String) : List String :=
  let parts := splitOn '.' source.toList
  (List.range parts.length).map fun k =>
    String.ofList (['.'].intercalate (parts.take (parts.length - k)))

def effectiveLevel (log : Log) (source : String) : Severity :=
  let found := (around source).findSome? fun name =>
    let level := (log.sourceLevels.lookup name).getD 0
    if level = 0 then none else some level
  if source = "" || source = "root" then log.level else found.getD log.level

def lets (log : Log) (source : String) (severity : Severity) : Bool :=
  0 < severity && log.effectiveLevel source ≤ severity

def line (log : Log) (r : LogRecord) : Except Fault String :=
  match log.layout with
  | .json => r.toJson
  | .text format datePattern => r.toText format datePattern

/-- What is written for a record, by target; nothing when the record has no line. -/
def write (log : Log) (r : LogRecord) : List (LogTarget × String) :=
  if log.lets r.source r.severity then
    match log.line r with
    | .ok text => (log.targets.filter fun t => t.2 ≤ r.severity).map fun t => (t.1, text ++ "\n")
    | .error _ => []
  else []

def writeAll (log : Log) (records : List LogRecord) (fs : Files) : String × Files :=
  (records.flatMap log.write).foldl
    (fun (console, fs) (target, text) =>
      match target with
      | .console => (console ++ text, fs)
      | .file p =>
        match fs.read p with
        | .ok before => (console, ((fs.write p (before ++ text)).toOption).getD fs)
        | .error _ => (console, fs))
    ("", fs)

end Log

end WarehouseSchema
