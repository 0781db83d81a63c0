import WarehouseSchema.Shape

/-!
Settings of the log: what is written, how and where to. Settings are read from a document; every
setting has a default, and names of other settings are refused.
-/

namespace WarehouseSchema

open Text

structure LogSettings where
  level : String
  consoleLevel : String
  format : String
  dateFormat : String
  json : Bool
  file : Option String
  maxFileMegabytes : Int
  backups : Int
  sourceLevels : List (String × String)
  quietDrivers : Bool
  driverSources : List String
  deriving DecidableEq, Repr

namespace LogSettings

def defaultDriverSources : List String :=
  ["snowflake.connector", "sqlalchemy.engine", "redshift_connector", "teradatasql",
   "urllib3.connectionpool"]

def default : LogSettings where
  level := "INFO"
  consoleLevel := "INFO"
  format := "%(asctime)s - %(name)s - %(levelname)s - %(message)s"
  dateFormat := "%Y-%m-%d %H:%M:%S"
  json := false
  file := none
  maxFileMegabytes := 10
  backups := 5
  sourceLevels := []
  quietDrivers := true
  driverSources := defaultDriverSources

def names : List String :=
  ["level", "console_level", "format", "date_format", "json_output", "log_file",
   "max_file_size_mb", "backup_count", "component_levels", "quiet_drivers", "driver_loggers"]

/-- The settings as a record, in the order of their names. -/
def toRecord (s : LogSettings) : Record :=
  [("level", .text s.level), ("console_level", .text s.consoleLevel), ("format", .text s.format),
   ("date_format", .text s.dateFormat), ("json_output", .bool s.json),
   ("log_file", (s.file.map .text).getD .null), ("max_file_size_mb", .int s.maxFileMegabytes),
   ("backup_count", .int s.backups),
   ("component_levels", .map (s.sourceLevels.map fun e => (.text e.1, .text e.2))),
   ("quiet_drivers", .bool s.quietDrivers),
   ("driver_loggers", .list (s.driverSources.map .text))]

def readSourceLevels : Value → Checked (List (String × String))
  | .map entries => readEntries entries
  | _ => Checked.refuse .dictType
where
  readEntries : List (Value × Value) → Checked (List (String × String))
    | [] => .ok []
    | (key, v) :: rest =>
      let here : Checked (String × String) :=
        Checked.apply
          (Checked.apply (.ok Prod.mk)
            (Checked.under key.stepText (Checked.under "[key]" (Shape.readText key))))
          (Checked.under key.stepText (Shape.readText v))
      Checked.apply (Checked.apply (.ok List.cons) here) (readEntries rest)

def readOptionalText : Value → Checked (Option String)
  | .null => .ok none
  | v => Checked.apply (.ok some) (Shape.readText v)

def ofValue : Value → Checked LogSettings
  | .map entries =>
    let parts := Checked.apply (.ok mk) (Shape.optional entries "level" default.level Shape.readText)
    let parts := Checked.apply parts
      (Shape.optional entries "console_level" default.consoleLevel Shape.readText)
    let parts := Checked.apply parts
      (Shape.optional entries "format" default.format Shape.readText)
    let parts := Checked.apply parts
      (Shape.optional entries "date_format" default.dateFormat Shape.readText)
    let parts := Checked.apply parts
      (Shape.optional entries "json_output" default.json Shape.readBool)
    let parts := Checked.apply parts
      (Shape.optional entries "log_file" default.file readOptionalText)
    let parts := Checked.apply parts
      (Shape.optional entries "max_file_size_mb" default.maxFileMegabytes
        (Shape.readIntWithin 1 1000))
    let parts := Checked.apply parts
      (Shape.optional entries "backup_count" default.backups (Shape.readIntWithin 1 50))
    let parts := Checked.apply parts
      (Shape.optional entries "component_levels" default.sourceLevels readSourceLevels)
    let parts := Checked.apply parts
      (Shape.optional entries "quiet_drivers" default.quietDrivers Shape.readBool)
    let parts := Checked.apply parts
      (Shape.optional entries "driver_loggers" default.driverSources
        (Shape.readItems Shape.readText))
    Checked.alongside parts (Shape.checkKeys (some names) entries)
  | _ => Checked.refuse .modelType

end LogSettings

end WarehouseSchema
