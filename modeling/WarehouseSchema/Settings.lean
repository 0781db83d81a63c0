import WarehouseSchema.Environment.File
import WarehouseSchema.Json.Reader
import WarehouseSchema.Logging.Settings

/-!
Settings of connections and of the log, from the environment and from a file of variables in the
working folder; where both have a variable, the environment counts. Settings of the log are one JSON
object, single variables whose names lead into it, or both.
-/

namespace WarehouseSchema

open Text

structure Settings where
  account : Option String
  user : Option String
  password : Option String
  warehouse : String
  role : String
  database : Option String
  url : Option String
  log : LogSettings
  deriving DecidableEq, Repr

namespace Settings

mutual

/-- The entries with those of another map put over them; maps under one key are merged likewise. -/
def merge (below : List (Value × Value)) : List (Value × Value) → List (Value × Value)
  | [] => below
  | (key, v) :: rest =>
    let earlier := (below.find? fun e => e.1.sameKey key).map (·.2)
    merge (Value.putEntry below key (mergeValue earlier v)) rest

/-- The value that counts where there was another one before. -/
def mergeValue (earlier : Option Value) : Value → Value
  | .map upper =>
    match earlier with
    | some (.map lower) => .map (merge lower upper)
    | _ => .map upper
  | v => v

end

/-- The entries with a value at the end of a way of keys. A way that leads through a value that is no
map is given up. -/
def putWithin : List String → String → Value → List (Value × Value) → List (Value × Value)
  | [], name, v, entries => Value.putEntry entries (.text name) v
  | key :: way, name, v, entries =>
    match Value.entry? entries key with
    | some (.map inner) => Value.putEntry entries (.text key) (.map (putWithin way name v inner))
    | some _ => entries
    | none => Value.putEntry entries (.text key) (.map (putWithin way name v []))

def readJson (s : String) : Except Fault Value :=
  match Json.read s with
  | .ok v => .ok v
  | .error _ => .error .settings

/-- The parts between double underscores. -/
def waySteps : List Char → List (List Char)
  | '_' :: '_' :: cs => [] :: waySteps cs
  | c :: cs =>
    match waySteps cs with
    | step :: steps => (c :: step) :: steps
    | [] => [[c]]
  | [] => [[]]

def jsonSettings : List String := ["component_levels", "driver_loggers"]

def logName : String := "logging"

def logEntries : Variables → Except Fault (List (Value × Value)) → Except Fault (List (Value × Value))
  | [], entries => entries
  | (name, text) :: rest, entries => do
    let start := (logName ++ "__").toList
    if !start.isPrefixOf name.toList then logEntries rest entries
    else
      let steps := (waySteps (name.toList.drop start.length)).map String.ofList
      let way := steps.dropLast
      let last := steps.getLastD ""
      let v ←
        match text with
        | none => pure .null
        | some s =>
          if way = [] && jsonSettings.contains last && s != "" then readJson s
          else pure (.text s)
      logEntries rest (do return putWithin way last v (← entries))

/-- The entries with the names of settings of the log in place of their other spellings. -/
def spellNames (entries : List (Value × Value)) : List (Value × Value) :=
  entries.foldl
    (fun es (key, v) =>
      let name := key.text?.bind fun s => LogSettings.names.find? fun n => n == lower s
      Value.putEntry es ((name.map Value.text).getD key) v)
    []

/-- What variables say about the log; `none` if nothing. -/
def logValue (vars : Variables) : Except Fault (Option Value) := do
  match vars.text? logName with
  | none => do
    let entries ← logEntries vars (.ok [])
    return if entries.isEmpty then none else some (.map (spellNames entries))
  | some s => do
    match ← readJson s with
    | .null => return none
    | .map entries =>
      return some (.map (spellNames (merge entries (← logEntries vars (.ok [])))))
    | v => return some v

/-- The value of which the upper one counts, maps being merged. -/
def merged (above below : Option Value) : Option Value :=
  match above, below with
  | some (.map upper), some (.map lower) => some (.map (merge lower upper))
  | some v, _ => some v
  | none, v => v

def ofVariables (env file : Variables) : Except Fault Settings := do
  let text? (name : String) : Option String := env.text? name <|> file.text? name
  let envLog ← logValue env
  let fileLog ← logValue file
  let log ←
    match merged envLog fileLog with
    | none => pure LogSettings.default
    | some v => Checked.orFault (Checked.under logName (LogSettings.ofValue v))
  return {
    account := text? "snowflake_account"
    user := text? "snowflake_user"
    password := text? "snowflake_password"
    warehouse := (text? "snowflake_warehouse").getD "COMPUTE_WH"
    role := (text? "snowflake_role").getD "SYSADMIN"
    database := text? "snowflake_database"
    url := text? "sqlalchemy_url"
    log }

def variablesPath : Path := Path.ofText ".env"

def load (env : Environment) : Session Settings := do
  let file ← EnvironmentFile.load true env variablesPath
  Session.ofExcept (ofVariables env.toVariables file.lowered)

def given (s : Option String) : Option String := s.filter (· != "")

def parameters (s : Settings) : Record :=
  let optional (t : Option String) : Value := (t.map .text).getD .null
  [("account", optional s.account), ("user", optional s.user),
   ("password", optional (given s.password)), ("warehouse", .text s.warehouse),
   ("role", .text s.role)] ++
    (given s.database).toList.map fun d => ("database", .text d)

/-- The credentials that a warehouse needs, with what the settings hold for them. -/
def credentials (s : Settings) : Engine → List (String × Option String)
  | .snowflake =>
    [("SNOWFLAKE_ACCOUNT", s.account), ("SNOWFLAKE_USER", s.user),
     ("SNOWFLAKE_PASSWORD", s.password)]
  | .redshift | .teradata => [("SQLALCHEMY_URL", s.url)]

/-- The names of the credentials that are missing for a warehouse. -/
def missing (s : Settings) (e : Engine) : List String :=
  ((s.credentials e).filter fun c => (given c.2).isNone).map (·.1)

/-- Refuses settings without the credentials of a warehouse. -/
def checkCredentials (s : Settings) (e : Engine) : Except Fault Unit :=
  match s.missing e with
  | [] => .ok ()
  | names => .error (.missingCredentials names)

end Settings

end WarehouseSchema
