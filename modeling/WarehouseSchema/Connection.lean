import WarehouseSchema.Session
import WarehouseSchema.Text.Basic
import WarehouseSchema.Text.Blank

/-!
Connections to warehouses through a driver. A connection opens a handle when it needs one and finds
none, and keeps it until it is closed. A driver answers calls and is arbitrary: its reply may depend
on all calls before. Failures of the driver become failures of the query, with the driver's own
failure named in them.
-/

namespace WarehouseSchema

open Text

inductive DriverCall where
  | connect (parameters : Record)
  | openCursor
  | createPool (url : String)
  | begin
  | execute (sql : String)
  | fetch
  | closeCursor
  | commit
  | rollback
  | disconnect
  | dispose
  deriving Repr

structure DriverFailure where
  kind : String
  text : String
  deriving DecidableEq, Repr

/-- What answers calls: `some` rows where there are rows to fetch, or a failure. -/
structure Driver where
  reply : (earlier : List DriverCall) → (call : DriverCall) →
    Except DriverFailure (Option (List Record))

/-- How a warehouse is reached: by the parameters of a connection, or by the address of a pool. -/
inductive ConnectionKind where
  | direct (parameters : Record)
  | pooled (url : String)

/-- Whether a connection has a handle, the calls that it has made and the notes that it has taken. -/
structure ConnectionState where
  live : Bool
  calls : List DriverCall
  notes : List Note

abbrev Driving (α : Type) := ReaderT Driver (StateM ConnectionState) α

inductive ConnectionFault where
  | query (failure : QueryFailure)
  | driver (failure : DriverFailure)
  deriving DecidableEq, Repr

namespace ConnectionKind

def wrap (sql : Option String) (before : String) (f : DriverFailure) : ConnectionFault :=
  .query ⟨before ++ f.text, sql, some f.kind⟩

def ask (call : DriverCall) : Driving (Except DriverFailure (Option (List Record))) :=
  fun driver state =>
    (driver.reply state.calls call, { state with calls := state.calls ++ [call] })

/-- Says that there is a handle now, or none. -/
def setLive (live : Bool) : Driving Unit := modify fun state => { state with live }

def source : ConnectionKind → String
  | direct _ => "SnowflakeConnection"
  | pooled _ => "SQLAlchemyConnection"

/-- The first line of a statement, blanks around the statement not counting. -/
def firstLine (sql : String) : String :=
  String.ofList ((trimChars sql.toList).takeWhile (· != '\n'))

def announce (kind : ConnectionKind) (sql : String) : Driving Unit :=
  modify fun state =>
    { state with
      notes := state.notes ++ [⟨kind.source, Severity.debug, "Executing: " ++ firstLine sql⟩] }

def connect (parameters : Record) : Driving (Except ConnectionFault Unit) := do
  match ← ask (.connect parameters) with
  | .error f => return .error (wrap none "Failed to connect to Snowflake: " f)
  | .ok _ => do
    setLive true
    return .ok ()

/-- The rows of a statement that has been run, if it has any. -/
def fetchIf (ready : Option (List Record)) (sql : String) :
    Driving (Except ConnectionFault (List Record)) := do
  match ready with
  | none => return .ok []
  | some _ =>
    match ← ask .fetch with
    | .error f => return .error (wrap (some sql) "" f)
    | .ok rows => return .ok (rows.getD [])

def runAndFetch (sql : String) : Driving (Except ConnectionFault (List Record)) := do
  match ← ask (.execute sql) with
  | .error f => return .error (wrap (some sql) "" f)
  | .ok ready => fetchIf ready sql

/-- Runs a statement with a cursor of an open connection; the cursor is closed whatever happens. -/
def executeWithCursor (sql : String) : Driving (Except ConnectionFault (List Record)) := do
  match ← ask .openCursor with
  | .error f => return .error (.driver f)
  | .ok _ => do
    let result ← runAndFetch sql
    match ← ask .closeCursor with
    | .error f => return .error (.driver f)
    | .ok _ => return result

/-- Runs a statement in a transaction of a pool: committed if it succeeds, else rolled back. -/
def executeInTransaction (sql : String) : Driving (Except ConnectionFault (List Record)) := do
  match ← ask .begin with
  | .error f => return .error (wrap (some sql) "" f)
  | .ok _ => do
    match ← runAndFetch sql with
    | .ok rows => do
      match ← ask .commit with
      | .error f => return .error (wrap (some sql) "" f)
      | .ok _ => return .ok rows
    | .error fault => do
      match ← ask .rollback with
      | .error f => return .error (wrap (some sql) "" f)
      | .ok _ => return .error fault

/-- Runs a statement, after opening a handle if there is none. -/
def execute (kind : ConnectionKind) (sql : String) :
    Driving (Except ConnectionFault (List Record)) := do
  match kind with
  | direct parameters => do
    let opened ← if (← get).live then pure (.ok ()) else connect parameters
    match opened with
    | .error fault => return .error fault
    | .ok () => do
      kind.announce sql
      executeWithCursor sql
  | pooled url => do
    kind.announce sql
    if (← get).live then executeInTransaction sql
    else
      match ← ask (.createPool url) with
      | .error f => return .error (wrap (some sql) "" f)
      | .ok _ => do
        setLive true
        executeInTransaction sql

/-- Gives the handle up, if there is one. -/
def close (kind : ConnectionKind) : Driving (Except ConnectionFault Unit) := do
  if (← get).live then
    let call : DriverCall :=
      match kind with
      | direct _ => .disconnect
      | pooled _ => .dispose
    match ← ask call with
    | .error f => return .error (.driver f)
    | .ok _ => do
      setLive false
      return .ok ()
  else return .ok ()

end ConnectionKind

end WarehouseSchema
