import WarehouseSchema.Storage.Files

/-!
Work with a warehouse. A backend answers statements and is arbitrary: its answer may depend on all
statements before. A session asks a backend, takes notes and writes files; the journal keeps what
happened, in order, also when a session stops with a fault.
-/

namespace WarehouseSchema

/-- The severity of a note; greater is more severe. -/
abbrev Severity := Int

namespace Severity

/-- For following a run in detail. -/
def debug : Severity := 10

/-- For following a run. -/
def info : Severity := 20

/-- For what may need attention. -/
def warning : Severity := 30

/-- For what went wrong. -/
def error : Severity := 40

end Severity

structure Note where
  source : String
  severity : Severity
  message : String
  deriving DecidableEq, Repr

/-- What answers statements: rows, or a failure. -/
structure Backend where
  answer : (earlier : List String) → (sql : String) → Except QueryFailure (List Record)

inductive Event where
  | opened
  | statement (sql : String)
  | note (note : Note)
  | wrote (path : Path) (text : String)
  | closed
  deriving DecidableEq, Repr

def Event.statement? : Event → Option String
  | .statement sql => some sql
  | _ => none

def Event.note? : Event → Option Note
  | .note n => some n
  | _ => none

/-- What happened so far, and the files as they are now. -/
structure Journal where
  events : List Event
  files : Files

namespace Journal

/-- The statements that were asked, in order. -/
def statements (j : Journal) : List String := j.events.filterMap Event.statement?

/-- The notes that were taken, in order. -/
def notes (j : Journal) : List Note := j.events.filterMap Event.note?

def opens (j : Journal) : Nat := j.events.count .opened

def closes (j : Journal) : Nat := j.events.count .closed

def push (j : Journal) (e : Event) : Journal := { j with events := j.events ++ [e] }

@[simp] theorem events_push (j : Journal) (e : Event) : (j.push e).events = j.events ++ [e] := rfl

@[simp] theorem files_push (j : Journal) (e : Event) : (j.push e).files = j.files := rfl

theorem statements_push (j : Journal) (e : Event) :
    (j.push e).statements = j.statements ++ e.statement?.toList := by
  cases e <;> simp [statements, push, Event.statement?]

def start (files : Files) : Journal := ⟨[], files⟩

end Journal

/-- A run with a backend that gives a result or stops with a fault. -/
abbrev Session (α : Type) := ReaderT Backend (ExceptT Fault (StateM Journal)) α

namespace Session

def run {α : Type} (s : Session α) (backend : Backend) (journal : Journal) :
    Except Fault α × Journal := s backend journal

def ofExcept {α : Type} (r : Except Fault α) : Session α := fun _ journal => (r, journal)

def record (e : Event) : Session Unit := fun _ journal => (.ok (), journal.push e)

def note (severity : Severity) (source message : String) : Session Unit :=
  record (.note ⟨source, severity, message⟩)

def files : Session Files := fun _ journal => (.ok journal.files, journal)

/-- Asks the backend and hands on its answer, be it a failure. -/
def attempt (sql : String) : Session (Except QueryFailure (List Record)) := fun backend journal =>
  (.ok (backend.answer journal.statements sql), journal.push (.statement sql))

/-- Asks the backend; a failure stops the session. -/
def ask (sql : String) : Session (List Record) := do
  match ← attempt sql with
  | .ok rows => return rows
  | .error failure => ofExcept (.error (.query failure))

/-- Writes a text file, with the folders that its path needs. -/
def write (p : Path) (text : String) : Session Unit := fun _ journal =>
  match journal.files.withFile p text with
  | .ok files => (.ok (), { journal with files }.push (.wrote p text))
  | .error fault =>
    match journal.files.makeFolder p.parent with
    | .ok files => (.error fault, { journal with files })
    | .error _ => (.error fault, journal)

/-- Runs a session over a connection that is opened before and closed after it, whatever its
outcome. -/
def connected {α : Type} (s : Session α) : Session α := fun backend journal =>
  let (r, journal) := s backend (journal.push .opened)
  (r, journal.push .closed)

theorem run_attempt (sql : String) (b : Backend) (j : Journal) :
    (attempt sql).run b j = (.ok (b.answer j.statements sql), j.push (.statement sql)) := rfl

theorem run_connected {α : Type} (s : Session α) (b : Backend) (j : Journal) :
    (connected s).run b j =
      ((s.run b (j.push .opened)).1, (s.run b (j.push .opened)).2.push .closed) := rfl

end Session

end WarehouseSchema
