import WarehouseSchema.Proofs.Run.Configured
import WarehouseSchema.Proofs.Session.Events

/-!
Connections of runs. All tables are loaded and credentials are checked before a connection is opened, and
whatever happens over the connection, it is closed behind it. Main statement: a run takes notes at most,
or opens one connection, does all its work over it, closes it once, and ends as that work ended.
-/

namespace WarehouseSchema

open Session Journal

section
variable {e : Engine} {t : Table}

theorem TableReference.inner_columnNames (t : TableReference) : Inner t.columnNames :=
  ((inner_ask _).bind fun _ => inner_ofExcept _).bind fun _ => inner_pure _

theorem TableReference.inner_keyNames (t : TableReference) : Inner t.keyNames :=
  (inner_ask _).bind fun _ => inner_ofExcept _

theorem Schema.inner_hasTables (s : Schema) (tables : List String) : Inner (s.hasTables tables) :=
  ((inner_ask _).bind fun _ => inner_ofExcept _).bind fun _ => inner_pure _

theorem Table.inner_noteCreateSql (e : Engine) (t : Table) (withKeys : Bool) :
    Inner (t.noteCreateSql e withKeys) :=
  (inner_ofExcept _).bind fun _ => (inner_note _ _ _).bind fun _ => inner_pure _

namespace Plan

theorem inner_comparing (t : Table) (mismatch : Mismatch) (names : List String)
    {reflected : Session (List String)} (h : Inner reflected) :
    Inner (comparing t mismatch names reflected) := by
  refine h.bind fun actual => ?_
  by_cases hsame : actual.map Text.lower = names.map Text.lower
  · rw [if_pos hsame]
    exact inner_pure ()
  · rw [if_neg hsame]
    exact inner_ofExcept _

theorem inner_verifyTable (e : Engine) (t : Table) : Inner (t.verify e) := by
  rw [verify_eq]
  refine (inner_comparing t .columns _ (TableReference.inner_columnNames _)).bind fun _ => ?_
  cases t.keys.isEmpty with
  | true => exact inner_pure ()
  | false => exact inner_comparing t .keys _ (TableReference.inner_keyNames _)

variable (p : Plan) (t : Table)

theorem inner_report (message : String) : Inner (report message) := inner_note _ _ _

theorem inner_discard {α : Type} {s : Session α} (h : Inner s) : Inner (discard s) := by
  have hd : discard s = s >>= fun _ => pure () := by
    funext b j
    rfl
  rw [hd]
  exact h.bind fun _ => inner_pure ()

theorem inner_isPresent : Inner (p.isPresent t) := by
  unfold isPresent
  cases t.temporary with
  | true => exact inner_pure false
  | false => exact Schema.inner_hasTables _ _

theorem inner_drop : Inner (p.drop t) :=
  (inner_report _).bind fun _ => inner_discard (inner_ask _)

theorem inner_create : Inner (p.create t) :=
  (inner_report _).bind fun _ =>
    (Table.inner_noteCreateSql _ _ _).bind fun _ => inner_discard (inner_ask _)

theorem inner_exportTable : Inner (p.exportTable t) := by
  unfold exportTable
  generalize p.exportFolder = v
  by_cases hv : v.isTruthy = true
  · rw [if_pos hv]
    cases v with
    | text folder => exact inner_write _ _
    | _ => exact inner_ofExcept _
  · rw [if_neg hv]
    exact inner_pure ()

theorem inner_verify : Inner (p.verify t) := by
  unfold verify
  cases p.verifies && !t.temporary with
  | true => exact (inner_verifyTable _ _).bind fun _ => inner_report _
  | false => exact inner_pure ()

theorem inner_establish : Inner (p.establish t) :=
  (inner_create p t).bind fun _ => (inner_exportTable p t).bind fun _ => inner_verify p t

/-- Making one table neither opens a connection nor closes one. -/
theorem inner_make : Inner (p.make t) := by
  refine (inner_isPresent p t).bind fun present => ?_
  cases present with
  | false => exact inner_establish p t
  | true =>
    cases p.replaces with
    | false => exact inner_report _
    | true => exact (inner_drop p t).bind fun _ => inner_establish p t

theorem inner_makeAll (tables : List Table) : Inner (p.makeAll tables) := by
  induction tables with
  | nil => exact inner_pure ()
  | cons t rest ih => exact (inner_make p t).bind fun _ => ih

/-- A run that opens a connection behind its first notes and closes it at its end, once each. The tables
are made in between along the course of the plan, and the run ends as that does and leaves the files that
it leaves. -/
def ConnectedOnce (b : Backend) (j : Journal) (r : Except Fault Unit) (after : Journal) : Prop :=
  ∃ (notes : List Note) (during : List Event) (made : Journal),
    (p.makeAll p.tables).run b ⟨j.events ++ notes.map .note ++ [.opened], j.files⟩ = (r, made) ∧
      after.files = made.files ∧
      after.events = j.events ++ notes.map .note ++ [.opened] ++ during ++ [.closed] ∧
      (∀ ev ∈ during, ev ≠ .opened ∧ ev ≠ .closed) ∧
      Course p b j.statements j.files p.tables (during.filterMap Event.statement?) r after.files

theorem statements_of_notes (events : List Event) (notes : List Note) (fs : Files) :
    (⟨events ++ notes.map .note ++ [.opened], fs⟩ : Journal).statements =
      events.filterMap Event.statement? := by
  have hnotes : (notes.map Event.note).filterMap Event.statement? = [] := by
    simp [List.filterMap_map, Function.comp_def, Event.statement?]
  have hopened : [Event.opened].filterMap Event.statement? = [] := rfl
  rw [statements, List.filterMap_append, List.filterMap_append, hnotes, hopened, List.append_nil,
    List.append_nil]

/-- The work of a plan takes place inside one connection. -/
theorem connectedOnce_run {b : Backend} {j loaded : Journal} (hloaded : OnlyNoted j loaded)
    (hcreatable : ∀ t ∈ p.tables, t.Creatable p.engine) :
    ConnectedOnce p b j (p.run.run b loaded).1 (p.run.run b loaded).2 := by
  obtain ⟨hfiles, notes, hevents⟩ := hloaded
  obtain ⟨during, hduring, hinner⟩ := inner_makeAll p p.tables b (loaded.push .opened)
  have hopened : loaded.push .opened = ⟨j.events ++ notes.map .note ++ [.opened], j.files⟩ := by
    rw [push, hevents, hfiles]
  have hstatements : (loaded.push .opened).statements = j.statements := by
    rw [hopened, statements_of_notes, statements]
  obtain ⟨asked, r, files, hcourse, hasks⟩ : ∃ asked r files,
      Course p b j.statements j.files p.tables asked r files ∧
        Asks (p.makeAll p.tables) b j.statements j.files asked r files := asks_makeAll p hcreatable
  obtain ⟨made, hmade, hasked, hleft⟩ := hasks (loaded.push .opened) hstatements hfiles
  have hrun : p.run.run b loaded = (r, made.push .closed) := by
    rw [run, run_connected, hmade]
  rw [hmade, hopened] at hduring
  have hasked : during.filterMap Event.statement? = asked := by
    have hbefore := statements_of_notes j.events notes j.files
    rw [statements] at hbefore
    rw [statements, hduring, List.filterMap_append, hbefore] at hasked
    exact List.append_cancel_left hasked
  rw [hrun]
  refine ⟨notes, during, made, hopened ▸ hmade, rfl, ?_, hinner, ?_⟩
  · rw [events_push, hduring]
  · rw [hasked, files_push, hleft]
    exact hcourse

end Plan

end

namespace Configuration

def loadTable (c : Configuration) (files : Files) (e : Engine) (entry : Value) :
    Except Fault Table := do
  let description ← c.description files entry
  Table.ofValue e (← description.withSchema (← c.targetSchema))

theorem loadTables_eq (c : Configuration) (files : Files) (e : Engine) :
    c.loadTables files e = (do (← (← c.tables).items).mapM (c.loadTable files e)) := rfl

/-- A table cannot be read or is rejected, or credentials are missing. -/
inductive Unready (c : Configuration) (files : Files) : Prop where
  | table {tables entry : Value} {entries : List Value} : c.tables = .ok tables →
      tables.items = .ok entries → entry ∈ entries →
        (∀ e, c.engine = .ok e → ∃ fault, c.loadTable files e entry = .error fault) →
          Unready c files
  | credentials : (∀ e, c.engine = .ok e → c.settings.missing e ≠ []) → Unready c files

variable {env : Environment} {path : Path} {b : Backend} {j loaded : Journal} {c : Configuration}
  {p : Plan} {files : Files}

theorem plan_eq_ok (h : c.plan files = .ok p) :
    c.engine = .ok p.engine ∧ c.loadTables files p.engine = .ok p.tables := by
  obtain ⟨e, hengine, h⟩ := bind_eq_ok_iff.mp h
  obtain ⟨tables, htables, h⟩ := bind_eq_ok_iff.mp h
  obtain ⟨replaces, _, h⟩ := bind_eq_ok_iff.mp h
  obtain ⟨verifies, _, h⟩ := bind_eq_ok_iff.mp h
  obtain ⟨folder, _, h⟩ := bind_eq_ok_iff.mp h
  obtain rfl := pure_eq_ok_iff.mp h
  exact ⟨hengine, htables⟩

/-- One unready table is enough that there is no plan; without credentials, the plan is not carried
out. -/
theorem Unready.refused (h : c.Unready files) (hplan : c.plan files = .ok p) :
    ∃ fault, c.settings.checkCredentials p.engine = .error fault := by
  obtain ⟨hengine, htables⟩ := plan_eq_ok hplan
  cases h with
  | table hlist hitems hentry hfault =>
    rw [loadTables_eq, hlist, ok_bind, hitems, ok_bind] at htables
    obtain ⟨t, ht⟩ := exists_of_mapM htables hentry
    obtain ⟨fault, hfault⟩ := hfault _ hengine
    rw [hfault] at ht
    exact absurd ht (by simp)
  | credentials hmissing =>
    have hmissing := hmissing _ hengine
    unfold Settings.checkCredentials
    split
    · rename_i hnone
      exact absurd hnone hmissing
    · exact ⟨_, rfl⟩

section
variable {fault : Fault} (hload : (load env path variablesPath).run b j = (.ok c, loaded))
include hload

theorem runAt_of_unplanned (hplan : c.plan loaded.files = .error fault) :
    (runAt env path).run b j = (.error fault, loaded) := by
  have hfiles : Session.files.run b loaded = (.ok loaded.files, loaded) := rfl
  unfold runAt
  rw [run_bind_ok hload, run_bind_ok hfiles, hplan]
  exact run_bind_error rfl

theorem runAt_of_planned (hplan : c.plan loaded.files = .ok p) : (runAt env path).run b j =
    (ofExcept (c.settings.checkCredentials p.engine) >>= fun _ => p.run).run b loaded := by
  have hfiles : Session.files.run b loaded = (.ok loaded.files, loaded) := rfl
  unfold runAt
  rw [run_bind_ok hload, run_bind_ok hfiles, hplan]
  exact run_bind_ok rfl

theorem runAt_of_refused (hplan : c.plan loaded.files = .ok p)
    (hcredentials : c.settings.checkCredentials p.engine = .error fault) :
    (runAt env path).run b j = (.error fault, loaded) := by
  rw [runAt_of_planned hload hplan, hcredentials]
  exact run_bind_error rfl

theorem runAt_of_ready (hplan : c.plan loaded.files = .ok p)
    (hcredentials : c.settings.checkCredentials p.engine = .ok ()) :
    (runAt env path).run b j = p.run.run b loaded := by
  rw [runAt_of_planned hload hplan, hcredentials]
  exact run_bind_ok rfl

end

/-- A run opens no connection when a table cannot be read or is rejected, at whatever position, or when
credentials are missing. In every run that does not take notes only, one connection is opened and closed
once behind all that is done over it, and the run ends as the work over the connection did. -/
theorem runAt_connects_once (env : Environment) (path : Path) (b : Backend) (j : Journal) :
    (∀ c, ((load env path variablesPath).run b j).1 = .ok c → c.Unready j.files →
      (∃ fault, ((runAt env path).run b j).1 = .error fault) ∧
        OnlyNoted j ((runAt env path).run b j).2) ∧
    (((∃ fault, ((runAt env path).run b j).1 = .error fault) ∧
        OnlyNoted j ((runAt env path).run b j).2) ∨
      ∃ c p, ((load env path variablesPath).run b j).1 = .ok c ∧ c.plan j.files = .ok p ∧
        c.settings.checkCredentials p.engine = .ok () ∧
        p.ConnectedOnce b j ((runAt env path).run b j).1 ((runAt env path).run b j).2) := by
  have hnoted : OnlyNoted j ((load env path variablesPath).run b j).2 :=
    (noting_load env path variablesPath).onlyNoted b j
  rcases hload : (load env path variablesPath).run b j with ⟨r, loaded⟩
  rw [hload] at hnoted
  have hstops : ∀ fault, (runAt env path).run b j = (.error fault, loaded) →
      (∃ fault, ((runAt env path).run b j).1 = .error fault) ∧
        OnlyNoted j ((runAt env path).run b j).2 := by
    intro fault hrun
    rw [hrun]
    exact ⟨⟨fault, rfl⟩, hnoted⟩
  cases r with
  | error fault =>
    have hstopped := hstops fault (run_bind_error hload)
    exact ⟨fun _ _ _ => hstopped, Or.inl hstopped⟩
  | ok c =>
    have hfiles : loaded.files = j.files := hnoted.1
    cases hplan : c.plan j.files with
    | error fault =>
      have hstopped := hstops fault (runAt_of_unplanned hload (hfiles ▸ hplan))
      exact ⟨fun _ _ _ => hstopped, Or.inl hstopped⟩
    | ok p =>
      cases hcredentials : c.settings.checkCredentials p.engine with
      | error fault =>
        have hstopped := hstops fault (runAt_of_refused hload (hfiles ▸ hplan) hcredentials)
        exact ⟨fun _ _ _ => hstopped, Or.inl hstopped⟩
      | ok u =>
        have hrun : (runAt env path).run b j = p.run.run b loaded :=
          runAt_of_ready hload (hfiles ▸ hplan) hcredentials
        rw [hrun]
        refine ⟨?_, Or.inr ⟨c, p, rfl, hplan, hcredentials,
          Plan.connectedOnce_run p hnoted (creatable_of_plan hplan)⟩⟩
        -- A configuration that is not ready does not come to this point.
        intro c' hc' hunready
        obtain rfl := Except.ok.inj hc'
        obtain ⟨fault, hfault⟩ := hunready.refused hplan
        rw [hcredentials] at hfault
        exact absurd hfault (by simp)

end Configuration

end WarehouseSchema
