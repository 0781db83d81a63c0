import WarehouseSchema.Proofs.Run.Course
import WarehouseSchema.Proofs.Table.Creatable

/-!
The statements of a run. Each step of a run asks what its relation says, from which the same follows for
whole runs. Main statement: a plan whose tables can be created is carried out along its course.
-/

namespace WarehouseSchema

open Text Reflection Session

theorem Backend.read_map {α β : Type} {b : Backend} {earlier : List String} {sql : String}
    (read : List Record → Except Fault α) (f : α → β) :
    b.read earlier sql (fun rows => (read rows).map f) = (b.read earlier sql read).map f := by
  unfold Backend.read
  split <;> rfl

section
variable {b : Backend} {earlier : List String} {fs : Files}

theorem Schema.asks_hasTable (s : Schema) (table : String) :
    Asks (s.hasTables [table]) b earlier fs [(CatalogQuery.tables s.name).render s.engine]
      ((b.read earlier ((CatalogQuery.tables s.name).render s.engine) (listedNames s.engine)).map
        (·.contains table)) fs := by
  have hnames : Asks s.tableNames b earlier fs [(CatalogQuery.tables s.name).render s.engine]
      (b.read earlier ((CatalogQuery.tables s.name).render s.engine) (listedNames s.engine)) fs :=
    asks_read _ _
  have hall : ∀ listed : List String, [table].all listed.contains = listed.contains table := by
    simp
  unfold hasTables
  simp only [hall]
  exact hnames.map _

theorem TableReference.asks_columnNames (t : TableReference) :
    Asks t.columnNames b earlier fs [(CatalogQuery.columns t.schema t.table).render t.engine]
      (b.read earlier ((CatalogQuery.columns t.schema t.table).render t.engine)
        fun rows => (describedColumns t.engine rows).map Columns.names) fs := by
  have hcolumns : Asks t.columns b earlier fs
      [(CatalogQuery.columns t.schema t.table).render t.engine]
      (b.read earlier ((CatalogQuery.columns t.schema t.table).render t.engine)
        (describedColumns t.engine)) fs := asks_read _ _
  rw [Backend.read_map]
  exact hcolumns.map _

theorem TableReference.asks_keyNames (t : TableReference) :
    Asks t.keyNames b earlier fs [(CatalogQuery.keys t.schema t.table).render t.engine]
      (b.read earlier ((CatalogQuery.keys t.schema t.table).render t.engine)
        (Reflection.keyNames t.engine)) fs :=
  asks_read _ _

theorem asks_write (p : Path) (text : String) :
    Asks (Session.write p text) b earlier fs [] (fs.written p text).1 (fs.written p text).2 := by
  intro j hs hf
  subst hs hf
  unfold Files.written
  cases hfile : j.files.withFile p text with
  | ok after =>
    refine ⟨_, by rw [run, write, hfile], ?_, rfl⟩
    rw [Journal.statements_push, List.append_nil]
    exact List.append_nil _
  | error fault =>
    cases hfolder : j.files.makeFolder p.parent with
    | ok after =>
      refine ⟨{ j with files := after }, ?_, (List.append_nil _).symm, rfl⟩
      simp only [run, write, hfile, hfolder]
    | error _ =>
      refine ⟨j, ?_, (List.append_nil _).symm, rfl⟩
      simp only [run, write, hfile, hfolder]

namespace Plan

variable (p : Plan) (t : Table)

theorem asks_report (message : String) : Asks (report message) b earlier fs [] (.ok ()) fs :=
  asks_note _ _ _

theorem asks_exportTable :
    Asks (p.exportTable t) b earlier fs [] (p.exported t fs).1 (p.exported t fs).2 := by
  unfold exportTable exported
  generalize p.exportFolder = v
  by_cases hv : v.isTruthy = true
  · rw [if_pos hv, if_pos hv]
    cases v with
    | text folder => exact asks_write _ _
    | _ => exact asks_ofExcept _
  · rw [if_neg hv, if_neg hv]
    exact asks_pure ()

theorem asks_drop : Asks (p.drop t) b earlier fs [p.dropping t]
    ((b.read earlier (p.dropping t) .ok).map fun _ => ()) fs :=
  (asks_report _).after_quiet (asks_discard (asks_ask _))

theorem asks_create (h : t.Creatable p.engine) : Asks (p.create t) b earlier fs [p.creating t]
    ((b.read earlier (p.creating t) .ok).map fun _ => ()) fs := by
  have hsql : Asks (t.noteCreateSql p.engine true) b earlier fs [] (.ok (p.creating t)) fs := by
    unfold Table.noteCreateSql
    rw [h.createSql_eq_ok]
    exact (asks_ofExcept _).after_quiet ((asks_note _ _ _).after_quiet (asks_pure _))
  exact (asks_report _).after_quiet (hsql.after_quiet (asks_discard (asks_ask _)))

/-- The comparison of reflected names with those of a table. -/
def comparing (mismatch : Mismatch) (names : List String) (reflected : Session (List String)) :
    Session Unit := do
  let actual ← reflected
  if actual.map lower = names.map lower then return ()
  else
    Session.ofExcept
      (.error (.verification mismatch t.schema t.name (names.map lower) (actual.map lower)))

theorem verify_eq (e : Engine) :
    t.verify e = (comparing t .columns t.columns.names (t.reference e).columnNames >>= fun _ =>
      if t.keys.isEmpty then pure () else comparing t .keys t.keys (t.reference e).keyNames) := rfl

theorem asks_comparing_ok (mismatch : Mismatch) {names actual asked : List String}
    {reflected : Session (List String)} (h : Asks reflected b earlier fs asked (.ok actual) fs)
    (hsame : actual.map lower = names.map lower) :
    Asks (comparing t mismatch names reflected) b earlier fs asked (.ok ()) fs := by
  refine h.then_quiet ?_
  rw [if_pos hsame]
  exact asks_pure ()

theorem asks_comparing_error (mismatch : Mismatch) {names actual asked : List String}
    {reflected : Session (List String)} (h : Asks reflected b earlier fs asked (.ok actual) fs)
    (hdiffer : actual.map lower ≠ names.map lower) :
    Asks (comparing t mismatch names reflected) b earlier fs asked
      (.error (.verification mismatch t.schema t.name (names.map lower) (actual.map lower))) fs := by
  refine h.then_quiet ?_
  rw [if_neg hdiffer]
  exact asks_ofExcept _

theorem asks_verify : ∃ asked r, Verification p b t earlier asked r ∧
    Asks (t.verify p.engine) b earlier fs asked r fs := by
  have hcolumns : Asks (t.reference p.engine).columnNames b earlier fs [p.describing t]
      (b.read earlier (p.describing t) p.describedNames) fs := TableReference.asks_columnNames _
  have hkeys : Asks (t.reference p.engine).keyNames b (earlier ++ [p.describing t]) fs
      [p.keyListing t] (b.read (earlier ++ [p.describing t]) (p.keyListing t)
        (keyNames p.engine)) fs := TableReference.asks_keyNames _
  rw [verify_eq]
  cases hnames : b.read earlier (p.describing t) p.describedNames with
  | error fault =>
    rw [hnames] at hcolumns
    exact ⟨_, _, .undescribed hnames, hcolumns.bind_error.bind_error⟩
  | ok names =>
    rw [hnames] at hcolumns
    by_cases hmatch : names.map lower = t.columns.names.map lower
    -- Only behind matching columns are the keys asked for.
    · have hmatched := asks_comparing_ok t .columns hcolumns hmatch
      by_cases hkeyless : t.keys = []
      · refine ⟨_, _, .keyless hnames hmatch hkeyless, hmatched.then_quiet ?_⟩
        rw [hkeyless]
        exact asks_pure ()
      · have hkeyed : t.keys.isEmpty ≠ true := by simpa using hkeyless
        rw [if_neg hkeyed]
        cases hlisted : b.read (earlier ++ [p.describing t]) (p.keyListing t)
            (keyNames p.engine) with
        | error fault =>
          rw [hlisted] at hkeys
          exact ⟨_, _, .keysUnlisted hnames hmatch hkeyless hlisted,
            hmatched.bind hkeys.bind_error⟩
        | ok keys =>
          rw [hlisted] at hkeys
          by_cases hsame : keys.map lower = t.keys.map lower
          · exact ⟨_, _, .keysMatch hnames hmatch hkeyless hlisted hsame,
              hmatched.bind (asks_comparing_ok t .keys hkeys hsame)⟩
          · exact ⟨_, _, .keysDiffer hnames hmatch hkeyless hlisted hsame,
              hmatched.bind (asks_comparing_error t .keys hkeys hsame)⟩
    · exact ⟨_, _, .columnsDiffer hnames hmatch,
        (asks_comparing_error t .columns hcolumns hmatch).bind_error⟩

/-- What is done with a table once it is not in the way. -/
def establish : Session Unit := do
  p.create t
  p.exportTable t
  p.verify t

theorem asks_planVerify_off (h : p.verifies = false ∨ t.temporary = true) :
    Asks (p.verify t) b earlier fs [] (.ok ()) fs := by
  have hoff : (p.verifies && !t.temporary) ≠ true := by
    rcases h with h | h <;> simp [h]
  unfold verify
  rw [if_neg hoff]
  exact asks_pure ()

theorem asks_planVerify_on (hv : p.verifies = true) (ht : t.temporary = false) :
    ∃ asked r, Verification p b t earlier asked r ∧ Asks (p.verify t) b earlier fs asked r fs := by
  have hon : (p.verifies && !t.temporary) = true := by simp [hv, ht]
  obtain ⟨asked, r, hverification, hasks⟩ : ∃ asked r, Verification p b t earlier asked r ∧
    Asks (t.verify p.engine) b earlier fs asked r fs := asks_verify p t
  refine ⟨asked, r, hverification, ?_⟩
  unfold verify
  rw [if_pos hon]
  cases r with
  | error fault => exact hasks.bind_error
  | ok u => exact hasks.then_quiet (asks_report _)

theorem asks_establish (h : t.Creatable p.engine) : ∃ asked r after,
    Creation p b t earlier fs asked r after ∧ Asks (p.establish t) b earlier fs asked r after := by
  have hcreate : Asks (p.create t) b earlier fs [p.creating t] _ fs := asks_create p t h
  unfold Backend.read at hcreate
  cases hanswer : b.answer earlier (p.creating t) with
  | error failure =>
    rw [hanswer] at hcreate
    exact ⟨_, _, _, .refused hanswer, hcreate.bind_error⟩
  | ok rows =>
    rw [hanswer] at hcreate
    have hexport : Asks (p.exportTable t) b (earlier ++ [p.creating t]) fs []
      (p.exported t fs).1 (p.exported t fs).2 := asks_exportTable p t
    cases hexported : p.exported t fs with
    | mk result after =>
      rw [hexported] at hexport
      cases result with
      | error fault =>
        exact ⟨_, _, _, .unexported hanswer hexported, hcreate.then_quiet hexport.bind_error⟩
      | ok u =>
        by_cases hoff : p.verifies = false ∨ t.temporary = true
        · exact ⟨_, _, _, .unverified hanswer hexported hoff,
            hcreate.then_quiet (hexport.after_quiet (asks_planVerify_off p t hoff))⟩
        · rw [not_or, Bool.not_eq_false, Bool.not_eq_true] at hoff
          obtain ⟨asked, r, hverification, hasks⟩ := asks_planVerify_on p t hoff.1 hoff.2
          exact ⟨_, _, _, .verified hanswer hexported hoff.1 hoff.2 hverification,
            hcreate.bind (hexport.after_quiet hasks)⟩

theorem asks_make (h : t.Creatable p.engine) : ∃ asked r after,
    Block p b t earlier fs asked r after ∧ Asks (p.make t) b earlier fs asked r after := by
  unfold make isPresent
  by_cases htemporary : t.temporary = true
  · rw [if_pos htemporary]
    obtain ⟨asked, r, after, hcreation, hasks⟩ := asks_establish p t h
    refine ⟨asked, r, after, .temporary htemporary hcreation, ?_⟩
    refine (asks_pure false).after_quiet ?_
    exact hasks
  · rw [if_neg htemporary]
    have hlasting : t.temporary = false := by simpa using htemporary
    have hpresent : Asks ((Schema.mk p.engine t.schema).hasTables [t.name]) b earlier fs
        [p.listing t] ((b.read earlier (p.listing t) (listedNames p.engine)).map
          (·.contains t.name)) fs := Schema.asks_hasTable _ _
    cases hnames : b.read earlier (p.listing t) (listedNames p.engine) with
    | error fault =>
      rw [hnames] at hpresent
      exact ⟨_, _, _, .unlisted hlasting hnames, hpresent.bind_error⟩
    | ok names =>
      rw [hnames] at hpresent
      by_cases hmem : t.name ∈ names
      · have hcontains : names.contains t.name = true := by simpa using hmem
        rw [Except.map, hcontains] at hpresent
        cases hreplaces : p.replaces with
        | false =>
          refine ⟨_, _, _, .skipped hlasting hnames hmem hreplaces, hpresent.then_quiet ?_⟩
          exact asks_report _
        | true =>
          have hdrop : Asks (p.drop t) b (earlier ++ [p.listing t]) fs [p.dropping t] _ fs :=
            asks_drop p t
          unfold Backend.read at hdrop
          cases hanswer : b.answer (earlier ++ [p.listing t]) (p.dropping t) with
          | error failure =>
            rw [hanswer] at hdrop
            exact ⟨_, _, _, .undropped hlasting hnames hmem hreplaces hanswer,
              hpresent.bind hdrop.bind_error⟩
          | ok rows =>
            rw [hanswer] at hdrop
            obtain ⟨asked, r, after, hcreation, hasks⟩ := asks_establish p t h
            refine ⟨_, _, _, .replaced hlasting hnames hmem hreplaces hanswer hcreation,
              hpresent.bind (hdrop.bind ?_)⟩
            rw [List.append_assoc]
            exact hasks
      · have hcontains : names.contains t.name = false := by simpa using hmem
        rw [Except.map, hcontains] at hpresent
        obtain ⟨asked, r, after, hcreation, hasks⟩ := asks_establish p t h
        refine ⟨_, _, _, .new hlasting hnames hmem hcreation, hpresent.bind ?_⟩
        exact hasks

theorem asks_makeAll {tables : List Table} (h : ∀ t ∈ tables, t.Creatable p.engine) :
    ∃ asked r after, Course p b earlier fs tables asked r after ∧
      Asks (p.makeAll tables) b earlier fs asked r after := by
  -- Each block starts from the statements and files that the blocks before it leave.
  induction tables generalizing earlier fs with
  | nil => exact ⟨_, _, _, .done earlier fs, asks_pure ()⟩
  | cons t rest ih =>
    obtain ⟨asked, r, after, hblock, hmake⟩ : ∃ asked r after,
        Block p b t earlier fs asked r after ∧ Asks (p.make t) b earlier fs asked r after :=
      asks_make p t (h t (by simp))
    cases r with
    | error fault => exact ⟨_, _, _, .cut hblock, hmake.bind_error⟩
    | ok u =>
      obtain ⟨more, r, last, hcourse, hrest⟩ := @ih (earlier ++ asked) after
        fun t ht => h t (List.mem_cons_of_mem _ ht)
      exact ⟨_, _, _, .next hblock hcourse, hmake.bind hrest⟩

theorem asks_run (h : ∀ t ∈ p.tables, t.Creatable p.engine) : ∃ asked r after,
    Course p b earlier fs p.tables asked r after ∧ Asks p.run b earlier fs asked r after := by
  obtain ⟨asked, r, after, hcourse, hasks⟩ := asks_makeAll p h
  exact ⟨asked, r, after, hcourse, asks_connected hasks⟩

end Plan

end

end WarehouseSchema
