import WarehouseSchema.Proofs.Column.Reading
import WarehouseSchema.Proofs.Reflection.Names
import WarehouseSchema.Proofs.Run.Configured
import WarehouseSchema.Proofs.Run.Determined
import WarehouseSchema.Proofs.Storage.Place

/-!
Verification of the tables that a run creates. Of all faults of a run, only the comparison of reflected
names gives a verification fault. Main statement: a run that verifies stops with such a fault exactly at
the first table that it creates and finds to have other names of columns or keys, and never at a table
whose own names are reported, in whatever letter case.
-/

namespace WarehouseSchema

open Text Reflection

/-- The fault is not about the verification of a table. -/
def Fault.Unverifying (fault : Fault) : Prop :=
  ∀ mismatch schema name expected actual, fault ≠ .verification mismatch schema name expected actual

section
variable {α : Type} {r : Except Fault α}

theorem StopsWith.unverifying_of_reads (h : Reads r) : StopsWith Fault.Unverifying r := by
  intro fault hfault mismatch schema name expected actual
  cases h fault hfault <;> simp

theorem StopsWith.unverifying_of_path (h : StopsWith Fault.OfPath r) :
    StopsWith Fault.Unverifying r := by
  intro fault hfault mismatch schema name expected actual
  cases h fault hfault
  simp

theorem Backend.unverifying_read {b : Backend} {earlier : List String} {sql : String}
    {read : List Record → Except Fault α} (h : ∀ rows, Reads (read rows)) :
    StopsWith Fault.Unverifying (b.read earlier sql read) := by
  unfold Backend.read
  cases b.answer earlier sql with
  | ok rows => exact .unverifying_of_reads (h rows)
  | error failure => exact .error (by simp [Fault.Unverifying])

end

namespace Plan

variable {p : Plan} {b : Backend} {t : Table} {earlier asked questions : List String}
  {fs after : Files} {r : Except Fault Unit} {mismatch : Mismatch} {schema name : String}
  {expected actual : List String}

theorem reads_describedNames (p : Plan) (rows : List Record) : Reads (p.describedNames rows) := by
  intro fault h
  have hcolumns := reads_describedColumns p.engine rows
  unfold describedNames at h
  cases hdescribed : describedColumns p.engine rows with
  | ok columns =>
    rw [hdescribed] at h
    exact absurd h (by simp [Except.map])
  | error fault' =>
    rw [hdescribed] at h
    obtain rfl := Except.error.inj h
    exact hcolumns _ hdescribed

theorem unverifying_exported (h : p.exported t fs = (.error (.verification mismatch schema name expected
    actual), after)) : False := by
  unfold exported at h
  split at h
  · split at h
    · rename_i folder _
      unfold Files.written at h
      have hfile := StopsWith.unverifying_of_path
        (fs.stopsWith_withFile (t.exportPath (Path.ofText folder)) (Yaml.write t.toPlain))
      split at h
      · simp at h
      · rename_i fault hfault
        have hne := hfile fault hfault mismatch schema name expected actual
        split at h
        · exact hne (Except.error.inj (Prod.mk.inj h).1)
        · exact hne (Except.error.inj (Prod.mk.inj h).1)
    · simp at h
  · simp at h

/-- What is asked before a lasting table is created: a listing, and a DROP if there is such a table and the
plan replaces it. -/
inductive Clearing (p : Plan) (b : Backend) (t : Table) (earlier : List String) :
    List String → Prop where
  | new {names : List String} :
      b.read earlier (p.listing t) (listedNames p.engine) = .ok names → t.name ∉ names →
        Clearing p b t earlier [p.listing t]
  | replaced {names : List String} {rows : List Record} :
      b.read earlier (p.listing t) (listedNames p.engine) = .ok names → t.name ∈ names →
        p.replaces = true → b.answer (earlier ++ [p.listing t]) (p.dropping t) = .ok rows →
          Clearing p b t earlier [p.listing t, p.dropping t]

/-- A lasting table is created and, if exports are asked for, exported. -/
inductive Created (p : Plan) (b : Backend) (t : Table) (earlier : List String) (fs : Files) :
    List String → Files → Prop where
  | intro {cleared : List String} {rows : List Record} {after : Files} : t.temporary = false →
      Clearing p b t earlier cleared → b.answer (earlier ++ cleared) (p.creating t) = .ok rows →
        p.exported t fs = (.ok (), after) → Created p b t earlier fs (cleared ++ [p.creating t]) after

/-- The names of the columns that are reflected, or if they match then those of the keys, are others than
the names in the table. Letter case does not count. -/
inductive Mismatched (p : Plan) (b : Backend) (t : Table) (earlier : List String) :
    List String → Mismatch → List String → List String → Prop where
  | columns {names : List String} :
      b.read earlier (p.describing t) p.describedNames = .ok names →
        names.map lower ≠ t.columns.names.map lower →
          Mismatched p b t earlier [p.describing t] .columns (t.columns.names.map lower)
            (names.map lower)
  | keys {names keys : List String} :
      b.read earlier (p.describing t) p.describedNames = .ok names →
        names.map lower = t.columns.names.map lower → t.keys ≠ [] →
          b.read (earlier ++ [p.describing t]) (p.keyListing t) (keyNames p.engine) = .ok keys →
            keys.map lower ≠ t.keys.map lower →
              Mismatched p b t earlier [p.describing t, p.keyListing t] .keys (t.keys.map lower)
                (keys.map lower)

theorem Mismatched.verification (h : Mismatched p b t earlier questions mismatch expected actual) :
    Verification p b t earlier questions
      (.error (.verification mismatch t.schema t.name expected actual)) := by
  cases h with
  | columns hnames hdiffer => exact .columnsDiffer hnames hdiffer
  | keys hnames hmatch hkeyed hlisted hdiffer => exact .keysDiffer hnames hmatch hkeyed hlisted hdiffer

theorem Verification.mismatched (h : Verification p b t earlier asked
    (.error (.verification mismatch schema name expected actual))) :
    t.schema = schema ∧ t.name = name ∧ Mismatched p b t earlier asked mismatch expected actual := by
  cases h with
  | undescribed hfault =>
    have hread := Backend.unverifying_read (reads_describedNames p) _ hfault
    exact absurd rfl (hread _ _ _ _ _)
  | columnsDiffer hnames hdiffer => exact ⟨rfl, rfl, .columns hnames hdiffer⟩
  | keysUnlisted _ _ _ hfault =>
    have hread := Backend.unverifying_read (reads_keyNames p.engine) _ hfault
    exact absurd rfl (hread _ _ _ _ _)
  | keysDiffer hnames hmatch hkeyed hlisted hdiffer =>
    exact ⟨rfl, rfl, .keys hnames hmatch hkeyed hlisted hdiffer⟩

/-- A verification fault of a creation is one of the verification behind it. -/
theorem Creation.verified_of_error (h : Creation p b t earlier fs asked
    (.error (.verification mismatch schema name expected actual)) after) :
    ∃ rows questions, t.temporary = false ∧ b.answer earlier (p.creating t) = .ok rows ∧
      p.exported t fs = (.ok (), after) ∧ asked = p.creating t :: questions ∧
      Verification p b t (earlier ++ [p.creating t]) questions
        (.error (.verification mismatch schema name expected actual)) := by
  cases h with
  | unexported _ hexported => exact (unverifying_exported hexported).elim
  | verified hanswer hexported _ hlasting hverification =>
    exact ⟨_, _, hlasting, hanswer, hexported, rfl, hverification⟩

/-- A table at which a verification fault comes up was created. -/
theorem Block.created_of_error (h : Block p b t earlier fs asked
    (.error (.verification mismatch schema name expected actual)) after) :
    ∃ made questions, asked = made ++ questions ∧ Created p b t earlier fs made after ∧
      t.schema = schema ∧ t.name = name ∧
      Mismatched p b t (earlier ++ made) questions mismatch expected actual := by
  have hbehind : ∀ {cleared rest}, Clearing p b t earlier cleared →
      Creation p b t (earlier ++ cleared) fs rest
        (.error (.verification mismatch schema name expected actual)) after →
      ∃ made questions, cleared ++ rest = made ++ questions ∧ Created p b t earlier fs made after ∧
        t.schema = schema ∧ t.name = name ∧
        Mismatched p b t (earlier ++ made) questions mismatch expected actual := by
    intro cleared rest hcleared hcreation
    obtain ⟨rows, questions, hlasting, hanswer, hexported, rfl, hverification⟩ :=
      hcreation.verified_of_error
    rw [List.append_assoc] at hverification
    exact ⟨cleared ++ [p.creating t], questions, by simp, .intro hlasting hcleared hanswer hexported,
      hverification.mismatched⟩
  cases h with
  | temporary htemporary hcreation =>
    obtain ⟨_, _, hlasting, _⟩ := hcreation.verified_of_error
    rw [htemporary] at hlasting
    exact absurd hlasting (by simp)
  | unlisted _ hfault =>
    have hread := Backend.unverifying_read (reads_listedNames p.engine) _ hfault
    exact absurd rfl (hread _ _ _ _ _)
  | replaced _ hnames hmem hreplaces hanswer hcreation =>
    exact hbehind (.replaced hnames hmem hreplaces hanswer) hcreation
  | new _ hnames hmem hcreation => exact hbehind (.new hnames hmem) hcreation

/-- The block of a created table ends as its verification does. -/
theorem Created.block (h : Created p b t earlier fs asked after) (hverifies : p.verifies = true)
    (hverification : Verification p b t (earlier ++ asked) questions r) :
    Block p b t earlier fs (asked ++ questions) r after := by
  cases h with
  | intro hlasting hcleared hanswer hexported =>
    have hcreation := Creation.verified hanswer hexported hverifies hlasting
      (by rwa [List.append_assoc])
    rw [List.append_assoc]
    cases hcleared with
    | new hnames hmem => exact .new hlasting hnames hmem hcreation
    | replaced hnames hmem hreplaces hdropped =>
      exact .replaced hlasting hnames hmem hreplaces hdropped hcreation

/-- The tables in front are made without a fault, and then the table is created. -/
inductive CreatedBehind (p : Plan) (b : Backend) (earlier : List String) (fs : Files)
    (front : List Table) (t : Table) : List String → Files → Prop where
  | intro {first made : List String} {between after : Files} :
      Course p b earlier fs front first (.ok ()) between →
        Created p b t (earlier ++ first) between made after →
          CreatedBehind p b earlier fs front t (first ++ made) after

section
variable {front front' later : List Table} {t' : Table} {before before' : List String} {after' : Files}

theorem CreatedBehind.course_of_mismatched (h : CreatedBehind p b earlier fs front t before after)
    (hverifies : p.verifies = true)
    (hmismatched : Mismatched p b t (earlier ++ before) questions mismatch expected actual)
    (later : List Table) : Course p b earlier fs (front ++ t :: later) (before ++ questions)
      (.error (.verification mismatch t.schema t.name expected actual)) after := by
  cases h with
  | intro hfront hcreated =>
    rw [← List.append_assoc] at hmismatched
    rw [List.append_assoc]
    exact hfront.append (.cut (hcreated.block hverifies hmismatched.verification))

theorem CreatedBehind.course_of_verification (h : CreatedBehind p b earlier fs front t before after)
    (hverifies : p.verifies = true)
    (hverification : Verification p b t (earlier ++ before) questions (.ok ())) :
    Course p b earlier fs (front ++ [t]) (before ++ questions) (.ok ()) after := by
  cases h with
  | intro hfront hcreated =>
    rw [← List.append_assoc] at hverification
    have hblock := hcreated.block hverifies hverification
    have hlast := Course.next hblock (.done _ _)
    rw [List.append_nil] at hlast
    rw [List.append_assoc]
    exact hfront.append hlast

/-- No table in front of one that is created is mismatched. -/
theorem CreatedBehind.not_mismatched
    (h : CreatedBehind p b earlier fs (front ++ t :: later) t' before' after')
    (hcreated : CreatedBehind p b earlier fs front t before after) (hverifies : p.verifies = true) :
    ¬ Mismatched p b t (earlier ++ before) questions mismatch expected actual := by
  intro hmismatched
  cases h with
  | intro hfront _ =>
    have hcut := hcreated.course_of_mismatched hverifies hmismatched later
    exact absurd (hfront.unique hcut).2.1 (by simp)

/-- A course stops with a verification fault at a table that was created and is mismatched. -/
theorem Course.mismatched_of_error {tables : List Table} (h : Course p b earlier fs tables asked
    (.error (.verification mismatch schema name expected actual)) after) :
    ∃ front t later before questions, tables = front ++ t :: later ∧ asked = before ++ questions ∧
      CreatedBehind p b earlier fs front t before after ∧ t.schema = schema ∧ t.name = name ∧
      Mismatched p b t (earlier ++ before) questions mismatch expected actual := by
  obtain ⟨front, t, later, first, last, between, htables, rfl, hfront, hblock⟩ := h.exists_cut
  obtain ⟨made, questions, rfl, hcreated, hschema, hname, hmismatched⟩ := hblock.created_of_error
  refine ⟨front, t, later, first ++ made, questions, htables, (List.append_assoc _ _ _).symm,
    .intro hfront hcreated, hschema, hname, ?_⟩
  rwa [← List.append_assoc]

end

/-- The catalog describes columns that can be read and shows the names of the table's own columns and keys,
in any letter case. -/
structure Reports (p : Plan) (b : Backend) (t : Table) (earlier : List String) : Prop where
  columns : ∃ rows columns, b.answer earlier (p.describing t) = .ok rows ∧
    describedColumns p.engine rows = .ok columns ∧
    ShowNames (Catalog.columnField p.engine) (rows.filter (isStored p.engine)) t.columns.names
  keys : t.keys ≠ [] → ∃ rows ordered, b.answer (earlier ++ [p.describing t]) (p.keyListing t) = .ok rows ∧
    keyRows p.engine rows = .ok ordered ∧ ShowNames (keyField p.engine) ordered t.keys

/-- A table whose names are reported passes its verification. -/
theorem Reports.exists_verification (h : Reports p b t earlier) (hplain : PlainNames t.columns.names) :
    ∃ questions, Verification p b t earlier questions (.ok ()) := by
  obtain ⟨rows, columns, hanswer, hdescribed, hshow⟩ := h.columns
  have hnames : b.read earlier (p.describing t) p.describedNames = .ok columns.names := by
    rw [Backend.read_of_answer hanswer, describedNames, hdescribed]
    rfl
  have hmatch := lower_names_of_describedColumns hdescribed hshow hplain
  by_cases hkeyless : t.keys = []
  · exact ⟨_, .keyless hnames hmatch hkeyless⟩
  · obtain ⟨rows, ordered, hanswer, hordered, hshow⟩ := h.keys hkeyless
    have hkeys : PlainNames t.keys := fun key hkey => hplain key (t.keys_mem key hkey)
    obtain ⟨keys, hread, hsame⟩ := exists_keyNames_of_showNames hordered hshow hkeys
    have hlisted : b.read (earlier ++ [p.describing t]) (p.keyListing t) (keyNames p.engine) =
        .ok keys := by
      rw [Backend.read_of_answer hanswer]
      exact hread
    exact ⟨_, .keysMatch hnames hmatch hkeyless hlisted hsame⟩

end Plan

namespace Configuration

variable {env : Environment} {path : Path} {b : Backend} {j : Journal} {c : Configuration} {p : Plan}

/-- A run that verifies stops with a verification fault exactly when it creates a lasting table of which
other names are reflected. The fault has both lists of the first such table, and it is the last one that is
asked about. A table whose own names are reported passes. -/
theorem runAt_verifies (hload : ((load env path variablesPath).run b j).1 = .ok c)
    (hplan : c.plan j.files = .ok p) (hcredentials : c.settings.checkCredentials p.engine = .ok ())
    (hverifies : p.verifies = true) :
    ∃ asked, ((runAt env path).run b j).2.statements = j.statements ++ asked ∧
      (∀ mismatch schema name expected actual,
        ((runAt env path).run b j).1 = .error (.verification mismatch schema name expected actual) →
        ∃ front t later before after questions, p.tables = front ++ t :: later ∧
          p.CreatedBehind b j.statements j.files front t before after ∧
          t.schema = schema ∧ t.name = name ∧
          Plan.Mismatched p b t (j.statements ++ before) questions mismatch expected actual ∧
          ∀ front' t' later' before' after', front = front' ++ t' :: later' →
            p.CreatedBehind b j.statements j.files front' t' before' after' →
            ∀ questions' mismatch' expected' actual', ¬ Plan.Mismatched p b t'
              (j.statements ++ before') questions' mismatch' expected' actual') ∧
      (∀ front t later before after, p.tables = front ++ t :: later →
        p.CreatedBehind b j.statements j.files front t before after →
        (∀ questions mismatch expected actual,
          Plan.Mismatched p b t (j.statements ++ before) questions mismatch expected actual →
          ((runAt env path).run b j).1 =
              .error (.verification mismatch t.schema t.name expected actual) ∧
            asked = before ++ questions) ∧
        (Reflection.PlainNames t.columns.names → Plan.Reports p b t (j.statements ++ before) →
          ∃ questions more, asked = before ++ questions ++ more ∧
            Plan.Course p b j.statements j.files (front ++ [t]) (before ++ questions) (.ok ())
              after)) := by
  obtain ⟨asked, hasked, hcourse⟩ := exists_course_of_credentials hload hplan hcredentials
  refine ⟨asked, hasked, ?_, ?_⟩
  · intro mismatch schema name expected actual hfault
    rw [hfault] at hcourse
    obtain ⟨front, t, later, before, questions, htables, _, hcreated, hschema, hname, hmismatched⟩ :=
      hcourse.mismatched_of_error
    refine ⟨front, t, later, before, _, questions, htables, hcreated, hschema, hname, hmismatched, ?_⟩
    rintro front' t' later' before' after' rfl hcreated' questions' mismatch' expected' actual'
    exact hcreated.not_mismatched hcreated' hverifies
  · intro front t later before after htables hcreated
    rw [htables] at hcourse
    constructor
    · intro questions mismatch expected actual hmismatched
      have hcut := hcreated.course_of_mismatched hverifies hmismatched later
      obtain ⟨hsame, hend, _⟩ := hcourse.unique hcut
      exact ⟨hend, hsame⟩
    · intro hplain hreports
      obtain ⟨questions, hverification⟩ := hreports.exists_verification hplain
      have hpassed := hcreated.course_of_verification hverifies hverification
      rw [List.append_cons] at hcourse
      obtain ⟨more, hmore, _⟩ := hcourse.split hpassed
      exact ⟨questions, more, hmore, hpassed⟩

/-- A warehouse that answers everything with this row. -/
def strangerRow : Record :=
  [("table_name", .text "customers"), ("COLUMN_NAME", .text "Key"), ("data_type", .text "integer")]

def strangerBackend : Backend := ⟨fun _ _ => .ok [strangerRow]⟩

theorem load_orders_of_stranger : ((load ordersEnvironment ordersPath variablesPath).run
    strangerBackend (Journal.start ordersFiles)).1 = .ok ordersConfiguration := by
  have hasks : Session.Asks (load ordersEnvironment ordersPath variablesPath) strangerBackend []
      ordersFiles [] (.ok ordersConfiguration) ordersFiles :=
    asks_load_document rfl rfl rfl readYaml_orders
  obtain ⟨after, hrun, _⟩ := hasks (Journal.start ordersFiles) rfl rfl
  rw [hrun]

theorem createdBehind_orders : ordersPlan.CreatedBehind strangerBackend [] ordersFiles [] orders
    [ordersPlan.listing orders, ordersPlan.creating orders] ordersFiles := by
  have hcreated : Plan.Created ordersPlan strangerBackend orders [] ordersFiles
      ([ordersPlan.listing orders] ++ [ordersPlan.creating orders]) ordersFiles := by
    have hlisted : strangerBackend.read [] (ordersPlan.listing orders)
        (Reflection.listedNames .redshift) = .ok ["customers"] := rfl
    exact .intro rfl (.new hlisted (by decide)) rfl rfl
  exact .intro (.done [] ordersFiles) hcreated

/-- A run that creates `sales.orders`, and then finds a column `Key` in place of `id`. -/
theorem runAt_orders_of_stranger :
    ((load ordersEnvironment ordersPath variablesPath).run strangerBackend
        (Journal.start ordersFiles)).1 = .ok ordersConfiguration ∧
      ordersConfiguration.plan ordersFiles = .ok ordersPlan ∧
      ordersConfiguration.settings.checkCredentials ordersPlan.engine = .ok () ∧
      ordersPlan.verifies = true ∧
      ((runAt ordersEnvironment ordersPath).run strangerBackend (Journal.start ordersFiles)).1 =
        .error (.verification .columns "sales" "orders" ["id"] ["key"]) := by
  have hcredentials : ordersConfiguration.settings.checkCredentials ordersPlan.engine = .ok () := rfl
  obtain ⟨asked, _, _, hcreated⟩ :=
    runAt_verifies load_orders_of_stranger plan_orders hcredentials rfl
  have hdescribed : strangerBackend.read [ordersPlan.listing orders, ordersPlan.creating orders]
      (ordersPlan.describing orders) ordersPlan.describedNames = .ok ["Key"] := rfl
  have hlower : ["Key"].map Text.lower = ["key"] := by decide
  have hnames : orders.columns.names.map Text.lower = ["id"] := by decide
  have hmismatched := Plan.Mismatched.columns hdescribed (by rw [hlower, hnames]; decide)
  rw [hlower, hnames] at hmismatched
  obtain ⟨hrun, _⟩ := (hcreated [] orders [] _ _ rfl createdBehind_orders).1 _ _ _ _ hmismatched
  exact ⟨load_orders_of_stranger, plan_orders, hcredentials, rfl, hrun⟩

end Configuration

end WarehouseSchema
