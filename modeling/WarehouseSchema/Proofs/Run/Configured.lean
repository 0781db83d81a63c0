import WarehouseSchema.Proofs.Run.Replacement
import WarehouseSchema.Proofs.Run.Statements
import WarehouseSchema.Proofs.Table.Export
import WarehouseSchema.Proofs.Yaml.Node

/-!
Runs of configurations. Loading a configuration may take notes and may fail, but asks nothing and writes
nothing. Main statement: a run of a configuration whose tables load takes the course of its plan.
-/

namespace WarehouseSchema

open Text Session

theorem EnvironmentFile.noting_load (fileFirst : Bool) (env : Environment) (path : Path) :
    Noting (EnvironmentFile.load fileFirst env path) := by
  unfold load
  refine Noting.files.bind fun fs => ?_
  cases fs.read path with
  | error fault => exact noting_pure _
  | ok text =>
    refine (noting_forIn (fun line _ => ?_) _ _).bind fun _ => noting_pure _
    exact (Noting.note _ _ _).bind fun _ => noting_pure _

theorem Settings.noting_load (env : Environment) : Noting (Settings.load env) :=
  (EnvironmentFile.noting_load _ _ _).bind fun _ => .ofExcept _

/-- Loading a configuration takes notes at most. -/
theorem Configuration.noting_load (env : Environment) (path variablesPath : Path) :
    Noting (Configuration.load env path variablesPath) := by
  have hdocument : ∀ (fs : Files) env, Noting (do
      let document ←
        if ← Session.ofExcept (fs.contains path) then Session.ofExcept (fs.readYaml path)
        else pure (.map [])
      return (⟨path, document, ← Settings.load env⟩ : Configuration)) := by
    intro fs env
    refine (Noting.ofExcept _).bind fun there => ?_
    have hread : ∀ document, Noting (do
        return (⟨path, document, ← Settings.load env⟩ : Configuration)) :=
      fun _ => (Settings.noting_load env).bind fun _ => noting_pure _
    cases there with
    | true => exact (Noting.ofExcept _).bind hread
    | false => exact (noting_pure _).bind hread
  unfold load
  refine Noting.files.bind fun fs => (Noting.ofExcept _).bind fun there => ?_
  cases there with
  | true =>
    exact (EnvironmentFile.noting_load _ _ _).bind fun _ => (noting_pure _).bind (hdocument fs)
  | false => exact (noting_pure _).bind (hdocument fs)

/-- Loading a configuration asks nothing of a warehouse. -/
theorem Configuration.quiet_load (env : Environment) (path variablesPath : Path) :
    Quiet (Configuration.load env path variablesPath) :=
  (noting_load env path variablesPath).quiet

namespace Configuration

variable {env : Environment} {path : Path} {b : Backend} {j : Journal} {c : Configuration} {p : Plan}

theorem asks_runAt (hload : ((load env path variablesPath).run b j).1 = .ok c)
    (hplan : c.plan j.files = .ok p) {asked : List String} {r : Except Fault Unit} {after : Files}
    (h : Asks (Session.ofExcept (c.settings.checkCredentials p.engine) >>= fun _ => p.run) b
      j.statements j.files asked r after) :
    Asks (runAt env path) b j.statements j.files asked r after := by
  refine ((quiet_load env path variablesPath).asks_of_run hload).after_quiet ?_
  refine asks_files.after_quiet ?_
  rw [hplan]
  exact (asks_ofExcept _).after_quiet h

/-- A run of a configuration that loads takes the course of its plan, or stops before it asks anything
because credentials are missing. -/
theorem exists_course (hload : ((load env path variablesPath).run b j).1 = .ok c)
    (hplan : c.plan j.files = .ok p) :
    ∃ asked, ((runAt env path).run b j).2.statements = j.statements ++ asked ∧
      ((∃ fault, c.settings.checkCredentials p.engine = .error fault ∧
          ((runAt env path).run b j).1 = .error fault ∧ asked = []) ∨
        c.settings.checkCredentials p.engine = .ok () ∧
          Plan.Course p b j.statements j.files p.tables asked ((runAt env path).run b j).1
            ((runAt env path).run b j).2.files) := by
  -- Credentials are checked before the connection, so that without them nothing is asked.
  cases hcredentials : c.settings.checkCredentials p.engine with
  | error fault =>
    have hasks : Asks (runAt env path) b j.statements j.files [] (.error fault) j.files := by
      apply asks_runAt hload hplan
      rw [hcredentials]
      exact (asks_ofExcept _).bind_error
    obtain ⟨after, hrun, hstatements, _⟩ := hasks j rfl rfl
    rw [hrun]
    exact ⟨[], hstatements, Or.inl ⟨fault, rfl, rfl, rfl⟩⟩
  | ok u =>
    obtain ⟨asked, r, files, hcourse, hrest⟩ := Plan.asks_run p (creatable_of_plan hplan)
    have hasks : Asks (runAt env path) b j.statements j.files asked r files := by
      apply asks_runAt hload hplan
      rw [hcredentials]
      exact (asks_ofExcept _).after_quiet hrest
    obtain ⟨after, hrun, hstatements, hfiles⟩ := hasks j rfl rfl
    rw [hrun, hfiles]
    exact ⟨asked, hstatements, Or.inr ⟨rfl, hcourse⟩⟩

theorem exists_course_of_credentials (hload : ((load env path variablesPath).run b j).1 = .ok c)
    (hplan : c.plan j.files = .ok p)
    (hcredentials : c.settings.checkCredentials p.engine = .ok ()) :
    ∃ asked, ((runAt env path).run b j).2.statements = j.statements ++ asked ∧
      Plan.Course p b j.statements j.files p.tables asked ((runAt env path).run b j).1
        ((runAt env path).run b j).2.files := by
  obtain ⟨asked, hasked, ⟨fault, hfault, _⟩ | ⟨_, hcourse⟩⟩ := exists_course hload hplan
  · rw [hcredentials] at hfault
    exact absurd hfault (by simp)
  · exact ⟨asked, hasked, hcourse⟩

/-- A run of a configuration whose tables load takes the course of its plan, unless credentials are
missing, with which nothing is asked. Every table of the plan can be created, and every DROP replaces one
of them. -/
theorem runAt_course {env : Environment} {path : Path} {b : Backend} {j : Journal}
    {c : Configuration} {p : Plan} (hload : ((load env path variablesPath).run b j).1 = .ok c)
    (hplan : c.plan j.files = .ok p) :
    ∃ asked, ((runAt env path).run b j).2.statements = j.statements ++ asked ∧
      ((∃ fault, c.settings.checkCredentials p.engine = .error fault ∧
          ((runAt env path).run b j).1 = .error fault ∧ asked = []) ∨
        c.settings.checkCredentials p.engine = .ok () ∧
          Plan.Course p b j.statements j.files p.tables asked ((runAt env path).run b j).1
            ((runAt env path).run b j).2.files) ∧
      (∀ t ∈ p.tables, t.createSql p.engine true = .ok (p.creating t)) ∧
      ∀ before sql next, asked = before ++ sql :: next → IsDrop p.engine sql →
        ∃ t ∈ p.tables, Plan.Replaces p b t j.statements before sql next := by
  obtain ⟨asked, hasked, hcourse⟩ := exists_course hload hplan
  refine ⟨asked, hasked, hcourse, fun t ht => ?_, fun before sql next hsplit hsql => ?_⟩
  · have hcreatable : t.Creatable p.engine := creatable_of_plan hplan t ht
    exact hcreatable.createSql_eq_ok
  · rcases hcourse with ⟨fault, _, _, rfl⟩ | ⟨_, hcourse⟩
    · exact absurd hsplit (by simp)
    · exact hcourse.replaces hsplit hsql

def orders : Table where
  schema := "sales"
  name := "orders"
  temporary := false
  columns := ⟨[⟨"id", ⟨.redshift, "INT", none, true, none, none⟩, by decide⟩], by decide⟩
  keys := []
  keys_mem := by decide
  keys_nodup := by decide

/-- A document that asks for this table in place of the one that there may be. -/
def ordersText : String :=
  "engine: redshift\nreplace_existing: yes\n" ++
    "tables: [{schema_name: sales, table_name: orders, columns: [{name: id, type: INT}]}]\n"

def ordersDocument : Value :=
  .map [(.text "engine", .text "redshift"), (.text "replace_existing", .bool true),
    (.text "tables", .list [.map [(.text "schema_name", .text "sales"),
      (.text "table_name", .text "orders"),
      (.text "columns", .list [.map [(.text "name", .text "id"), (.text "type", .text "INT")]])]])]

def ordersPath : Path := Path.ofText "config.yaml"

def ordersFiles : Files := Files.empty.put ["tmp", "work", "config.yaml"] (.file ordersText)

def ordersEnvironment : Environment := [("SQLALCHEMY_URL", "redshift://host")]

def ordersConfiguration : Configuration where
  path := ordersPath
  document := ordersDocument
  settings :=
    ⟨none, none, none, "COMPUTE_WH", "SYSADMIN", none, some "redshift://host", LogSettings.default⟩

def ordersPlan : Plan := ⟨.redshift, [orders], true, true, .null⟩

/-- A warehouse that has a table of this name already. -/
def ordersBackend : Backend := ⟨fun _ _ => .ok [[("table_name", .text "orders")]]⟩

theorem plan_orders : ordersConfiguration.plan ordersFiles = .ok ordersPlan := rfl

section
open Yaml

def ordersNode : Node :=
  .mapping .mapping [(.scalar .text "engine", .scalar .text "redshift"),
    (.scalar .text "replace_existing", .scalar .bool "yes"),
    (.scalar .text "tables", .sequence .sequence [.mapping .mapping [
      (.scalar .text "schema_name", .scalar .text "sales"),
      (.scalar .text "table_name", .scalar .text "orders"),
      (.scalar .text "columns", .sequence .sequence [.mapping .mapping [
        (.scalar .text "name", .scalar .text "id"),
        (.scalar .text "type", .scalar .text "INT")]])]])]

theorem ofChars?_orders : Node.ofChars? ordersText.toList = .ok (some ordersNode) := by
  have hread : (Node.ofChars? ordersText.toList).toOption = some (some ordersNode) := by
    decide +kernel
  cases h : Node.ofChars? ordersText.toList with
  | error fault => simp [h, Except.toOption] at hread
  | ok n => simpa [h, Except.toOption] using hread

theorem make_orders : ordersNode.make = .ok ordersDocument := by
  have hyes : readBool "yes" = .ok (.bool true) := rfl
  simp [ordersNode, Node.make, Node.makeMapping, Node.makeEntries, Node.makeKey, Node.makeChild,
    Node.makeItems, Node.canMerge, Node.isSource, Node.tag, Tag.isCollection, Node.Entries.all,
    Made.map, Made.both, Made.ofExcept, Made.deeper, readScalar, hyes, Value.putEntry,
    Value.sameKey, ordersDocument]

theorem ofYaml_orders : Value.ofYaml ordersText = .ok ordersDocument := by
  have hlines : unifyLines ordersText = ordersText := by decide +kernel
  have hread : Yaml.read ordersText = .ok ordersDocument := by
    refine bind_eq_ok_iff.mpr ⟨_, ofChars?_orders, ?_⟩
    simp only [make_orders]
    rfl
  unfold Value.ofYaml
  rw [hlines]
  exact bind_eq_ok_iff.mpr ⟨_, hread, rfl⟩

theorem readYaml_orders : ordersFiles.readYaml ordersPath = .ok ordersDocument := by
  have htext : ordersFiles.read ordersPath = .ok ordersText := rfl
  exact bind_eq_ok_iff.mpr ⟨_, htext, ofYaml_orders⟩

end

/-- Without a file of variables, the configuration is that of the document. -/
theorem asks_load_document {b : Backend} {earlier : List String} {fs : Files} {document : Value}
    {fault : Fault} (hmissing : fs.contains variablesPath = .ok false)
    (hthere : fs.contains ordersPath = .ok true)
    (hunread : fs.read Settings.variablesPath = .error fault)
    (hdocument : fs.readYaml ordersPath = .ok document) :
    Asks (load ordersEnvironment ordersPath variablesPath) b earlier fs []
      (.ok { ordersConfiguration with document }) fs := by
  have hsettings : Settings.ofVariables ordersEnvironment.toVariables (Variables.lowered []) =
      .ok ordersConfiguration.settings := rfl
  have hfile : Asks (EnvironmentFile.load true ordersEnvironment Settings.variablesPath) b earlier
      fs [] (.ok []) fs := by
    refine asks_files.after_quiet ?_
    rw [hunread]
    exact asks_pure _
  have hloaded : Asks (Settings.load ordersEnvironment) b earlier fs []
      (.ok ordersConfiguration.settings) fs := by
    refine hfile.after_quiet ?_
    rw [hsettings]
    exact asks_ofExcept _
  refine asks_files.after_quiet ?_
  rw [hmissing, hthere, hdocument]
  refine (asks_ofExcept _).after_quiet ((asks_pure _).after_quiet ?_)
  refine (asks_ofExcept _).after_quiet ((asks_ofExcept _).after_quiet ?_)
  exact hloaded.after_quiet (asks_pure _)

def documentFiles (document : Plain) : Files :=
  Files.empty.put ["tmp", "work", "config.yaml"] (.file (Yaml.write document))

theorem load_documentFiles {document : Plain}
    (hyaml : Yaml.read (Yaml.write document) = .ok document.toValue)
    (hfull : document.toValue.isTruthy = true) (b : Backend) (events : List Event) :
    ((load ordersEnvironment ordersPath variablesPath).run b ⟨events, documentFiles document⟩).1 =
      .ok { ordersConfiguration with document := document.toValue } := by
  have htext : (documentFiles document).read ordersPath = .ok (Yaml.write document) := rfl
  have hmissing : (documentFiles document).contains variablesPath = .ok false := rfl
  have hthere : (documentFiles document).contains ordersPath = .ok true := rfl
  have hunread : (documentFiles document).read Settings.variablesPath =
    .error (.path .missing ".env") := rfl
  have hdocument : (documentFiles document).readYaml ordersPath = .ok document.toValue := by
    rw [Files.readYaml, htext, ok_bind]
    exact Value.ofYaml_write hyaml hfull
  obtain ⟨after, hrun, _⟩ := asks_load_document hmissing hthere hunread hdocument
    ⟨events, documentFiles document⟩ rfl rfl
  rw [hrun]

theorem asks_load_orders : Asks (load ordersEnvironment ordersPath variablesPath) ordersBackend []
    ordersFiles [] (.ok ordersConfiguration) ordersFiles :=
  asks_load_document rfl rfl rfl readYaml_orders

theorem runAt_orders :
    ((load ordersEnvironment ordersPath variablesPath).run ordersBackend
      (Journal.start ordersFiles)).1 = .ok ordersConfiguration ∧
    ordersConfiguration.plan ordersFiles = .ok ordersPlan ∧
    ∃ r asked after, Plan.Course ordersPlan ordersBackend [] ordersFiles [orders] asked r after ∧
      ((runAt ordersEnvironment ordersPath).run ordersBackend
        (Journal.start ordersFiles)).2.statements = asked := by
  have hload : ((load ordersEnvironment ordersPath variablesPath).run ordersBackend
      (Journal.start ordersFiles)).1 = .ok ordersConfiguration := by
    obtain ⟨after, hrun, _⟩ := asks_load_orders (Journal.start ordersFiles) rfl rfl
    rw [hrun]
  have hcredentials : ordersConfiguration.settings.checkCredentials ordersPlan.engine = .ok () := rfl
  obtain ⟨asked, hasked, hcourse, _⟩ := runAt_course hload plan_orders
  rw [hcredentials] at hcourse
  refine ⟨hload, plan_orders, ?_⟩
  rcases hcourse with ⟨fault, hfault, _⟩ | ⟨_, hcourse⟩
  · exact absurd hfault (by simp)
  · exact ⟨_, asked, _, hcourse, hasked⟩

end Configuration

end WarehouseSchema
