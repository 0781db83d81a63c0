import Mathlib.Data.List.Nodup
import WarehouseSchema.Proofs.Run.Configured
import WarehouseSchema.Proofs.Run.Creation
import WarehouseSchema.Proofs.Table.Folder

/-!
Exports of runs. A table that is created is exported at once, and its file stays until another table is
exported to the same location. Main statement: from a run that went well, every table that was created is
loaded from its file, unless a later one was exported there; the file of a table is in the folder for exports
if there is no slash in its name.
-/

namespace WarehouseSchema

open Text Reflection

namespace Plan

variable {p : Plan} {b : Backend} {t u : Table} {tables before later : List Table}
  {earlier asked : List String} {fs after : Files} {r : Except Fault Unit} {folder : String}

theorem withFile_of_written {path : Path} {text : String}
    (h : fs.written path text = (.ok (), after)) : fs.withFile path text = .ok after := by
  unfold Files.written at h
  cases hfile : fs.withFile path text with
  | ok fs' =>
    rw [hfile] at h
    cases h
    rfl
  | error fault =>
    rw [hfile] at h
    cases hfolder : fs.makeFolder path.parent <;> simp [hfolder] at h

def exportPlace (folder : String) (working : Location) (t : Table) : Location :=
  (t.exportPath (Path.ofText folder)).place working

theorem exported_eq_ok (h : p.exported t fs = (.ok (), after)) :
    (p.exportFolder.isTruthy ≠ true ∧ after = fs) ∨ ∃ folder, p.exportFolder = .text folder ∧
      fs.withFile (t.exportPath (Path.ofText folder)) (Yaml.write t.toPlain) = .ok after := by
  unfold exported at h
  split at h
  · split at h
    · rename_i folder hfolder
      exact Or.inr ⟨folder, hfolder, withFile_of_written h⟩
    · simp at h
  · rename_i hunset
    cases h
    exact Or.inl ⟨hunset, rfl⟩

theorem keepsBut_of_exported (hfolder : p.exportFolder = .text folder)
    (h : p.exported t fs = (.ok (), after)) :
    Files.KeepsBut (exportPlace folder fs.working t) fs after := by
  rcases exported_eq_ok h with ⟨_, rfl⟩ | ⟨folder', hfolder', hwritten⟩
  · exact .refl _ _
  · rw [hfolder] at hfolder'
    obtain rfl := Value.text.inj hfolder'
    exact (Files.withFile_eq_ok hwritten).1

theorem working_of_exported (h : p.exported t fs = (.ok (), after)) :
    after.working = fs.working := by
  rcases exported_eq_ok h with ⟨_, rfl⟩ | ⟨folder, _, hwritten⟩
  · rfl
  · exact (Files.withFile_eq_ok hwritten).1.working_eq

theorem read_of_exported (hset : p.exportFolder.isTruthy = true)
    (h : p.exported t fs = (.ok (), after)) : ∃ folder, p.exportFolder = .text folder ∧
      after.read (t.exportPath (Path.ofText folder)) = .ok (Yaml.write t.toPlain) := by
  rcases exported_eq_ok h with ⟨hunset, _⟩ | ⟨folder, hfolder, hwritten⟩
  · exact absurd hset hunset
  · exact ⟨folder, hfolder, (Files.withFile_eq_ok hwritten).2⟩

theorem Creation.exported_of_ok (h : Creation p b t earlier fs asked (.ok ()) after) :
    p.creating t ∈ asked ∧ p.exported t fs = (.ok (), after) := by
  cases h with
  | unverified _ hexported _ => exact ⟨by simp, hexported⟩
  | verified _ hexported _ _ _ => exact ⟨by simp, hexported⟩

/-- A block that went well skips a lasting table, or creates its table and exports it. -/
theorem Block.exported_of_ok (h : Block p b t earlier fs asked (.ok ()) after) :
    (t.temporary = false ∧ p.creating t ∉ asked ∧ after = fs) ∨
      p.creating t ∈ asked ∧ p.exported t fs = (.ok (), after) := by
  cases h with
  | temporary _ hcreation => exact Or.inr hcreation.exported_of_ok
  | skipped hlasting _ _ _ =>
    refine Or.inl ⟨hlasting, ?_, rfl⟩
    intro hmem
    have heq := List.mem_singleton.mp hmem
    exact CatalogQuery.not_isCreate _ (heq ▸ p.isCreate_creating t)
  | replaced _ _ _ _ _ hcreation =>
    obtain ⟨hmem, hexported⟩ := hcreation.exported_of_ok
    exact Or.inr ⟨by simp [hmem], hexported⟩
  | new _ _ _ hcreation =>
    obtain ⟨hmem, hexported⟩ := hcreation.exported_of_ok
    exact Or.inr ⟨by simp [hmem], hexported⟩

theorem Block.working_eq (h : Block p b t earlier fs asked (.ok ()) after) :
    after.working = fs.working := by
  rcases h.exported_of_ok with ⟨_, _, rfl⟩ | ⟨_, hexported⟩
  · rfl
  · exact working_of_exported hexported

theorem Course.working_eq (h : Course p b earlier fs tables asked (.ok ()) after) :
    after.working = fs.working := by
  generalize hr : (.ok () : Except Fault Unit) = r at h
  induction h with
  | done => rfl
  | cut => cases hr
  | next hblock _ ih => exact (ih hr).trans hblock.working_eq

/-- A file is read after a run as before, if no table was exported to its location. -/
theorem Course.read_eq_ok (h : Course p b earlier fs tables asked (.ok ()) after)
    (hfolder : p.exportFolder = .text folder) {path : Path} {text : String}
    (hplaces : ∀ u ∈ tables, p.creating u ∈ asked →
      exportPlace folder fs.working u ≠ path.place fs.working)
    (hread : fs.read path = .ok text) : after.read path = .ok text := by
  generalize hr : (.ok () : Except Fault Unit) = r at h
  induction h with
  | done => exact hread
  | cut => cases hr
  | next hblock _ ih =>
    rename_i earlier asked more fs fs' after u rest r _
    have hstep : fs'.read path = .ok text := by
      rcases hblock.exported_of_ok with ⟨_, _, rfl⟩ | ⟨hmem, hexported⟩
      · exact hread
      · have hne := hplaces u List.mem_cons_self (List.mem_append_left _ hmem)
        exact (keepsBut_of_exported hfolder hexported).read_eq_ok (Ne.symm hne) hread
    refine ih ?_ hstep hr
    intro u hu hmem
    rw [hblock.working_eq]
    exact hplaces u (List.mem_cons_of_mem _ hu) (List.mem_append_right _ hmem)

/-- In a run without a fault, a table is created exactly in its own block, if no other table has its
name. -/
theorem Course.creating_mem_block {first block last : List String} {fs₁ fs₂ : Files}
    (hfirst : Course p b earlier fs before first (.ok ()) fs₁)
    (hblock : Block p b t (earlier ++ first) fs₁ block (.ok ()) fs₂)
    (hlast : Course p b (earlier ++ first ++ block) fs₂ later last (.ok ()) after)
    (hdistinct : ((before ++ t :: later).map fun t => (t.schema, t.name)).Nodup)
    (hmem : p.creating t ∈ first ++ (block ++ last)) : p.creating t ∈ block := by
  by_contra hskipped
  have hlasting : t.temporary = false := by
    rcases hblock.exported_of_ok with ⟨hlasting, _⟩ | ⟨hcreated, _⟩
    · exact hlasting
    · exact absurd hcreated hskipped
  have hother : ∃ u ∈ before ++ later, p.creating t = p.creating u := by
    have hcreate := p.isCreate_creating t
    rcases List.mem_append.mp hmem with hmem | hmem
    · obtain ⟨u, hu, heq⟩ := hfirst.exists_creating _ hmem hcreate
      exact ⟨u, List.mem_append_left _ hu, heq⟩
    · rcases List.mem_append.mp hmem with hmem | hmem
      · exact absurd hmem hskipped
      · obtain ⟨u, hu, heq⟩ := hlast.exists_creating _ hmem hcreate
        exact ⟨u, List.mem_append_right _ hu, heq⟩
  obtain ⟨u, hu, heq⟩ := hother
  obtain ⟨_, hname, hschema⟩ := Statement.names_of_render_eq heq
  have hsame : t.schema = u.schema := by
    rcases hschema with hschema | ⟨_, htemporary⟩
    · exact hschema
    · rw [hlasting] at htemporary
      exact absurd htemporary (by simp)
  rw [List.map_append, List.map_cons, List.nodup_middle, List.nodup_cons, ← List.map_append]
    at hdistinct
  exact hdistinct.1 (List.mem_map.mpr ⟨u, hu, by rw [hname, hsame]⟩)

/-- In a run without a fault, each table that was created is in the file to which it was exported, unless
a later one was exported there. -/
theorem Course.exported (h : Course p b earlier fs (before ++ t :: later) asked (.ok ()) after)
    (hset : p.exportFolder.isTruthy = true)
    (hdistinct : ((before ++ t :: later).map fun t => (t.schema, t.name)).Nodup)
    (hmem : p.creating t ∈ asked) :
    ∃ folder, p.exportFolder = .text folder ∧
      ((∀ u ∈ later, p.creating u ∈ asked →
          exportPlace folder fs.working u ≠ exportPlace folder fs.working t) →
        after.read (t.exportPath (Path.ofText folder)) = .ok (Yaml.write t.toPlain)) := by
  obtain ⟨first, block, last, fs₁, fs₂, rfl, hfirst, hblock, hlast⟩ := h.exists_block
  have hcreated := hfirst.creating_mem_block hblock hlast hdistinct hmem
  have hexported : p.exported t fs₁ = (.ok (), fs₂) := by
    rcases hblock.exported_of_ok with ⟨_, hskipped, _⟩ | ⟨_, hexported⟩
    · exact absurd hcreated hskipped
    · exact hexported
  obtain ⟨folder, hfolder, hread⟩ := read_of_exported hset hexported
  refine ⟨folder, hfolder, ?_⟩
  intro hplaces
  have hworking : fs₂.working = fs.working :=
    (keepsBut_of_exported hfolder hexported).working_eq.trans hfirst.working_eq
  refine hlast.read_eq_ok hfolder ?_ hread
  intro u hu hmem
  rw [hworking]
  exact hplaces u hu (by simp [hmem])

/-- A table that is not there is created, in a warehouse that does not refuse it. -/
theorem Block.eq_of_absent (h : Block p b t earlier fs asked r after)
    (hlasting : t.temporary = false) (hverifies : p.verifies = false) {names : List String}
    {rows : List Record} {fs' : Files}
    (hnames : b.read earlier (p.listing t) (listedNames p.engine) = .ok names)
    (habsent : t.name ∉ names)
    (hanswer : b.answer (earlier ++ [p.listing t]) (p.creating t) = .ok rows)
    (hexported : p.exported t fs = (.ok (), fs')) :
    asked = [p.listing t, p.creating t] ∧ r = .ok () ∧ after = fs' := by
  cases h with
  | new _ _ _ hcreation => cases hcreation <;> simp_all
  | _ => simp_all

end Plan

namespace Configuration

/-- From a run without a fault, every table that was created is loaded from the file to which it was
exported, unless a table that was created later has its file there. The file of a table without a slash in its
name is in the folder for exports, under the name in lower case. -/
theorem runAt_exports {env : Environment} {path : Path} {b : Backend} {j : Journal}
    {c : Configuration} {p : Plan} (hload : ((load env path variablesPath).run b j).1 = .ok c)
    (hplan : c.plan j.files = .ok p) (hset : p.exportFolder.isTruthy = true)
    (hdistinct : (p.tables.map fun t => (t.schema, t.name)).Nodup)
    (hyaml : ∀ t ∈ p.tables, Yaml.read (Yaml.write t.toPlain) = .ok t.toPlain.toValue)
    (hrun : ((runAt env path).run b j).1 = .ok ()) :
    ∃ asked, ((runAt env path).run b j).2.statements = j.statements ++ asked ∧
      ∀ before t later, p.tables = before ++ t :: later → p.creating t ∈ asked →
        ∃ folder, p.exportFolder = .text folder ∧
          ('/' ∉ t.name.toList → t.exportPath (Path.ofText folder) =
            ⟨(Path.ofText folder).root,
              (Path.ofText folder).parts ++ [lower t.name ++ "_schema.yaml"]⟩) ∧
          ((∀ u ∈ later, p.creating u ∈ asked →
              Plan.exportPlace folder j.files.working u ≠
                Plan.exportPlace folder j.files.working t) →
            Table.load ((runAt env path).run b j).2.files (t.exportPath (Path.ofText folder))
              p.engine = .ok t) := by
  obtain ⟨asked, hasked, hcourse⟩ := exists_course hload hplan
  refine ⟨asked, hasked, ?_⟩
  intro before t later htables hmem
  have ht : t ∈ p.tables := by simp [htables]
  rw [hrun, htables] at hcourse
  rw [htables] at hdistinct
  rcases hcourse with ⟨fault, _, hfault, _⟩ | ⟨_, hcourse⟩
  · exact absurd hfault (by simp)
  · obtain ⟨folder, hfolder, hread⟩ := hcourse.exported hset hdistinct hmem
    obtain ⟨v, hv⟩ := exists_ofValue_of_plan hplan t ht
    refine ⟨folder, hfolder, Table.exportPath_of_not_mem, fun hplaces => ?_⟩
    exact Table.load_of_read hv (hyaml t ht) (hread hplaces)

/-! ### Two tables of one name -/

def crmOrders : Table := { orders with schema := "crm" }

/-- A document that asks for tables of one name in two schemas, and for exports. -/
def twoOrdersDocument : Plain :=
  .map [("engine", .text "redshift"), ("export_schema_dir", .text "schemas"),
    ("verify", .bool false),
    ("tables", .list (["crm", "sales"].map fun schema =>
      .map [("schema_name", .text schema), ("table_name", .text "orders"),
        ("columns", .list [.map [("name", .text "id"), ("type", .text "INT")]])]))]

def twoOrdersFiles : Files := documentFiles twoOrdersDocument

def twoOrders : Configuration :=
  { ordersConfiguration with document := twoOrdersDocument.toValue }

def twoOrdersPlan : Plan := ⟨.redshift, [crmOrders, orders], false, false, .text "schemas"⟩

def emptyBackend : Backend := ⟨fun _ _ => .ok []⟩

def exportsPath : Path := Path.ofText "schemas/orders_schema.yaml"

def exportFiles (text : String) : Files :=
  (twoOrdersFiles.put ["tmp", "work", "schemas"] .folder).put
    ["tmp", "work", "schemas", "orders_schema.yaml"] (.file text)

theorem plan_twoOrders : twoOrders.plan twoOrdersFiles = .ok twoOrdersPlan := rfl

theorem read_twoOrdersDocument :
    Yaml.read (Yaml.write twoOrdersDocument) = .ok twoOrdersDocument.toValue :=
  Yaml.read_of_node rfl (by decide +kernel) (by decide +kernel)

theorem read_crmOrders : Yaml.read (Yaml.write crmOrders.toPlain) = .ok crmOrders.toPlain.toValue :=
  Yaml.read_of_node rfl (by decide +kernel) (by decide +kernel)

theorem read_orders : Yaml.read (Yaml.write orders.toPlain) = .ok orders.toPlain.toValue :=
  Yaml.read_of_node rfl (by decide +kernel) (by decide +kernel)

theorem load_twoOrders :
    ((load ordersEnvironment ordersPath variablesPath).run emptyBackend
      (Journal.start twoOrdersFiles)).1 = .ok twoOrders :=
  load_documentFiles read_twoOrdersDocument rfl emptyBackend []

theorem exported_crmOrders : twoOrdersPlan.exported crmOrders twoOrdersFiles =
    (.ok (), exportFiles (Yaml.write crmOrders.toPlain)) := by
  have hwritten : ∀ text, twoOrdersFiles.written exportsPath text = (.ok (), exportFiles text) :=
    fun _ => rfl
  exact hwritten _

theorem exported_orders : twoOrdersPlan.exported orders (exportFiles (Yaml.write crmOrders.toPlain)) =
    (.ok (), exportFiles (Yaml.write orders.toPlain)) := by
  have hwritten : ∀ text text', (exportFiles text).written exportsPath text' =
      (.ok (), exportFiles text') := fun _ _ => rfl
  exact hwritten _ _

theorem course_twoOrders {asked : List String} {r : Except Fault Unit} {after : Files}
    (h : Plan.Course twoOrdersPlan emptyBackend [] twoOrdersFiles [crmOrders, orders] asked r after) :
    asked = [twoOrdersPlan.listing crmOrders, twoOrdersPlan.creating crmOrders,
      twoOrdersPlan.listing orders, twoOrdersPlan.creating orders] ∧ r = .ok () ∧
        after = exportFiles (Yaml.write orders.toPlain) := by
  have hempty : ∀ earlier t, emptyBackend.read earlier (twoOrdersPlan.listing t)
      (Reflection.listedNames twoOrdersPlan.engine) = .ok [] := fun _ _ => rfl
  cases h with
  | cut hblock =>
    have hend := hblock.eq_of_absent rfl rfl (hempty _ _) (by simp) rfl exported_crmOrders
    exact absurd hend.2.1 (by simp)
  | next hblock hrest =>
    obtain ⟨rfl, _, rfl⟩ :=
      hblock.eq_of_absent rfl rfl (hempty _ _) (by simp) rfl exported_crmOrders
    cases hrest with
    | cut hblock =>
      have hend := hblock.eq_of_absent rfl rfl (hempty _ _) (by simp) rfl exported_orders
      exact absurd hend.2.1 (by simp)
    | next hblock hrest =>
      obtain ⟨rfl, _, rfl⟩ :=
        hblock.eq_of_absent rfl rfl (hempty _ _) (by simp) rfl exported_orders
      cases hrest
      exact ⟨rfl, rfl, rfl⟩

/-- Both tables are created, and the export of the second one takes the place of the first. -/
theorem run_twoOrders :
    ((runAt ordersEnvironment ordersPath).run emptyBackend (Journal.start twoOrdersFiles)).1 =
        .ok () ∧
      ((runAt ordersEnvironment ordersPath).run emptyBackend
        (Journal.start twoOrdersFiles)).2.files = exportFiles (Yaml.write orders.toPlain) ∧
      ((runAt ordersEnvironment ordersPath).run emptyBackend
        (Journal.start twoOrdersFiles)).2.statements =
          [twoOrdersPlan.listing crmOrders, twoOrdersPlan.creating crmOrders,
            twoOrdersPlan.listing orders, twoOrdersPlan.creating orders] := by
  obtain ⟨asked, hasked, hcourse⟩ :=
    exists_course_of_credentials load_twoOrders plan_twoOrders rfl
  obtain ⟨hasks, hr, hfiles⟩ := course_twoOrders hcourse
  have hnone : (Journal.start twoOrdersFiles).statements = [] := rfl
  rw [hnone, List.nil_append, hasks] at hasked
  exact ⟨hr, hfiles, hasked⟩

/-- Besides the configuration, the only file with a document is that of `sales.orders`. -/
theorem load_exportFiles_ne_crmOrders (place : Path) :
    Table.load (exportFiles (Yaml.write orders.toPlain)) place .redshift ≠ .ok crmOrders := by
  intro h
  obtain ⟨v, hdocument, hbuilt⟩ := bind_eq_ok_iff.mp h
  obtain ⟨text, hread, hvalue⟩ := bind_eq_ok_iff.mp hdocument
  obtain ⟨at_, hentry⟩ := Files.exists_entry_of_read hread
  have hentries : (exportFiles (Yaml.write orders.toPlain)).entries =
      [(["tmp"], .folder), (["tmp", "work"], .folder),
        (["tmp", "work", "config.yaml"], .file (Yaml.write twoOrdersDocument)),
        (["tmp", "work", "schemas"], .folder),
        (["tmp", "work", "schemas", "orders_schema.yaml"], .file (Yaml.write orders.toPlain))] := rfl
  have htext : text = Yaml.write twoOrdersDocument ∨ text = Yaml.write orders.toPlain := by
    rw [hentries] at hentry
    simp only [List.mem_cons, Prod.mk.injEq, reduceCtorEq, and_false, Entry.file.injEq,
      List.not_mem_nil, or_false, false_or] at hentry
    exact hentry.imp And.right And.right
  rcases htext with rfl | rfl
  · have hrefused : ∃ fault, Table.ofValue .redshift twoOrdersDocument.toValue = .error fault :=
      ⟨_, rfl⟩
    obtain ⟨fault, hfault⟩ := hrefused
    rw [Value.ofYaml_write read_twoOrdersDocument rfl] at hvalue
    obtain rfl := Except.ok.inj hvalue
    rw [hfault] at hbuilt
    exact absurd hbuilt (by simp)
  · have hother : Table.ofValue .redshift orders.toPlain.toValue = .ok orders := rfl
    rw [Value.ofYaml_write read_orders rfl] at hvalue
    obtain rfl := Except.ok.inj hvalue
    rw [hother] at hbuilt
    exact absurd (Except.ok.inj hbuilt) (by decide)

theorem distinct_twoOrders : (twoOrdersPlan.tables.map fun t => (t.schema, t.name)).Nodup := by
  decide

theorem read_twoOrders :
    ∀ t ∈ twoOrdersPlan.tables, Yaml.read (Yaml.write t.toPlain) = .ok t.toPlain.toValue := by
  intro t ht
  simp only [twoOrdersPlan, List.mem_cons, List.not_mem_nil, or_false] at ht
  rcases ht with rfl | rfl
  · exact read_crmOrders
  · exact read_orders

/-- A run can lose an export, although no table is named twice in a schema. -/
theorem runAt_twoOrders_loses_export :
    ((load ordersEnvironment ordersPath variablesPath).run emptyBackend
        (Journal.start twoOrdersFiles)).1 = .ok twoOrders ∧
      twoOrders.plan twoOrdersFiles = .ok twoOrdersPlan ∧
      twoOrdersPlan.exportFolder = .text "schemas" ∧
      (twoOrdersPlan.tables.map fun t => (t.schema, t.name)).Nodup ∧
      (∀ t ∈ twoOrdersPlan.tables, Yaml.read (Yaml.write t.toPlain) = .ok t.toPlain.toValue) ∧
      ((runAt ordersEnvironment ordersPath).run emptyBackend
        (Journal.start twoOrdersFiles)).1 = .ok () ∧
      crmOrders ∈ twoOrdersPlan.tables ∧
      twoOrdersPlan.creating crmOrders ∈ ((runAt ordersEnvironment ordersPath).run emptyBackend
        (Journal.start twoOrdersFiles)).2.statements ∧
      ∀ place, Table.load ((runAt ordersEnvironment ordersPath).run emptyBackend
        (Journal.start twoOrdersFiles)).2.files place twoOrdersPlan.engine ≠ .ok crmOrders := by
  obtain ⟨hr, hfiles, hasked⟩ := run_twoOrders
  refine ⟨load_twoOrders, plan_twoOrders, rfl, distinct_twoOrders, read_twoOrders, hr,
    List.mem_cons_self, ?_, ?_⟩
  · rw [hasked]
    simp
  · rw [hfiles]
    exact load_exportFiles_ne_crmOrders

/-- The last table of a run has its export in the folder for exports. -/
theorem runAt_twoOrders_keeps_export :
    ((runAt ordersEnvironment ordersPath).run emptyBackend
        (Journal.start twoOrdersFiles)).1 = .ok () ∧
      exportsPath = ⟨"", ["schemas", "orders_schema.yaml"]⟩ ∧
      Table.load ((runAt ordersEnvironment ordersPath).run emptyBackend
        (Journal.start twoOrdersFiles)).2.files exportsPath .redshift = .ok orders := by
  obtain ⟨hr, _, hasks⟩ := run_twoOrders
  obtain ⟨asked, hasked, hexports⟩ := runAt_exports load_twoOrders plan_twoOrders rfl
    distinct_twoOrders read_twoOrders hr
  have hnone : (Journal.start twoOrdersFiles).statements = [] := rfl
  rw [hasks, hnone, List.nil_append] at hasked
  obtain ⟨folder, hfolder, hpath, hload⟩ := hexports [crmOrders] orders [] rfl (by simp [← hasked])
  obtain rfl := Value.text.inj hfolder
  exact ⟨hr, hpath (by decide), hload (by simp)⟩

end Configuration

end WarehouseSchema
