import WarehouseSchema.Proofs.Storage.Folder
import WarehouseSchema.Proofs.Table.Export
import WarehouseSchema.Proofs.Text.LowerCase

/-!
Folders of exports. The name of a table is joined to the folder as a path, so it may lead out of the folder.
Main statement: an export goes into its folder exactly when the name says nothing before its last slash, or
the same folder from the root, and no other file is written or changed.
-/

namespace WarehouseSchema

open Text

theorem Session.keptAt_write {p : Path} {text : String} {b : Backend} {j : Journal} {at_ : Location}
    (hne : at_ ≠ p.place j.files.working) :
    Files.KeptAt at_ j.files ((Session.write p text).run b j).2.files := by
  unfold run write
  cases hfile : j.files.withFile p text with
  | ok after => exact Files.keptAt_of_withFile hfile hne
  | error fault =>
    dsimp only
    cases hfolder : j.files.makeFolder p.parent with
    | ok after => exact (Files.grows_makeParts hfolder).keptAt
    | error _ => exact Or.inl rfl

namespace Table

/-- Before its last slash, the name of a table says nothing, or the same folder from the root. -/
def StaysIn (folder : Path) (t : Table) : Prop :=
  Path.folderIn (lower t.name) = ⟨"", []⟩ ∨
    (Path.folderIn (lower t.name)).isAbsolute = true ∧ Path.folderIn (lower t.name) = folder

/-- A table is exported to a name in the folder that its own name leads to. -/
theorem exists_exportPath_eq (folder : Path) (t : Table) : ∃ name,
    '/' ∉ name ∧ (lower t.name).toList = upToSlash (lower t.name).toList ++ name ∧
      t.exportPath folder = ⟨(folder.join (Path.folderIn (lower t.name))).root,
        (folder.join (Path.folderIn (lower t.name))).parts ++
          [String.ofList name ++ "_schema.yaml"]⟩ := by
  obtain ⟨name, hslash, hname⟩ := exists_upToSlash (lower t.name).toList
  have hending : '/' ∉ "_schema.yaml".toList := by decide
  have hlast : '/' ∉ name ++ "_schema.yaml".toList := by
    rw [List.mem_append]
    rintro (h | h)
    · exact hslash h
    · exact hending h
  have hlength : 1 < (name ++ "_schema.yaml".toList).length := by
    have hending : "_schema.yaml".toList.length = 12 := rfl
    rw [List.length_append, hending]
    omega
  refine ⟨name, hslash, hname, ?_⟩
  have hcut : (lower t.name ++ "_schema.yaml").toList =
      upToSlash (lower t.name ++ "_schema.yaml").toList ++ (name ++ "_schema.yaml".toList) := by
    rw [String.toList_append, upToSlash_append _ hending, ← List.append_assoc, ← hname]
  have hpath := Path.ofText_eq hcut hlast (fun h => absurd hlength (by rw [h]; decide))
    (fun h => absurd hlength (by rw [h]; decide))
  rw [Path.folderIn_append _ hending, String.ofList_append, String.ofList_toList] at hpath
  unfold exportPath
  rw [hpath, Path.join_name]

theorem parent_exportPath (folder : Path) (t : Table) :
    (t.exportPath folder).parent = folder.join (Path.folderIn (lower t.name)) := by
  obtain ⟨name, _, _, hpath⟩ := exists_exportPath_eq folder t
  rw [hpath, Path.parent_name]

theorem exportPath_of_not_mem {folder : Path} {t : Table} (h : '/' ∉ t.name.toList) :
    t.exportPath folder = ⟨folder.root, folder.parts ++ [lower t.name ++ "_schema.yaml"]⟩ := by
  have hlower : '/' ∉ (lower t.name).toList := fun hmem => h (mem_of_mem_lower (by decide) hmem)
  have hstays : folder.join (Path.folderIn (lower t.name)) = folder :=
    Path.join_eq_self_iff.mpr (Or.inl (Path.folderIn_of_not_mem hlower))
  obtain ⟨name, _, hname, hpath⟩ := exists_exportPath_eq folder t
  rw [upToSlash_of_not_mem hlower, List.nil_append] at hname
  rw [hpath, hstays, ← hname, String.ofList_toList]

theorem exists_place_exportPath (folder : Path) (t : Table) (working : Location) : ∃ file,
    (t.exportPath folder).place working = (t.exportPath folder).parent.place working ++ [file] := by
  obtain ⟨name, _, _, hpath⟩ := exists_exportPath_eq folder t
  refine ⟨String.ofList name ++ "_schema.yaml", ?_⟩
  rw [hpath, Path.parent_name]
  apply Path.place_name
  intro hdots
  have hlength := congrArg String.length hdots
  have hending : "_schema.yaml".length = 12 := rfl
  rw [String.length_append, hending] at hlength
  have htwo : "..".length = 2 := rfl
  omega

/-- An export goes into the folder that the name of its table leads to from the folder of exports. The two
are one exactly if the name stays in the folder, as a name without a slash does. Whatever comes of it, the
files at other locations are kept and none is written there. -/
theorem export_stays_iff (folder : Path) (t : Table) :
    (t.exportPath folder).parent = folder.join (Path.folderIn (lower t.name)) ∧
    ((t.exportPath folder).parent = folder ↔ t.StaysIn folder) ∧
    ('/' ∉ t.name.toList →
      t.exportPath folder = ⟨folder.root, folder.parts ++ [lower t.name ++ "_schema.yaml"]⟩) ∧
    ∀ b j, (∃ file, (t.exportPath folder).place j.files.working =
        (t.exportPath folder).parent.place j.files.working ++ [file]) ∧
      (((t.export_ folder).run b j).1 = .ok () →
        ((t.export_ folder).run b j).2.files.read (t.exportPath folder) =
          .ok (Yaml.write t.toPlain)) ∧
      ∀ at_, at_ ≠ (t.exportPath folder).place j.files.working →
        Files.KeptAt at_ j.files ((t.export_ folder).run b j).2.files := by
  refine ⟨parent_exportPath folder t, ?_, exportPath_of_not_mem, ?_⟩
  · rw [parent_exportPath]
    exact Path.join_eq_self_iff
  · intro b j
    unfold export_
    refine ⟨exists_place_exportPath folder t _, ?_, fun _ hne => Session.keptAt_write hne⟩
    intro hrun
    exact (Files.withFile_eq_ok (Session.run_write_eq_ok hrun)).2

theorem payments_stays :
    '/' ∉ payments.name.toList ∧
    payments.exportPath (Path.ofText "schemas") = ⟨"", ["schemas", "payments_schema.yaml"]⟩ ∧
    (∀ b, ((payments.export_ (Path.ofText "schemas")).run b (Journal.start Files.empty)).1 = .ok () ∧
      ((payments.export_ (Path.ofText "schemas")).run b (Journal.start Files.empty)).2.files.read
        (payments.exportPath (Path.ofText "schemas")) = .ok (Yaml.write payments.toPlain)) := by
  obtain ⟨_, _, hpath, hrun⟩ := export_stays_iff (Path.ofText "schemas") payments
  have hslash : '/' ∉ payments.name.toList := by decide
  exact ⟨hslash, hpath hslash, fun b => ⟨rfl, (hrun b (Journal.start Files.empty)).2.1 rfl⟩⟩

/-- A description of a table whose name leads to the folder around. -/
def strayDescription : Value :=
  .map [(.text "schema_name", .text "crm"), (.text "table_name", .text "../orders"),
    (.text "columns", .list [.map [(.text "name", .text "order_id"), (.text "type", .text "INT")]]),
    (.text "primary_keys", .list [.text "order_id"])]

def stray : Table where
  schema := "crm"
  name := "../orders"
  temporary := false
  columns := ⟨[⟨"order_id", ⟨.redshift, "INT", none, true, none, none⟩, by decide⟩], by decide⟩
  keys := ["order_id"]
  keys_mem := by decide
  keys_nodup := by decide

/-- The working folder with a file beside the folder of exports. -/
def strayFiles (text : String) : Files :=
  Files.empty.put ["tmp", "work", "orders_schema.yaml"] (.file text)

/-- The export of such a table takes the place of a file outside its folder. A name from the root leaves the
folder altogether. -/
theorem export_stray :
    ofValue .redshift strayDescription = .ok stray ∧
    (stray.exportPath (Path.ofText "schemas")).parent ≠ Path.ofText "schemas" ∧
    exportPath (Path.ofText "schemas") { stray with name := "/orders" } =
      ⟨"/", ["orders_schema.yaml"]⟩ ∧
    (Path.ofText "schemas").place (strayFiles "kept").working = ["tmp", "work", "schemas"] ∧
    (strayFiles "kept").entryAt? ["tmp", "work", "orders_schema.yaml"] = some (.file "kept") ∧
    ∀ b, ((stray.export_ (Path.ofText "schemas")).run b (Journal.start (strayFiles "kept"))).1 =
        .ok () ∧
      ((stray.export_ (Path.ofText "schemas")).run b
        (Journal.start (strayFiles "kept"))).2.files.entryAt? ["tmp", "work", "orders_schema.yaml"] =
          some (.file (Yaml.write stray.toPlain)) := by
  have hwritten : ∀ text b, (Session.write (stray.exportPath (Path.ofText "schemas")) text).run b
      (Journal.start (strayFiles "kept")) = (.ok (), Journal.push
        ⟨[], (strayFiles text).put ["tmp", "work", "schemas"] .folder⟩
        (.wrote (stray.exportPath (Path.ofText "schemas")) text)) := by
    intro text b
    rfl
  refine ⟨rfl, by decide, rfl, rfl, rfl, ?_⟩
  intro b
  rw [export_, hwritten]
  exact ⟨rfl, rfl⟩

end Table

end WarehouseSchema
