import WarehouseSchema.Proofs.Storage.Place
import WarehouseSchema.Proofs.Table.Rebuilt
import WarehouseSchema.Proofs.Yaml.Plain
import WarehouseSchema.Proofs.Yaml.Writer

/-!
Exported tables. Main statement: a table that was built is built again from its record, and from the file
to which it is exported.
-/

namespace WarehouseSchema

theorem Session.run_write_eq_ok {p : Path} {text : String} {b : Backend} {j : Journal}
    (h : ((Session.write p text).run b j).1 = .ok ()) :
    j.files.withFile p text = .ok ((Session.write p text).run b j).2.files := by
  unfold run write at h ⊢
  cases hfile : j.files.withFile p text with
  | ok after => rfl
  | error fault =>
    rw [hfile] at h
    cases hfolder : j.files.makeFolder p.parent <;> simp [hfolder] at h

/-- A document that is not empty is read from its file, if YAML reads it as it was written. -/
theorem Value.ofYaml_write {p : Plain} (hyaml : Yaml.read (Yaml.write p) = .ok p.toValue)
    (hfull : p.toValue.isTruthy = true) : Value.ofYaml (Yaml.write p) = .ok p.toValue := by
  rw [Value.ofYaml, Yaml.unifyLines_write, hyaml, ok_bind, hfull, if_pos rfl]
  rfl

namespace Table

variable {e : Engine} {t : Table} {v : Value}

/-- A table is loaded from a file that holds its plain data, if that is read as it was written. -/
theorem load_of_read {fs : Files} {p : Path} (h : ofValue e v = .ok t)
    (hyaml : Yaml.read (Yaml.write t.toPlain) = .ok t.toPlain.toValue)
    (hread : fs.read p = .ok (Yaml.write t.toPlain)) : load fs p e = .ok t := by
  have hdocument : fs.readYaml p = .ok t.toValue := by
    rw [Files.readYaml, hread, ok_bind, Value.ofYaml_write hyaml rfl, toValue_toPlain]
  rw [load, hdocument, ok_bind]
  exact ofValue_toValue h

/-- A table that was built from a document is built again from its record. If YAML reads its plain data as
it was written, it is loaded from every path to which it is exported as well. -/
theorem load_export (h : ofValue e v = .ok t) :
    ofValue e t.toValue = .ok t ∧
    (Yaml.read (Yaml.write t.toPlain) = .ok t.toPlain.toValue → ∀ folder b j,
      ((t.export_ folder).run b j).1 = .ok () →
        load ((t.export_ folder).run b j).2.files (t.exportPath folder) e = .ok t) := by
  refine ⟨ofValue_toValue h, ?_⟩
  intro hyaml folder b j hrun
  rw [export_] at hrun ⊢
  have hwritten := Session.run_write_eq_ok hrun
  exact load_of_read h hyaml (Files.withFile_eq_ok hwritten).2

/-- A description with other spellings than those of the table. -/
def paymentsDescription : Value :=
  .map [(.text "schema_name", .text "crm"), (.text "table_name", .text "Payments"),
    (.text "columns", .list [
      .map [(.text "name", .text "code"), (.text "type", .text "bigint"),
        (.text "nullable", .bool false), (.text "compression", .text " az64 ")],
      .map [(.text "name", .text "note"), (.text "type", .text "varchar"),
        (.text "length", .text " 064 "), (.text "default", .text " 'none: yet' ")]]),
    (.text "primary_keys", .list [.text "code"])]

def payments : Table where
  schema := "crm"
  name := "Payments"
  temporary := false
  columns := ⟨[⟨"code", ⟨.redshift, "BIGINT", none, false, none, some "AZ64"⟩, by decide⟩,
    ⟨"note", ⟨.redshift, "VARCHAR", some "064", true, some " 'none: yet' ", none⟩, by decide⟩],
    by decide⟩
  keys := ["code"]
  keys_mem := by decide
  keys_nodup := by decide

theorem read_payments :
    Yaml.read (Yaml.write payments.toPlain) = .ok payments.toPlain.toValue :=
  Yaml.read_of_node rfl (by decide +kernel) (by decide +kernel)

theorem load_payments :
    ofValue .redshift paymentsDescription = .ok payments ∧
    ofValue .redshift payments.toValue = .ok payments ∧
    ∀ b, load ((payments.export_ (Path.ofText "schemas")).run b (Journal.start Files.empty)).2.files
      (Path.ofText "schemas/payments_schema.yaml") .redshift = .ok payments := by
  have hbuilt : ofValue .redshift paymentsDescription = .ok payments := rfl
  obtain ⟨hagain, hload⟩ := load_export hbuilt
  exact ⟨hbuilt, hagain, fun b => hload read_payments (Path.ofText "schemas") b _ rfl⟩

end Table

end WarehouseSchema
