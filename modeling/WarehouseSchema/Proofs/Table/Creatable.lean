import WarehouseSchema.Plan
import WarehouseSchema.Proofs.Column.Collection
import WarehouseSchema.Proofs.Statement.Checked

/-!
Tables that can be created. A table with columns, all of the same warehouse, has a CREATE there, because
its keys are columns. Main statement: every table of a plan can be created in the plan's warehouse.
-/

namespace WarehouseSchema

namespace Checked

variable {α β : Type}

theorem apply_eq_ok_iff {f : Checked (α → β)} {a : Checked α} {y : β} :
    apply f a = .ok y ↔ ∃ g x, f = .ok g ∧ a = .ok x ∧ g x = y := by
  cases f <;> cases a <;> simp [apply]

theorem under_eq_ok_iff {step : String} {r : Checked α} {y : α} :
    under step r = .ok y ↔ r = .ok y := by
  cases r <;> simp [under]

theorem alongside_eq_ok_iff {r : Checked α} {check : Checked Unit} {y : α} :
    alongside r check = .ok y ↔ r = .ok y ∧ check = .ok () := by
  cases r <;> cases check <;> simp [alongside, apply]

end Checked

theorem columns_ne_nil_of_required {entries : List (Value × Value)} {name : String}
    {columns : List ColumnDescription}
    (h : Shape.required entries name TableDescription.readColumns = .ok columns) :
    columns ≠ [] := by
  rw [Shape.required, Checked.under_eq_ok_iff] at h
  split at h
  · rintro rfl
    unfold TableDescription.readColumns at h
    split at h
    · simp [Checked.refuse] at h
    · rename_i hne
      exact hne h
  · simp [Checked.refuse] at h

theorem TableDescription.columns_ne_nil {v : Value} {d : TableDescription}
    (h : TableDescription.ofValue v = .ok d) : d.columns ≠ [] := by
  cases v with
  | map entries =>
    simp only [ofValue, Checked.alongside_eq_ok_iff, Checked.apply_eq_ok_iff] at h
    -- The columns come from the fourth of five readers that are applied one after the other.
    obtain ⟨⟨_, keys, ⟨_, columns, ⟨_, temporary, ⟨_, table, ⟨_, schema, hmk, _, rfl⟩, _, rfl⟩, _,
      rfl⟩, hcolumns, rfl⟩, _, rfl⟩, _⟩ := h
    cases hmk
    exact columns_ne_nil_of_required hcolumns
  | _ => simp [ofValue, Checked.refuse] at h

namespace Table

theorem make_eq_ok_iff {schema name : String} {temporary : Bool} {columns : Columns}
    {keys : List String} {t : Table} : make schema name temporary columns keys = .ok t ↔
      t.schema = schema ∧ t.name = name ∧ t.temporary = temporary ∧ t.columns = columns ∧
        t.keys = keys := by
  constructor
  · intro h
    unfold make at h
    split at h
    · split at h
      · obtain rfl := Except.ok.inj h
        exact ⟨rfl, rfl, rfl, rfl, rfl⟩
      · exact absurd h (DefinitionFault.raise_ne_ok _ _)
    · exact absurd h (DefinitionFault.raise_ne_ok _ _)
  · rintro ⟨rfl, rfl, rfl, rfl, rfl⟩
    exact t.make_eq_ok

/-- The table has columns, all of a warehouse. -/
structure Creatable (e : Engine) (t : Table) : Prop where
  columns_ne_nil : t.columns.toList ≠ []
  columns_engine : ∀ c ∈ t.columns.toList, c.engine = e

variable {e : Engine} {t : Table}

theorem Creatable.renderable (h : t.Creatable e) (withKeys : Bool) :
    Statement.Renderable e t.columns (if withKeys then t.keys else []) := by
  refine ⟨h.columns_ne_nil, h.columns_engine, ?_⟩
  cases withKeys with
  | false => simp
  | true => exact t.keys_mem

theorem Creatable.createSql_eq_ok_iff {withKeys : Bool} {sql : String} (h : t.Creatable e) :
    t.createSql e withKeys = .ok sql ↔ (Statement.create t.schema t.name t.temporary t.columns.toList
      (if withKeys then t.keys else [])).render e = sql := by
  unfold createSql
  rw [Statement.createSql_eq_ok_iff, and_iff_right (h.renderable withKeys)]

theorem Creatable.createSql_eq_ok (h : t.Creatable e) :
    t.createSql e true =
      .ok ((Statement.create t.schema t.name t.temporary t.columns.toList t.keys).render e) :=
  h.createSql_eq_ok_iff.mpr rfl

/-- Columns of another warehouse are refused, the first one by its name. -/
theorem Creatable.createSql_of_ne {g : Engine} {withKeys : Bool} (h : t.Creatable e) (hne : e ≠ g) :
    ∃ c ∈ t.columns.toList.head?,
      t.createSql g withKeys = .error (.definition (.foreignColumn g e c.name)) := by
  obtain ⟨c, after, hcolumns⟩ := List.exists_cons_of_ne_nil h.columns_ne_nil
  have hfirst : t.columns.toList = [] ++ c :: after := hcolumns
  have hc : c.engine = e := h.columns_engine c (by simp [hcolumns])
  refine ⟨c, by simp [hcolumns], ?_⟩
  rw [createSql, Statement.createSql_of_foreign hfirst (by simp) (hc ▸ hne), hc]

/-- The columns of a table that was built are those that its description asks for. -/
theorem exists_description {v : Value} (h : Table.ofValue e v = .ok t) :
    ∃ d, TableDescription.ofValue v = .ok d ∧
      d.columns.mapM (ColumnDescription.build e) = .ok t.columns.toList := by
  obtain ⟨d, hd, hb⟩ := bind_eq_ok_iff.mp h
  have hread : TableDescription.ofValue v = .ok d := by
    cases hv : TableDescription.ofValue v with
    | error report => simp [hv, Checked.orFault] at hd
    | ok d' =>
      rw [hv] at hd
      rw [Except.ok.inj hd]
  obtain ⟨columns, hcolumns, hb⟩ := bind_eq_ok_iff.mp hb
  obtain ⟨cs, hcs, ht⟩ := bind_eq_ok_iff.mp hb
  obtain ⟨_, _, _, hkept, _⟩ := make_eq_ok_iff.mp ht
  refine ⟨d, hread, ?_⟩
  rw [hkept, Columns.ofList_eq_ok_iff.mp hcs]
  exact hcolumns

theorem creatable_of_ofValue {v : Value} (h : Table.ofValue e v = .ok t) : t.Creatable e := by
  obtain ⟨d, hread, hcolumns⟩ := exists_description h
  refine ⟨?_, ?_⟩
  · intro hnil
    rw [hnil] at hcolumns
    exact TableDescription.columns_ne_nil hread
      (List.forall₂_nil_right_iff.mp (mapM_eq_ok_iff.mp hcolumns))
  · intro c hc
    obtain ⟨described, _, hc⟩ := exists_of_mem_mapM hcolumns hc
    obtain ⟨definition, _, hc⟩ := bind_eq_ok_iff.mp hc
    obtain ⟨_, rfl, heng⟩ := Column.make_eq_ok_iff.mp hc
    exact heng

end Table

/-- Every table of a plan is built from some document. -/
theorem Configuration.exists_ofValue_of_plan {c : Configuration} {files : Files} {p : Plan}
    (h : c.plan files = .ok p) : ∀ t ∈ p.tables, ∃ v, Table.ofValue p.engine v = .ok t := by
  simp only [plan, bind_eq_ok_iff, pure_eq_ok_iff] at h
  obtain ⟨e, _, tables, htables, _, _, _, _, _, _, rfl⟩ := h
  simp only [loadTables, bind_eq_ok_iff] at htables
  obtain ⟨entries, _, items, _, htables⟩ := htables
  intro t ht
  obtain ⟨entry, _, ht⟩ := exists_of_mem_mapM htables ht
  simp only [bind_eq_ok_iff] at ht
  obtain ⟨_, _, _, _, v, _, ht⟩ := ht
  exact ⟨v, ht⟩

/-- Every table of a plan can be created in the warehouse of the plan. -/
theorem Configuration.creatable_of_plan {c : Configuration} {files : Files} {p : Plan}
    (h : c.plan files = .ok p) : ∀ t ∈ p.tables, t.Creatable p.engine := by
  intro t ht
  obtain ⟨v, hv⟩ := exists_ofValue_of_plan h t ht
  exact Table.creatable_of_ofValue hv

end WarehouseSchema
