import WarehouseSchema.Proofs.Outcome
import WarehouseSchema.Statement

/-!
What a CREATE is checked for. A warehouse writes the CREATE of some columns and keys exactly when there are
columns, all of them its own, and the keys are among them. The first column of another warehouse is refused
by its name, and whatever is refused is refused with a definition fault.
-/

namespace WarehouseSchema

namespace Statement

/-- A warehouse can write the CREATE of these columns and keys. -/
structure Renderable (e : Engine) (columns : Columns) (keys : List String) : Prop where
  columns_ne_nil : columns.toList ≠ []
  columns_engine : ∀ c ∈ columns.toList, c.engine = e
  keys_mem : ∀ key ∈ keys, key ∈ columns.names

variable {e : Engine} {schema table sql : String} {columns : Columns} {keys : List String}
  {temporary : Bool}

theorem find?_foreign_eq_none_iff :
    (columns.toList.find? fun c => c.engine != e) = none ↔ ∀ c ∈ columns.toList, c.engine = e := by
  rw [List.find?_eq_none]
  simp only [bne_iff_ne, not_not]

theorem find?_stray_eq_none_iff :
    (keys.find? fun key => !columns.contains key) = none ↔ ∀ key ∈ keys, key ∈ columns.names := by
  rw [List.find?_eq_none]
  simp [Columns.contains]

theorem check_eq_ok_iff : check e columns keys = .ok () ↔ Renderable e columns keys := by
  unfold check
  constructor
  · intro h
    split at h
    · exact absurd h (DefinitionFault.raise_ne_ok _ _)
    · rename_i hcolumns
      split at h
      · exact absurd h (DefinitionFault.raise_ne_ok _ _)
      · rename_i hforeign
        split at h
        · exact absurd h (DefinitionFault.raise_ne_ok _ _)
        · rename_i hstray
          exact ⟨by simpa using hcolumns, find?_foreign_eq_none_iff.mp hforeign,
            find?_stray_eq_none_iff.mp hstray⟩
  · rintro ⟨hcolumns, hengine, hkeys⟩
    rw [if_neg (by simpa using hcolumns), find?_foreign_eq_none_iff.mpr hengine,
      find?_stray_eq_none_iff.mpr hkeys]

/-- A column of another warehouse is refused before the keys are looked at. -/
theorem check_of_foreign {before after : List Column} {c : Column}
    (hcolumns : columns.toList = before ++ c :: after) (hbefore : ∀ b ∈ before, b.engine = e)
    (hc : c.engine ≠ e) :
    check e columns keys = .error (.definition (.foreignColumn e c.engine c.name)) := by
  have hforeign : (columns.toList.find? fun c => c.engine != e) = some c := by
    rw [List.find?_eq_some_iff_append]
    exact ⟨by simpa using hc, before, after, hcolumns, by simpa using hbefore⟩
  unfold check
  rw [if_neg (by simp [hcolumns]), hforeign]
  rfl

theorem definite_check : Definite (check e columns keys) := by
  unfold check
  split
  · exact DefinitionFault.definite_raise rfl
  · split
    · exact DefinitionFault.definite_raise rfl
    · split
      · exact DefinitionFault.definite_raise rfl
      · exact .ok ()

theorem createSql_eq_ok_iff : createSql e schema table columns keys temporary = .ok sql ↔
    Renderable e columns keys ∧ (create schema table temporary columns.toList keys).render e = sql := by
  unfold createSql
  simp only [bind_eq_ok_iff, pure_eq_ok_iff]
  constructor
  · rintro ⟨_, hcheck, hsql⟩
    exact ⟨check_eq_ok_iff.mp hcheck, hsql⟩
  · rintro ⟨hrenderable, hsql⟩
    exact ⟨(), check_eq_ok_iff.mpr hrenderable, hsql⟩

theorem createSql_of_foreign {before after : List Column} {c : Column}
    (hcolumns : columns.toList = before ++ c :: after) (hbefore : ∀ b ∈ before, b.engine = e)
    (hc : c.engine ≠ e) : createSql e schema table columns keys temporary =
      .error (.definition (.foreignColumn e c.engine c.name)) := by
  unfold createSql
  rw [check_of_foreign hcolumns hbefore hc]
  rfl

theorem definite_createSql : Definite (createSql e schema table columns keys temporary) :=
  definite_check.bind fun _ _ => .ok _

end Statement

end WarehouseSchema
