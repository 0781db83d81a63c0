import WarehouseSchema.Proofs.Column.Collection
import WarehouseSchema.Proofs.Text.SameLetters
import WarehouseSchema.Reflection.Rows

/-!
Reflected names. The name of a reflected column or key is what a field of its row says. Main statements:
rows that show ASCII names without blanks around them, in any letter case, are reflected as columns or keys
with the lower case of these names.
-/

namespace WarehouseSchema

open Text

namespace Catalog

def columnField : Engine → String
  | .redshift => "column_name"
  | .snowflake => "name"
  | .teradata => "ColumnName"

variable {row : Record} {c : Column} {s : String}

theorem name_of_redshiftColumn (h : redshiftColumn row = .ok c) :
    row.getAnyCase "column_name" .null = .text c.name := by
  have hrest : ∀ type, (do
      let length ← redshiftLength type row
      let compression ← redshiftEncoding row
      let d ← Definition.make .redshift type
        [("length", length), ("nullable", .bool (nullable row "is_nullable" "YES")),
         ("default", row.getAnyCase "column_default" .null), ("compression", compression)]
      Column.make .redshift (row.getAnyCase "column_name" .null) d) = .ok c →
      row.getAnyCase "column_name" .null = .text c.name := by
    intro type h
    obtain ⟨length, _, h⟩ := bind_eq_ok_iff.mp h
    obtain ⟨compression, _, h⟩ := bind_eq_ok_iff.mp h
    obtain ⟨d, _, h⟩ := bind_eq_ok_iff.mp h
    exact (Column.make_eq_ok_iff.mp h).1
  unfold redshiftColumn at h
  split at h
  · obtain ⟨type, _, h⟩ := bind_eq_ok_iff.mp h
    exact hrest type h
  · obtain ⟨shown, _, h⟩ := bind_eq_ok_iff.mp h
    obtain ⟨type, _, h⟩ := bind_eq_ok_iff.mp h
    exact hrest type h

theorem name_of_snowflakeColumn (h : snowflakeColumn row = .ok c) :
    row.getAnyCase "name" .null = .text c.name := by
  unfold snowflakeColumn at h
  dsimp only at h
  split at h
  · exact absurd h (DefinitionFault.raise_ne_ok _ _)
  · obtain ⟨d, _, h⟩ := bind_eq_ok_iff.mp h
    exact (Column.make_eq_ok_iff.mp h).1

theorem name_of_teradataColumn (h : teradataColumn row = .ok c) :
    trimmedField row "ColumnName" = .text c.name := by
  unfold teradataColumn at h
  dsimp only at h
  split at h
  · exact absurd h throw_ne_ok
  · split at h
    · exact absurd h (DefinitionFault.raise_ne_ok _ _)
    · obtain ⟨length, _, h⟩ := bind_eq_ok_iff.mp h
      obtain ⟨d, _, h⟩ := bind_eq_ok_iff.mp h
      exact (Column.make_eq_ok_iff.mp h).1

end Catalog

open Catalog

/-- A column has the name that its row shows, if there are no blanks around it. -/
theorem Column.name_of_ofRow {e : Engine} {row : Record} {c : Column} {s : String}
    (h : Column.ofRow e row = .ok c) (hfield : row.getAnyCase (columnField e) .null = .text s)
    (hbare : Bare s.toList) : c.name = s := by
  cases e with
  | redshift =>
    have hname := name_of_redshiftColumn h
    rw [columnField] at hfield
    rw [hfield] at hname
    exact (Value.text.inj hname).symm
  | snowflake =>
    have hname := name_of_snowflakeColumn h
    rw [columnField] at hfield
    rw [hfield] at hname
    exact (Value.text.inj hname).symm
  | teradata =>
    have hname := name_of_teradataColumn h
    rw [columnField] at hfield
    rw [trimmedField, hfield] at hname
    have htrimmed : trim s = c.name := Value.text.inj hname
    rw [← htrimmed, trim_of_bare hbare]

namespace Reflection

/-- The rows show these names in a field, one after the other and in any letter case. -/
def ShowNames (field : String) (rows : List Record) (names : List String) : Prop :=
  List.Forall₂ (fun row name => ∃ s, row.getAnyCase field .null = .text s ∧
    SameLetters s.toList name.toList) rows names

/-- Names of ASCII characters without blanks at their ends. -/
def PlainNames (names : List String) : Prop := ∀ s ∈ names, IsAscii s.toList ∧ Bare s.toList

variable {e : Engine} {rows ordered : List Record} {names : List String}

theorem lower_names_of_showNames {columns : List Column}
    (h : rows.mapM (Column.ofRow e) = .ok columns) (hshow : ShowNames (columnField e) rows names)
    (hplain : PlainNames names) : (columns.map Column.name).map lower = names.map lower := by
  induction hshow generalizing columns with
  | nil =>
    obtain rfl := pure_eq_ok_iff.mp h
    rfl
  | cons hrow _ ih =>
    obtain ⟨s, hfield, hsame⟩ := hrow
    obtain ⟨c, rest, hc, hrest, rfl⟩ := List.forall₂_cons_left_iff.mp (mapM_eq_ok_iff.mp h)
    obtain ⟨hascii, hbare⟩ := hplain _ List.mem_cons_self
    have hname : c.name = s := Column.name_of_ofRow hc hfield (hsame.bare hbare)
    have htail := ih (mapM_eq_ok_iff.mpr hrest) fun s hs => hplain s (List.mem_cons_of_mem _ hs)
    rw [List.map_cons, List.map_cons, List.map_cons, htail, hname, hsame.lower_eq hascii]

/-- Columns whose rows show plain names have the lower case of these names. -/
theorem lower_names_of_describedColumns {columns : Columns}
    (h : describedColumns e rows = .ok columns)
    (hshow : ShowNames (columnField e) (rows.filter (isStored e)) names)
    (hplain : PlainNames names) : columns.names.map lower = names.map lower := by
  obtain ⟨decoded, hdecoded, hcolumns⟩ := bind_eq_ok_iff.mp h
  obtain rfl := Columns.ofList_eq_ok_iff.mp hcolumns
  exact lower_names_of_showNames hdecoded hshow hplain

theorem nameIn_of_text {field s : String} {row : Record} (h : row.getAnyCase field .null = .text s)
    (hbare : Bare s.toList) : nameIn field row = .ok s := by
  have hdisplay : Fault.ofText (Value.text s).display = .ok s := rfl
  rw [nameIn, h, hdisplay, ok_bind, trim_of_bare hbare]
  rfl

theorem exists_names_of_showNames {field : String} (hshow : ShowNames field rows names)
    (hplain : PlainNames names) :
    ∃ shown, rows.mapM (nameIn field) = .ok shown ∧ shown.map lower = names.map lower := by
  induction hshow with
  | nil => exact ⟨[], rfl, rfl⟩
  | cons hrow _ ih =>
    obtain ⟨s, hfield, hsame⟩ := hrow
    obtain ⟨hascii, hbare⟩ := hplain _ List.mem_cons_self
    obtain ⟨rest, hrest, htail⟩ := ih fun s hs => hplain s (List.mem_cons_of_mem _ hs)
    have hname : nameIn field _ = .ok s := nameIn_of_text hfield (hsame.bare hbare)
    refine ⟨s :: rest, mapM_eq_ok_iff.mpr (.cons hname (mapM_eq_ok_iff.mp hrest)), ?_⟩
    rw [List.map_cons, List.map_cons, htail, hsame.lower_eq hascii]

/-- Keys whose rows, in key order, show plain names have the lower case of these names. -/
theorem exists_keyNames_of_showNames (hordered : keyRows e rows = .ok ordered)
    (hshow : ShowNames (keyField e) ordered names) (hplain : PlainNames names) :
    ∃ keys, keyNames e rows = .ok keys ∧ keys.map lower = names.map lower := by
  unfold keyNames
  rw [hordered, ok_bind]
  exact exists_names_of_showNames hshow hplain

end Reflection

end WarehouseSchema
