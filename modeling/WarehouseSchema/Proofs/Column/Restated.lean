import WarehouseSchema.Column.Catalog
import WarehouseSchema.Proofs.Value.Record

/-!
Rows that hold the same fields in another order and under names in another letter case. A row is decoded by
what its fields say, each found in any letter case. Main statement: where no two names of a row are the same
in lower case, such rows are decoded into the same column or refused with the same fault.
-/

namespace WarehouseSchema

open Text

/-- Every name finds the same in both records. -/
def Record.Alike (r' r : Record) : Prop := ∀ name, r'.findAnyCase? name = r.findAnyCase? name

namespace Catalog

section
variable {row row' : Record} (h : row'.Alike row)
include h

theorem getAnyCase_of_alike (field : String) (default : Value) :
    row'.getAnyCase field default = row.getAnyCase field default := by
  unfold Record.getAnyCase
  rw [h]

theorem trimmedField_of_alike (field : String) : trimmedField row' field = trimmedField row field := by
  unfold trimmedField
  rw [getAnyCase_of_alike h]

theorem integer_of_alike (field : String) : integer row' field = integer row field := by
  unfold integer
  rw [trimmedField_of_alike h]

theorem nullable_of_alike (field yes : String) : nullable row' field yes = nullable row field yes := by
  unfold nullable
  rw [getAnyCase_of_alike h]

theorem redshiftColumn_of_alike : redshiftColumn row' = redshiftColumn row := by
  have hlength : ∀ type, redshiftLength type row' = redshiftLength type row := by
    intro type
    simp only [redshiftLength, getAnyCase_of_alike h]
  have hencoding : redshiftEncoding row' = redshiftEncoding row := by
    simp only [redshiftEncoding, trimmedField_of_alike h]
  simp only [redshiftColumn, getAnyCase_of_alike h, hlength, hencoding, nullable_of_alike h]

theorem snowflakeColumn_of_alike : snowflakeColumn row' = snowflakeColumn row := by
  simp only [snowflakeColumn, getAnyCase_of_alike h]

theorem teradataColumn_of_alike : teradataColumn row' = teradataColumn row := by
  have hlength : ∀ code source, teradataLength code source row' = teradataLength code source row := by
    intro code source
    cases source <;> simp only [teradataLength, integer_of_alike h]
  simp only [teradataColumn, trimmedField_of_alike h, hlength, nullable_of_alike h,
    getAnyCase_of_alike h]

/-- Nothing but what names find in a row decides how it is decoded. -/
theorem ofRow_of_alike (e : Engine) : Column.ofRow e row' = Column.ofRow e row := by
  cases e with
  | redshift => exact redshiftColumn_of_alike h
  | snowflake => exact snowflakeColumn_of_alike h
  | teradata => exact teradataColumn_of_alike h

end

/-- Fields may come in any order and under names in any letter case. -/
theorem ofRow_of_restates {e : Engine} {row row' : Record} (hdistinct : row.Distinct)
    (h : row'.Restates row) : Column.ofRow e row' = Column.ofRow e row :=
  ofRow_of_alike (h.findAnyCase?_eq hdistinct) e

/-- A row for a decimal column, with a field that is not read. -/
def priceRow : Record :=
  [("ColumnName", .text " price "), ("ColumnType", .text "D "), ("DecimalTotalDigits", .text " 010"),
   ("DecimalFractionalDigits", .int 2), ("Nullable", .text "N"), ("Kind", .null)]

/-- The same row backwards, its names in other letters: the last one begins with the sign for kelvin. -/
def restatedPriceRow : Record :=
  [("\u212aind", .null), ("NULLABLE", .text "N"), ("decimalfractionaldigits", .int 2),
   ("DECIMALTOTALDIGITS", .text " 010"), ("columntype", .text "D "), ("columnName", .text " price ")]

def priceColumn : Column := ⟨"price", ⟨.teradata, "DECIMAL", some "10,2", false, none, none⟩, by decide⟩

theorem ofRow_restatedPriceRow : priceRow.Distinct ∧ restatedPriceRow.Restates priceRow ∧
    Column.ofRow .teradata restatedPriceRow = .ok priceColumn := by
  have hdistinct : priceRow.Distinct := by
    unfold Record.Distinct
    decide +kernel
  have hrestates : restatedPriceRow.Restates priceRow := by
    refine ⟨priceRow.reverse, List.reverse_perm priceRow, ?_⟩
    exact .cons ⟨by decide +kernel, rfl⟩ <| .cons ⟨by decide +kernel, rfl⟩ <|
      .cons ⟨by decide +kernel, rfl⟩ <| .cons ⟨by decide +kernel, rfl⟩ <|
      .cons ⟨by decide +kernel, rfl⟩ <| .cons ⟨by decide +kernel, rfl⟩ .nil
  have hprice : Column.ofRow .teradata priceRow = .ok priceColumn :=
    eq_ok_of_toOption (by decide +kernel)
  refine ⟨hdistinct, hrestates, ?_⟩
  rw [ofRow_of_restates hdistinct hrestates]
  exact hprice

end Catalog

end WarehouseSchema
