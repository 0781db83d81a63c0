import WarehouseSchema.Proofs.Inference.Frame

/-!
What the columns of a text say of the values below them. Main statements: a column is a boolean one exactly when
the first of its values all read as truth values, and a column of texts has room for all of them that its type
could hold, and no more than they need. A value behind the first ones may be no truth value.
-/

namespace WarehouseSchema

open Text Number Csv

theorem Engine.typeOf_eq_boolean_iff {e : Engine} {b : Basetype} :
    e.typeOf b = e.typeOf .boolean ↔ b = .boolean := by
  cases e <;> cases b <;> decide

theorem Csv.SampleColumn.hasMissing_iff {c : SampleColumn} : c.hasMissing = true ↔ none ∈ c.cells := by
  simp [hasMissing]

/-- No value is left unread when few are present or they are kept as truth values. -/
theorem Csv.SampleColumn.all_readsTruth {c : SampleColumn}
    (h : ∀ s ∈ c.present.take truthSampleSize, ReadsTruth s)
    (hread : c.present.length ≤ truthSampleSize ∨ c.kind = .truths) : ∀ s ∈ c.present, ReadsTruth s := by
  rcases hread with hfew | hkind
  · rwa [List.take_of_length_le hfew] at h
  · have hwords := c.ofKind_kind
    rw [hkind] at hwords
    cases hwords with
    | truths hwords => exact fun s hs => readsTruth_of_mem_truthWords s (hwords s hs)

/-- What the type of a column says of the values below it. It is the boolean one exactly when values are
present of which the first twenty read as truth values; all of them do when there are no more, or when they are
kept as truth values. -/
structure Column.TellsTruth (e : Engine) (c : SampleColumn) (column : Column) : Prop where
  name_eq : column.name = c.name
  boolean_iff : column.definition.type = e.typeOf .boolean ↔
    c.present ≠ [] ∧ ∀ s ∈ c.present.take 20, ReadsTruth s
  all_read : column.definition.type = e.typeOf .boolean →
    c.present.length ≤ 20 ∨ c.kind = .truths → ∀ s ∈ c.present, ReadsTruth s

namespace Columns

variable {probe : DateProbe} {e : Engine} {rows : Int} {text : String} {sample : List SampleColumn}
  {columns : Columns}

/-- The columns of a text are those that are made of its sample. -/
theorem forall₂_of_ofCsvBy (hsample : readSample rows text = .ok sample)
    (h : ofCsvBy probe e rows false text = .ok columns) :
    List.Forall₂ (fun c column => Column.ofSample probe e c = .ok column) sample columns.toList := by
  rw [ofCsvBy_eq hsample] at h
  obtain ⟨made, hmade, hlist⟩ := bind_eq_ok_iff.mp h
  rw [ofList_eq_ok_iff.mp hlist]
  exact mapM_eq_ok_iff.mp hmade

/-- The columns of a text are of the boolean type as the first values below them tell. -/
theorem ofCsv_tellsTruth (hsample : readSample rows text = .ok sample)
    (h : ofCsv e rows false text = .ok columns) :
    List.Forall₂ (Column.TellsTruth e) sample columns.toList := by
  refine (forall₂_of_ofCsvBy hsample h).imp fun c column hcolumn => ?_
  obtain ⟨b, hb, hname, hdefinition⟩ := Column.ofSample_eq_ok_iff.mp hcolumn
  have htype : column.definition.type = e.typeOf .boolean ↔
      c.present ≠ [] ∧ ∀ s ∈ c.present.take truthSampleSize, ReadsTruth s := by
    rw [← SampleColumn.basetype_eq_boolean_iff, hb, Except.ok.injEq, hdefinition]
    exact Engine.typeOf_eq_boolean_iff
  exact ⟨hname, htype, fun hboolean => SampleColumn.all_readsTruth (htype.mp hboolean).2⟩

/-- Truth values in mixed letter case, one of them missing. -/
def flags : String := "id,flag\n1,TrUe\n2,\n3,false\n"

def flagSample : List SampleColumn :=
  [⟨"id", [some "1", some "2", some "3"]⟩, ⟨"flag", [some "TrUe", none, some "false"]⟩]

theorem ofCsv_flags : ∃ columns, readSample 1000 flags = .ok flagSample ∧
    ofCsv .teradata 1000 false flags = .ok columns ∧
    columns.toList.map (·.definition.type) = ["BIGINT", "BYTEINT"] ∧
    List.Forall₂ (Column.TellsTruth .teradata) flagSample columns.toList := by
  have hcolumns : ofCsv .teradata 1000 false flags = .ok
      ⟨[⟨"id", ⟨.teradata, "BIGINT", none, false, none, none⟩, by decide⟩,
        ⟨"flag", ⟨.teradata, "BYTEINT", none, true, none, none⟩, by decide⟩], by decide⟩ := rfl
  exact ⟨_, rfl, hcolumns, rfl, ofCsv_tellsTruth rfl hcolumns⟩

/-- Twenty truth values with another text behind them. -/
def hastyFlags : String :=
  "c\ntrue\ntrue\ntrue\ntrue\ntrue\ntrue\ntrue\ntrue\ntrue\ntrue\n" ++
    "true\ntrue\ntrue\ntrue\ntrue\ntrue\ntrue\ntrue\ntrue\ntrue\nmaybe\n"

set_option maxRecDepth 4000 in
/-- Behind the first twenty, a value of a boolean column may be no truth value. -/
theorem ofCsv_hastyFlags : ∃ c columns, readSample 1000 hastyFlags = .ok [c] ∧
    ofCsv .redshift 1000 false hastyFlags = .ok columns ∧
    columns.toList.map (·.definition.type) = [Engine.redshift.typeOf .boolean] ∧
    "maybe" ∈ c.present ∧ ¬ ReadsTruth "maybe" := by
  let c : SampleColumn := ⟨"c", List.replicate 20 (some "true") ++ [some "maybe"]⟩
  have hsample : readSample 1000 hastyFlags = .ok [c] := rfl
  have hcolumns : ofCsv .redshift 1000 false hastyFlags = .ok
      ⟨[⟨"c", ⟨.redshift, "BOOLEAN", none, false, none, none⟩, by decide⟩], by decide⟩ := rfl
  exact ⟨c, _, hsample, hcolumns, rfl, by decide, by decide⟩

/-- A column of texts is made with a length that its type takes and that fits the texts, however these are told
from moments. It allows nulls when a value is missing, and is among the columns of the text. -/
theorem ofCsv_texts_fit (probe : DateProbe) (e : Engine) {c : SampleColumn}
    (hsample : readSample rows text = .ok sample) (hc : c ∈ sample)
    (htexts : c.basetype probe = .ok .string) (hpresent : c.present ≠ []) :
    ∃ (column : Column) (lo hi n : Nat), Column.ofSample probe e c = .ok column ∧
      column.name = c.name ∧
      column.definition.type = e.typeOf .string ∧
      e.documentedRule (e.typeOf .string) = .integer lo hi ∧
      column.definition.length = some (natText n) ∧ e.FitsTexts c.present lo hi n ∧
      (column.definition.nullable = true ↔ none ∈ c.cells) ∧
      ∀ columns, ofCsvBy probe e rows false text = .ok columns → column ∈ columns.toList := by
  obtain ⟨lo, hi, hrule, hle, _⟩ := e.exists_textBounds
  obtain ⟨n, hn, hfits⟩ := e.exists_lengthFor hpresent hrule hle
  have hlength : e.inferredLength .string c.present = some (natText n) := by
    rw [Engine.inferredLength, hn]
    simp only [decide_true, Bool.true_and, decide_eq_true_eq]
    exact if_pos hpresent
  let column : Column := ⟨c.name, Column.definitionFor e .string c, (readSample_names hsample).2 c hc⟩
  have hcolumn : Column.ofSample probe e c = .ok column :=
    Column.ofSample_eq_ok_iff.mpr ⟨.string, htexts, rfl, rfl⟩
  refine ⟨column, lo, hi, n, hcolumn, rfl, rfl, ?_, hlength, hfits, SampleColumn.hasMissing_iff, ?_⟩
  · rw [← lengthRule_eq_documentedRule (e.typeOf_mem_types .string), hrule]
  · intro columns h
    have hmade := mapM_eq_ok_iff.mpr (forall₂_of_ofCsvBy hsample h)
    exact mem_of_mapM hmade hc hcolumn

/-- Texts with letters of several octets, and a missing one. -/
def cities : String := "id,city\n1,héllo\n2,\n3,abc\n"

def cityNames : SampleColumn := ⟨"city", [some "héllo", none, some "abc"]⟩

def cityColumn : Column :=
  ⟨"city", ⟨.redshift, "VARCHAR", some "6", true, none, none⟩, by decide⟩

theorem ofCsv_cities :
    readSample 1000 cities = .ok [⟨"id", [some "1", some "2", some "3"]⟩, cityNames] ∧
      cityNames.basetype calendarProbe = .ok .string ∧
      Column.ofSample calendarProbe .redshift cityNames = .ok cityColumn ∧
      Engine.redshift.FitsTexts ["héllo", "abc"] 1 65535 6 ∧ "héllo".utf8ByteSize = 6 := by
  have hsample : readSample 1000 cities =
    .ok [⟨"id", [some "1", some "2", some "3"]⟩, cityNames] := rfl
  have htexts : cityNames.basetype calendarProbe = .ok .string := by
    have hkind : cityNames.kind = .texts ["héllo", "abc"] := rfl
    have hread : Calendar.readMoments ["héllo", "abc"] = .error .refused := by decide +kernel
    rw [SampleColumn.basetype, if_neg (by decide), hkind]
    dsimp only [basetypeOfTexts, calendarProbe]
    rw [if_neg (by decide), hread]
  obtain ⟨column, lo, hi, n, hcolumn, _, _, hrule, hlength, hfits, _⟩ :=
    ofCsv_texts_fit calendarProbe .redshift hsample (by simp) htexts (by decide)
  have hcity : Column.ofSample calendarProbe .redshift cityNames = .ok cityColumn := by
    rw [Column.ofSample_eq htexts]
    rfl
  obtain rfl : column = cityColumn := Except.ok.inj (hcolumn.symm.trans hcity)
  obtain ⟨rfl, rfl⟩ : lo = 1 ∧ hi = 65535 := by
    have hdocumented : Engine.redshift.documentedRule "VARCHAR" = .integer 1 65535 := by decide
    have hbounds := hrule.symm.trans hdocumented
    simp only [LengthRule.integer.injEq] at hbounds
    omega
  obtain rfl : 6 = n := natText_injective (Option.some.inj hlength)
  exact ⟨hsample, htexts, hcity, hfits, by decide⟩

end Columns

end WarehouseSchema
