import WarehouseSchema.Proofs.Csv.Names
import WarehouseSchema.Proofs.Inference.Column

/-!
The columns of a text of comma-separated values. They bear the names of the header, told apart where these
repeat, in their order. Main statement: for every text of which there is a sample its columns are made, unless
something ends the inference of one of them, which stops them all.
-/

namespace WarehouseSchema

open Text Csv

namespace Csv

theorem exists_header_of_readSample {rows : Int} {text : String} {sample : List SampleColumn}
    (h : readSample rows text = .ok sample) :
    ∃ header records count, sample = columnsOf header records count := by
  unfold readSample at h
  obtain ⟨front, _, h⟩ := bind_eq_ok_iff.mp h
  cases front with
  | nil => exact absurd h throw_ne_ok
  | cons header _ =>
    dsimp only at h
    split at h
    · exact absurd h throw_ne_ok
    · obtain ⟨records, _, h⟩ := bind_eq_ok_iff.mp h
      exact ⟨header, records.drop 1, rows.toNat, (pure_eq_ok_iff.mp h).symm⟩

theorem names_columnsOf (header : List String) (records : List (List String)) (count : Nat) :
    (columnsOf header records count).map SampleColumn.name = columnNames header := by
  unfold columnsOf
  rw [List.map_map]
  exact List.zipIdx_map_fst 0 _

/-- The columns of a sample have distinct names, none of which is empty. -/
theorem readSample_names {rows : Int} {text : String} {sample : List SampleColumn}
    (h : readSample rows text = .ok sample) :
    (sample.map SampleColumn.name).Nodup ∧ ∀ c ∈ sample, c.name ≠ "" := by
  obtain ⟨header, records, count, rfl⟩ := exists_header_of_readSample h
  obtain ⟨hnodup, hne, _⟩ := columnNames_distinct header
  rw [← names_columnsOf header records count] at hnodup hne
  exact ⟨hnodup, fun c hc => hne _ (List.mem_map_of_mem hc)⟩

end Csv

namespace Column

theorem name_of_generic {e : Engine} {name : String} {column : Column}
    (h : generic e (.text name) = .ok column) : column.name = name := by
  obtain ⟨_, _, hmake⟩ := bind_eq_ok_iff.mp h
  exact (Value.text.inj (make_eq_ok_iff.mp hmake).1).symm

theorem exists_generic (e : Engine) {name : String} (hname : name ≠ "") :
    ∃ column, generic e (.text name) = .ok column := by
  have hdefinition : ∃ d, Definition.make e (.text (e.typeOf .string))
      [("length", Definition.optionValue e.genericLength?), ("nullable", .bool false)] = .ok d ∧
        d.engine = e := by
    cases e <;> exact ⟨_, rfl, rfl⟩
  obtain ⟨d, hd, hengine⟩ := hdefinition
  refine ⟨⟨name, d, hname⟩, ?_⟩
  rw [generic, hd, ok_bind]
  exact make_eq_ok_iff.mpr ⟨rfl, rfl, hengine⟩

end Column

namespace Columns

variable {probe : DateProbe} {e : Engine} {sample : List SampleColumn}

/-- Columns that are each made under the item's name are put together when the names differ. -/
theorem exists_ofList_mapM {make : SampleColumn → Except Fault Column}
    (hnodup : (sample.map SampleColumn.name).Nodup) (hmake : ∀ c ∈ sample, ∃ column, make c = .ok column)
    (hname : ∀ c column, make c = .ok column → column.name = c.name) :
    ∃ columns, (sample.mapM make >>= ofList) = .ok columns ∧ sample.mapM make = .ok columns.toList ∧
      columns.names = sample.map SampleColumn.name := by
  obtain ⟨made, hmade⟩ := exists_mapM_eq_ok hmake
  have hnames : made.map Column.name = sample.map SampleColumn.name := by
    rw [← List.forall₂_eq_eq_eq, List.forall₂_map_left_iff, List.forall₂_map_right_iff]
    exact (mapM_eq_ok_iff.mp hmade).flip.imp fun column c hc => hname c column hc
  refine ⟨⟨made, hnames ▸ hnodup⟩, ?_, hmade, hnames⟩
  rw [hmade, ok_bind]
  exact ofList_eq_ok_iff.mpr rfl

/-- The columns that values ask for are those of the sample, in order. -/
theorem exists_ofSample (hnodup : (sample.map SampleColumn.name).Nodup)
    (hne : ∀ c ∈ sample, c.name ≠ "") (hends : ∀ c ∈ sample, ∀ fault, ¬ c.Ends probe fault) :
    ∃ columns, ofSample probe e false sample = .ok columns ∧
      sample.mapM (Column.ofSample probe e) = .ok columns.toList ∧
      columns.names = sample.map SampleColumn.name := by
  refine exists_ofList_mapM hnodup (fun c hc => ?_) fun c column hcolumn => ?_
  · exact Column.exists_ofSample e (hne c hc) (hends c hc)
  · obtain ⟨_, _, hname, _⟩ := Column.ofSample_eq_ok_iff.mp hcolumn
    exact hname

/-- The first column whose inference ends has no columns made at all. -/
theorem ofSample_eq_error_iff (hnodup : (sample.map SampleColumn.name).Nodup)
    (hne : ∀ c ∈ sample, c.name ≠ "") {fault : Fault} :
    ofSample probe e false sample = .error fault ↔ ∃ before c after, sample = before ++ c :: after ∧
      (∀ earlier ∈ before, ∀ fault, ¬ earlier.Ends probe fault) ∧ c.Ends probe fault := by
  have hmade : ofSample probe e false sample = .error fault ↔
      sample.mapM (Column.ofSample probe e) = .error fault := by
    cases hmap : sample.mapM (Column.ofSample probe e) with
    | ok made =>
      have hends : ∀ c ∈ sample, ∀ fault, ¬ c.Ends probe fault := by
        intro c hc fault hfault
        obtain ⟨column, hcolumn⟩ := exists_of_mapM hmap hc
        rw [(Column.ofSample_eq_error_iff e (hne c hc)).mpr hfault] at hcolumn
        cases hcolumn
      obtain ⟨columns, hcolumns, _⟩ := exists_ofSample (e := e) hnodup hne hends
      rw [hcolumns]
      simp
    | error fault' =>
      have hstops : ofSample probe e false sample = .error fault' := by
        show (sample.mapM (Column.ofSample probe e) >>= ofList) = _
        rw [hmap]
        rfl
      rw [hstops, Except.error.injEq, Except.error.injEq]
  rw [hmade, mapM_eq_error_iff]
  constructor
  · rintro ⟨before, c, after, rfl, hbefore, hc⟩
    refine ⟨before, c, after, rfl, fun earlier hearlier fault' hends => ?_, ?_⟩
    · obtain ⟨column, hcolumn⟩ := hbefore earlier hearlier
      rw [(Column.ofSample_eq_error_iff e (hne earlier (by simp [hearlier]))).mpr hends] at hcolumn
      cases hcolumn
    · exact (Column.ofSample_eq_error_iff e (hne c (by simp))).mp hc
  · rintro ⟨before, c, after, rfl, hbefore, hc⟩
    refine ⟨before, c, after, rfl, fun earlier hearlier => ?_, ?_⟩
    · exact Column.exists_ofSample e (hne earlier (by simp [hearlier])) (hbefore earlier hearlier)
    · exact (Column.ofSample_eq_error_iff e (hne c (by simp))).mpr hc

theorem exists_generic (hnodup : (sample.map SampleColumn.name).Nodup)
    (hne : ∀ c ∈ sample, c.name ≠ "") :
    ∃ columns, ofSample probe e true sample = .ok columns ∧
      columns.names = sample.map SampleColumn.name := by
  obtain ⟨columns, hcolumns, _, hnames⟩ := exists_ofList_mapM hnodup
    (fun c hc => Column.exists_generic e (hne c hc)) fun c column => Column.name_of_generic
  exact ⟨columns, hcolumns, hnames⟩

theorem ofCsvBy_eq {rows : Int} {text : String} (h : readSample rows text = .ok sample)
    (isGeneric : Bool) : ofCsvBy probe e rows isGeneric text = ofSample probe e isGeneric sample := by
  unfold ofCsvBy
  rw [h]

/-- However texts are taken for moments, the columns of a text bear the names of its sample, in order. They are
made of its values unless something ends the inference of one of them, and then there is the fault of the first
such column. -/
theorem ofCsv_names (probe : DateProbe) (e : Engine) {rows : Int} {text : String}
    {sample : List SampleColumn} (h : readSample rows text = .ok sample) :
    ((sample.map SampleColumn.name).Nodup ∧ ∀ c ∈ sample, c.name ≠ "") ∧
      (∃ columns, ofCsvBy probe e rows true text = .ok columns ∧
        columns.names = sample.map SampleColumn.name) ∧
      ((∀ c ∈ sample, ∀ fault, ¬ c.Ends probe fault) →
        ∃ columns, ofCsvBy probe e rows false text = .ok columns ∧
          columns.names = sample.map SampleColumn.name) ∧
      ∀ fault, ofCsvBy probe e rows false text = .error fault ↔
        ∃ before c after, sample = before ++ c :: after ∧
          (∀ earlier ∈ before, ∀ fault, ¬ earlier.Ends probe fault) ∧ c.Ends probe fault := by
  obtain ⟨hnodup, hne⟩ := readSample_names h
  rw [ofCsvBy_eq h, ofCsvBy_eq h]
  refine ⟨⟨hnodup, hne⟩, exists_generic hnodup hne, fun hends => ?_, fun fault =>
    ofSample_eq_error_iff hnodup hne⟩
  obtain ⟨columns, hcolumns, _, hnames⟩ := exists_ofSample hnodup hne hends
  exact ⟨columns, hcolumns, hnames⟩

/-- Two rows under a repeated and a missing name: huge and tiny numbers, no values, truth values and integers
beyond the signed ones. -/
def extremes : String := "a,a,,b\n1e300,,true,9223372036854775808\n-1e-300,,False,0\n"

def extremeSample : List SampleColumn :=
  [⟨"a", [some "1e300", some "-1e-300"]⟩, ⟨"a.1", [none, none]⟩,
   ⟨"Unnamed: 2", [some "true", some "False"]⟩, ⟨"b", [some "9223372036854775808", some "0"]⟩]

theorem ofCsv_names_extremes : readSample 1000 extremes = .ok extremeSample ∧
    (∀ c ∈ extremeSample, ∀ fault, ¬ c.Ends calendarProbe fault) ∧
    ∃ columns, ofCsv .teradata 1000 false extremes = .ok columns ∧
      columns.names = ["a", "a.1", "Unnamed: 2", "b"] := by
  have hsample : readSample 1000 extremes = .ok extremeSample := rfl
  have hwords : ∀ c ∈ extremeSample, ∀ s ∈ c.present, ¬ NamesInfinity s := by decide
  have hkinds : ∀ c ∈ extremeSample, (c.kind matches .texts _) = false := by decide +kernel
  have hends : ∀ c ∈ extremeSample, ∀ fault, ¬ c.Ends calendarProbe fault := by
    intro c hc fault hfault
    cases hfault with
    | infinity hholds =>
      obtain ⟨_, s, hs, hinfinity⟩ := hholds
      exact hwords c hc s hs hinfinity
    | broken hkind _ _ => exact absurd (hkinds c hc) (by simp [hkind])
  exact ⟨hsample, hends, (ofCsv_names calendarProbe .teradata hsample).2.2.1 hends⟩

theorem ofCsv_infinity : readSample 1000 "x\ninf\n" = .ok [⟨"x", [some "inf"]⟩] ∧
    ofCsv .redshift 1000 false "x\ninf\n" = .error (.csv .infiniteToInteger) := by
  exact ⟨rfl, rfl⟩

end Columns

end WarehouseSchema
