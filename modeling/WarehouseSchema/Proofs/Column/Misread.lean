import WarehouseSchema.Proofs.Column.Described

/-!
The faults of decoding a row. A row of nulls, truth values, numbers and texts is decoded into a column or
refused with a definition fault, but for three kinds of rows: an infinite number where an integer is read,
an encoding that is no text, and an integer that is too long to be written. Main statement: each of them
has a fault of its own, and there is no other.
-/

namespace WarehouseSchema.Catalog

open Text Number

section
variable (row : Record)

/-- An infinite number stands where an integer is read. -/
inductive InfiniteField : Engine → Prop
  | mk {code type field : String} {source : LengthSource} (hcode : HasCode row code type source)
      (hfield : Consults row source field) (h : Infinite row field) : InfiniteField .teradata

/-- The encoding is no text, and not empty either; type and length are read before it. -/
inductive OddEncoding : Engine → Prop
  | mk {type length : Value} (htype : ShownType row type)
      (hlength : redshiftLength type row = .ok length)
      (htruthy : (trimmedField row "encoding").isTruthy = true)
      (hnot : ∀ s, trimmedField row "encoding" ≠ .text s) : OddEncoding .redshift

/-- On the way to a column, an integer that is too long has to be written: as a type, as a part of the
length, in the definition, or to show a name that is no text. -/
inductive Overlong : Engine → Prop
  | dataType (h : ¬ (row.getAnyCase "data_type" .null).Writable) : Overlong .redshift
  | precision {type : Value} (htype : ShownType row type) (hgives : GivesPrecision row type)
      (h : ¬ (row.getAnyCase "numeric_precision" .null).Writable) : Overlong .redshift
  | scale {type : Value} (htype : ShownType row type) (hgives : GivesPrecision row type)
      (hprecision : (row.getAnyCase "numeric_precision" .null).Writable)
      (h : ¬ (row.getAnyCase "numeric_scale" .null).Writable) : Overlong .redshift
  | characters {type : Value} (htype : ShownType row type) (hgives : ¬ GivesPrecision row type)
      (h : ¬ (row.getAnyCase "character_maximum_length" .null).Writable) : Overlong .redshift
  | described (h : ¬ (row.getAnyCase "type" .null).Writable) : Overlong .snowflake
  | code (h : ¬ (trimmedField row "ColumnType").Writable) : Overlong .teradata
  | totalDigits {code type : String} {n : Int} (hcode : HasCode row code type .digits)
      (htotal : Holds row "DecimalTotalDigits" n) (hn : 0 ≤ n) (h : ¬ (Value.int n).Writable) :
      Overlong .teradata
  | fractionalDigits {code type : String} {n m : Int} (hcode : HasCode row code type .digits)
      (htotal : Holds row "DecimalTotalDigits" n) (hn : 0 ≤ n) (hwritable : (Value.int n).Writable)
      (hscale : Holds row "DecimalFractionalDigits" m) (h : ¬ (Value.int m).Writable) :
      Overlong .teradata
  | definition {e : Engine} {type : Value} {options : Record} (hrow : Describes row e type options)
      (h : Definition.Obstructed e type options .long) : Overlong e
  | name {e : Engine} {type : Value} {options : Record} {d : Definition}
      (hrow : Describes row e type options) (hmake : Definition.make e type options = .ok d)
      (h : ¬ (nameValue row e).Writable) : Overlong e

end

variable {row : Record}

theorem exists_ofText_display {v : Value} (h : v.Writable) :
    ∃ s, Fault.ofText v.display = .ok s := by
  obtain ⟨s, hs⟩ := Value.exists_display_iff.mpr h
  exact ⟨s, Fault.ofText_eq_ok_iff.mpr hs⟩

theorem stopsAt_display {v : Value} (hv : v.Scalar) (h : ¬ v.Writable) :
    StopsAt .long (Fault.ofText v.display) :=
  Value.stopsAt_display (hv.obstacle?_eq_long h)

theorem obstacleOf_displayed {v : Value} {before after : String} :
    obstacleOf (do return before ++ (← v.display) ++ after) = v.obstacle? := by
  rw [obstacleOf_bind_pure, Value.obstacleOf_display]

theorem exists_scaleText {v : Value} (h : v.Writable) :
    ∃ s, Fault.ofText (scaleText v) = .ok s := by
  unfold scaleText
  split
  · exact exists_ofText_display h
  · exact ⟨"0", rfl⟩

theorem stopsAt_scaleText {v : Value} (hv : v.Scalar) (h : ¬ v.Writable) :
    StopsAt .long (Fault.ofText (scaleText v)) := by
  obtain ⟨n, rfl⟩ := hv.eq_int h
  unfold scaleText
  rw [if_pos (Value.int_isTruthy h)]
  exact stopsAt_display hv h

theorem stopsAt_columnMake {e : Engine} {name : Value} {d : Definition} (hname : name.Scalar)
    (h : ¬ name.Writable) : StopsAt .long (Column.make e name d) := by
  unfold Column.make
  split
  · exact absurd (Value.obstacle?_text _) h
  · exact DefinitionFault.stopsAt_raise
      (Definition.obstacleOf_shown.trans (hname.obstacle?_eq_long h))

theorem scalar_nameValue (hscalar : ScalarRow row) (e : Engine) : (nameValue row e).Scalar := by
  cases e with
  | redshift => exact hscalar.getAnyCase "column_name" trivial
  | snowflake => exact hscalar.getAnyCase "name" trivial
  | teradata => exact scalar_trimmedField hscalar "ColumnName"

/-- The length is read, or it is too long. -/
theorem exists_redshiftLength {type : Value} (htype : ShownType row type)
    (h : ¬ Overlong row .redshift) : ∃ length, redshiftLength type row = .ok length := by
  by_cases hgives : GivesPrecision row type
  · have hprecision : (row.getAnyCase "numeric_precision" .null).Writable := by
      by_contra hlong
      exact h (.precision htype hgives hlong)
    have hscale : (row.getAnyCase "numeric_scale" .null).Writable := by
      by_contra hlong
      exact h (.scale htype hgives hprecision hlong)
    obtain ⟨p, hp⟩ := exists_ofText_display hprecision
    obtain ⟨s, hs⟩ := exists_scaleText hscale
    refine ⟨.text (p ++ "," ++ s), ?_⟩
    rw [redshiftLength_of_precision hgives, hp, ok_bind, hs, ok_bind]
    rfl
  · have hcharacters : (row.getAnyCase "character_maximum_length" .null).Writable := by
      by_contra hlong
      exact h (.characters htype hgives hlong)
    rw [redshiftLength_of_characters hgives]
    obtain ⟨s, hs⟩ := exists_ofText_display hcharacters
    split
    · exact ⟨_, rfl⟩
    · rw [hs]
      exact ⟨_, rfl⟩

theorem exists_shownType (h : ¬ Overlong row .redshift) : ∃ type, ShownType row type := by
  have hwritable : (row.getAnyCase "data_type" .null).Writable := by
    by_contra hlong
    exact h (.dataType hlong)
  obtain ⟨s, hs⟩ := Value.exists_display_iff.mpr hwritable
  by_cases hnull : row.getAnyCase "data_type" .null = .null
  · exact ⟨_, .absent hnull⟩
  · exact ⟨_, .shown hnull hs⟩

theorem exists_describes_redshift (hodd : ¬ OddEncoding row .redshift)
    (hlong : ¬ Overlong row .redshift) : ∃ type options, Describes row .redshift type options := by
  obtain ⟨type, htype⟩ := exists_shownType hlong
  obtain ⟨length, hlength⟩ := exists_redshiftLength htype hlong
  obtain ⟨compression, hcompression⟩ : ∃ compression, redshiftEncoding row = .ok compression := by
    refine exists_redshiftEncoding fun htruthy => ?_
    by_contra hnone
    exact hodd (.mk htype hlength htruthy fun s hs => hnone ⟨s, hs⟩)
  exact ⟨_, _, .redshift htype hlength hcompression⟩

theorem definite_teradataLength {code type : String} {source : LengthSource}
    (hscalar : ScalarRow row) (hcode : HasCode row code type source)
    (hinfinite : ¬ InfiniteField row .teradata) (hlong : ¬ Overlong row .teradata) :
    Definite (teradataLength code source row) := by
  have hfield : ∀ field, Consults row source field → Definite (integer row field) := fun field hf =>
    definite_integer hscalar fun h => hinfinite (.mk hcode hf h)
  cases source with
  | nothing => exact .ok Value.null
  | octets => exact (hfield _ .octetsLength).bind fun _ _ => .ok _
  | fraction => exact (hfield _ .fractionDigits).bind fun _ _ => .ok _
  | characters =>
    refine (hfield _ .charactersLength).bind fun length hlength => ?_
    cases length with
    | none => exact DefinitionFault.definite_raise rfl
    | some n =>
      exact (hfield _ (.charactersKind (holds_of_integer hlength))).bind fun _ _ => .ok _
  | digits =>
    refine (hfield _ .totalDigits).bind fun total htotal => ?_
    cases total with
    | none => exact .ok Value.null
    | some n =>
      have hn := holds_of_integer htotal
      dsimp only
      split
      · exact .ok Value.null
      · rename_i hsign
        have hpos : 0 ≤ n := by omega
        have hwritable : (Value.int n).Writable := by
          by_contra hlong'
          exact hlong (.totalDigits hcode hn hpos hlong')
        rw [writeInt_of_writable hwritable, ok_bind]
        refine (hfield _ (.scale hn hpos hwritable)).bind fun scale hscale => ?_
        have hshort : (Value.int (scale.getD 0)).Writable := by
          cases scale with
          | none => exact Value.writable_int_iff.mpr (by decide)
          | some m =>
            by_contra hlong'
            exact hlong (.fractionalDigits hcode hn hpos hwritable (holds_of_integer hscale) hlong')
        rw [writeInt_of_writable hshort, ok_bind]
        exact .ok _

theorem ofRow_of_infiniteField {e : Engine} (h : InfiniteField row e) :
    Column.ofRow e row = .error .infiniteInteger := by
  obtain ⟨hcode, hfield, hinfinite⟩ := h
  rw [Column.ofRow, teradataColumn_of_code hcode,
    teradataLength_of_error hfield (integer_of_infinite hinfinite)]
  rfl

theorem ofRow_of_oddEncoding {e : Engine} (hscalar : ScalarRow row) (h : OddEncoding row e) :
    Column.ofRow e row = .error .wrongAttribute := by
  obtain ⟨htype, hlength, htruthy, hnot⟩ := h
  have hv := scalar_trimmedField hscalar "encoding"
  have hbytes : ∀ bytes, trimmedField row "encoding" ≠ .octets bytes := fun bytes hbytes => by
    rw [hbytes] at hv
    exact hv
  rw [Column.ofRow, redshiftColumn_of_type htype, hlength, ok_bind,
    redshiftEncoding_of_odd htruthy hnot hbytes]
  rfl

theorem stopsAt_ofRow {e : Engine} (hscalar : ScalarRow row) (h : Overlong row e) :
    StopsAt .long (Column.ofRow e row) := by
  have hfield : ∀ field, (row.getAnyCase field .null).Scalar := fun field =>
    hscalar.getAnyCase field trivial
  cases h with
  | dataType hlong =>
    obtain ⟨n, hn⟩ := (hfield "data_type").eq_int hlong
    rw [Column.ofRow]
    unfold redshiftColumn
    split
    · rename_i hnull
      rw [hnull] at hn
      cases hn
    · exact (stopsAt_display (hfield _) hlong).bind _
  | precision htype hgives hlong =>
    rw [Column.ofRow, redshiftColumn_of_type htype, redshiftLength_of_precision hgives]
    exact ((stopsAt_display (hfield _) hlong).bind _).bind _
  | scale htype hgives hprecision hlong =>
    obtain ⟨p, hp⟩ := exists_ofText_display hprecision
    rw [Column.ofRow, redshiftColumn_of_type htype, redshiftLength_of_precision hgives, hp, ok_bind]
    exact ((stopsAt_scaleText (hfield _) hlong).bind _).bind _
  | characters htype hgives hlong =>
    obtain ⟨n, hn⟩ := (hfield "character_maximum_length").eq_int hlong
    rw [Column.ofRow, redshiftColumn_of_type htype, redshiftLength_of_characters hgives]
    refine StopsAt.bind ?_ _
    split
    · rename_i hnull
      rw [hnull] at hn
      cases hn
    · exact (stopsAt_display (hfield _) hlong).bind _
  | described hlong =>
    obtain ⟨n, hn⟩ := (hfield "type").eq_int hlong
    rw [Column.ofRow, snowflakeColumn_of_unread fun s t hs => by rw [hn] at hs; cases hs]
    exact DefinitionFault.stopsAt_raise
      (obstacleOf_displayed.trans ((hfield "type").obstacle?_eq_long hlong))
  | code hlong =>
    have hcode := scalar_trimmedField hscalar "ColumnType"
    obtain ⟨n, hn⟩ := hcode.eq_int hlong
    rw [Column.ofRow, teradataColumn_of_unknown hscalar fun code type source h => by
      have := h.code_eq; rw [hn] at this; cases this]
    exact DefinitionFault.stopsAt_raise
      (obstacleOf_displayed.trans (hcode.obstacle?_eq_long hlong))
  | totalDigits hcode htotal hn hlong =>
    rw [Column.ofRow, teradataColumn_of_code hcode, teradataLength_of_total htotal hn]
    exact ((stopsAt_writeInt hlong).bind _).bind _
  | fractionalDigits hcode htotal hn hwritable hscale hlong =>
    rw [Column.ofRow, teradataColumn_of_code hcode, teradataLength_of_total htotal hn,
      writeInt_of_writable hwritable, ok_bind, integer_of_holds hscale, ok_bind]
    exact ((stopsAt_writeInt hlong).bind _).bind _
  | definition hrow hlong =>
    rw [ofRow_of_describes hrow]
    exact (Definition.stopsAt_make hlong).bind _
  | name hrow hmake hlong =>
    rw [ofRow_of_describes hrow, hmake, ok_bind]
    exact stopsAt_columnMake (scalar_nameValue hscalar e) hlong

/-- Where none of the three kinds of misreading occurs, there is a column or a definition fault. -/
theorem definite_ofRow {e : Engine} (hscalar : ScalarRow row) (hinfinite : ¬ InfiniteField row e)
    (hodd : ¬ OddEncoding row e) (hlong : ¬ Overlong row e) : Definite (Column.ofRow e row) := by
  have hrest : ∀ type options, Describes row e type options → Definite (Column.ofRow e row) := by
    intro type options hrow
    rw [ofRow_of_describes hrow]
    have hobstacle : ∀ o, ¬ Definition.Obstructed e type options o := by
      intro o ho
      cases o with
      | long => exact hlong (.definition hrow ho)
      | deep => exact ScalarRow.not_deep (hrow.scalar hscalar).1 (hrow.scalar hscalar).2 ho
    refine (Definition.definite_make hobstacle).bind fun d hmake => ?_
    refine Column.definite_make ?_
    by_contra hname
    exact hlong (.name hrow hmake hname)
  cases e with
  | redshift =>
    obtain ⟨type, options, hrow⟩ := exists_describes_redshift hodd hlong
    exact hrest type options hrow
  | snowflake =>
    by_cases hread : ∃ s t, row.getAnyCase "type" .null = .text s ∧
        DescribedType.ofChars? s.toList = some t
    · obtain ⟨s, t, htext, ht⟩ := hread
      exact hrest _ _ (.snowflake htext ht)
    · have hwritable : (row.getAnyCase "type" .null).Writable := by
        by_contra h
        exact hlong (.described h)
      rw [Column.ofRow, snowflakeColumn_of_unread fun s t htext ht => hread ⟨s, t, htext, ht⟩]
      exact DefinitionFault.definite_raise (obstacleOf_displayed.trans hwritable)
  | teradata =>
    by_cases hknown : ∃ code type source, HasCode row code type source
    · obtain ⟨code, type, source, hcode⟩ := hknown
      rcases definite_teradataLength hscalar hcode hinfinite hlong with ⟨length, hlength⟩ | hfault
      · exact hrest _ _ (.teradata hcode hlength)
      · obtain ⟨fault, hfault⟩ := hfault
        rw [Column.ofRow, teradataColumn_of_code hcode, hfault]
        exact .inr ⟨fault, rfl⟩
    · have hwritable : (trimmedField row "ColumnType").Writable := by
        by_contra h
        exact hlong (.code h)
      rw [Column.ofRow, teradataColumn_of_unknown hscalar fun code type source h =>
        hknown ⟨code, type, source, h⟩]
      exact DefinitionFault.definite_raise (obstacleOf_displayed.trans hwritable)

/-- A fault that is none of a definition tells which kind of misreading it comes from. -/
theorem misread_of_error {e : Engine} {fault : Fault} (hscalar : ScalarRow row)
    (h : Column.ofRow e row = .error fault) (hnot : ∀ f, fault ≠ .definition f) :
    (InfiniteField row e ∧ fault = .infiniteInteger) ∨ (OddEncoding row e ∧ fault = .wrongAttribute) ∨
      (Overlong row e ∧ ∃ f, fault = .numeral f) := by
  by_cases hinfinite : InfiniteField row e
  · rw [ofRow_of_infiniteField hinfinite] at h
    exact .inl ⟨hinfinite, (Except.error.inj h).symm⟩
  by_cases hodd : OddEncoding row e
  · rw [ofRow_of_oddEncoding hscalar hodd] at h
    exact .inr (.inl ⟨hodd, (Except.error.inj h).symm⟩)
  by_cases hlong : Overlong row e
  · obtain ⟨f, hf⟩ := stopsAt_ofRow hscalar hlong
    rw [hf] at h
    exact .inr (.inr ⟨hlong, f, (Except.error.inj h).symm⟩)
  · rcases definite_ofRow hscalar hinfinite hodd hlong with ⟨c, hc⟩ | ⟨f, hf⟩
    · rw [hc] at h
      cases h
    · rw [hf] at h
      exact absurd (Except.error.inj h).symm (hnot f)

/-- A row is decoded into a column or refused with a definition fault, but for rows with an infinite number
where an integer is read, with an odd encoding, or with an integer that is too long to be written; each of
these three has its own fault. Every other value that is no integer, where Teradata's row is to hold one,
is a length fault, and so is a character column without a length. -/
theorem ofRow_definite_iff (e : Engine) (row : Record) (hscalar : ScalarRow row) :
    (((∃ c, Column.ofRow e row = .ok c) ∨
        ∃ fault, Column.ofRow e row = .error (.definition fault)) ↔
      ¬ InfiniteField row e ∧ ¬ OddEncoding row e ∧ ¬ Overlong row e) ∧
    (Column.ofRow e row = .error .infiniteInteger ↔ InfiniteField row e) ∧
    (Column.ofRow e row = .error .wrongAttribute ↔ OddEncoding row e) ∧
    ((∃ fault, Column.ofRow e row = .error (.numeral fault)) ↔ Overlong row e) ∧
    ∀ code type source, e = .teradata → HasCode row code type source →
      (∀ field, Consults row source field → Unreadable row field →
        Column.ofRow e row = .error (.definition (.catalogNotInteger field (trimmedField row field)))) ∧
      (source = .characters → Blank row "ColumnLength" →
        Column.ofRow e row = .error (.definition (.noColumnLength code))) := by
  have hnumeral : Overlong row e → StopsAt .long (Column.ofRow e row) := stopsAt_ofRow hscalar
  have hdefinite : Definite (Column.ofRow e row) ↔
      ¬ InfiniteField row e ∧ ¬ OddEncoding row e ∧ ¬ Overlong row e := by
    constructor
    · intro h
      refine ⟨fun hinfinite => ?_, fun hodd => ?_, fun hlong => (hnumeral hlong).not_definite h⟩
      · rw [ofRow_of_infiniteField hinfinite] at h
        rcases h with ⟨_, h⟩ | ⟨_, h⟩ <;> cases h
      · rw [ofRow_of_oddEncoding hscalar hodd] at h
        rcases h with ⟨_, h⟩ | ⟨_, h⟩ <;> cases h
    · rintro ⟨hinfinite, hodd, hlong⟩
      exact definite_ofRow hscalar hinfinite hodd hlong
  refine ⟨hdefinite, ⟨fun h => ?_, ofRow_of_infiniteField⟩, ⟨fun h => ?_, ofRow_of_oddEncoding hscalar⟩,
    ⟨?_, hnumeral⟩, ?_⟩
  · rcases misread_of_error hscalar h (by simp) with ⟨h, _⟩ | ⟨_, h⟩ | ⟨_, _, h⟩
    · exact h
    · cases h
    · cases h
  · rcases misread_of_error hscalar h (by simp) with ⟨_, h⟩ | ⟨h, _⟩ | ⟨_, _, h⟩
    · cases h
    · exact h
    · cases h
  · rintro ⟨fault, h⟩
    rcases misread_of_error hscalar h (by simp) with ⟨_, h⟩ | ⟨_, h⟩ | ⟨h, _⟩
    · cases h
    · cases h
    · exact h
  · rintro code type source rfl hcode
    constructor
    · intro field hfield hunread
      rw [Column.ofRow, teradataColumn_of_code hcode,
        teradataLength_of_error hfield (integer_of_unreadable hscalar hunread)]
      rfl
    · rintro rfl hblank
      rw [Column.ofRow, teradataColumn_of_code hcode, teradataLength, integer_of_blank hblank]
      rfl

/-- A row of Teradata's catalog with an infinite length. -/
def endlessRow : Record :=
  [("ColumnName", .text "c"), ("ColumnType", .text "CV"), ("ColumnLength", .float (.infinite false)),
   ("CharType", .int 1)]

theorem endlessRow_infiniteField : InfiniteField endlessRow .teradata :=
  have hcode : HasCode endlessRow "CV" "VARCHAR" .characters := ⟨rfl, rfl⟩
  .mk hcode .charactersLength ⟨false, rfl⟩

theorem scalarRow_endlessRow : ScalarRow endlessRow := by
  intro field hfield
  simp only [endlessRow, List.mem_cons, List.not_mem_nil, or_false] at hfield
  rcases hfield with rfl | rfl | rfl | rfl <;> trivial

theorem ofRow_endlessRow : ScalarRow endlessRow ∧
    Column.ofRow .teradata endlessRow = .error .infiniteInteger :=
  ⟨scalarRow_endlessRow, (ofRow_definite_iff .teradata endlessRow scalarRow_endlessRow).2.1.mpr
    endlessRow_infiniteField⟩

/-- An infinite length is not refused as a length. -/
theorem endlessRow_not_definite : ScalarRow endlessRow ∧
    ¬ ((∃ c, Column.ofRow .teradata endlessRow = .ok c) ∨
      ∃ fault, Column.ofRow .teradata endlessRow = .error (.definition fault)) := by
  refine ⟨scalarRow_endlessRow, ?_⟩
  rw [ofRow_of_infiniteField endlessRow_infiniteField]
  rintro (⟨_, h⟩ | ⟨_, h⟩) <;> cases h

end WarehouseSchema.Catalog
