import WarehouseSchema.Proofs.Column.Collection
import WarehouseSchema.Proofs.Column.Fields

/-!
What a row of a catalog describes. Main statement: a row that describes a type and options is decoded by
making the definition and the column; what keeps a row from describing anything is what stops its decoding.
-/

namespace WarehouseSchema.Catalog

open Text Number

section
variable (row : Record)

/-- The type that a row of Redshift's catalog shows, its letters in upper case. -/
inductive ShownType : Value → Prop
  | absent (h : row.getAnyCase "data_type" .null = .null) : ShownType .null
  | shown {s : String} (hne : row.getAnyCase "data_type" .null ≠ .null)
      (hs : (row.getAnyCase "data_type" .null).display = .ok s) :
      ShownType (.text (upper (squeeze s)))

/-- The length of the type is the precision and the scale that the row gives. -/
def GivesPrecision (type : Value) : Prop :=
  (type = .text "DECIMAL" ∨ type = .text "NUMERIC") ∧ row.getAnyCase "numeric_precision" .null ≠ .null

/-- The type code of a row of Teradata's catalog, with what the documented table says about it. -/
structure HasCode (code type : String) (source : LengthSource) : Prop where
  code_eq : trimmedField row "ColumnType" = .text code
  entry_eq : typeCodes.lookup code = some (type, source)

/-- The fields that are read as integers, in their order. -/
inductive Consults : LengthSource → String → Prop
  | charactersLength : Consults .characters "ColumnLength"
  | charactersKind {n : Int} (h : Holds row "ColumnLength" n) : Consults .characters "CharType"
  | octetsLength : Consults .octets "ColumnLength"
  | fractionDigits : Consults .fraction "DecimalFractionalDigits"
  | totalDigits : Consults .digits "DecimalTotalDigits"
  | scale {n : Int} (h : Holds row "DecimalTotalDigits" n) (hn : 0 ≤ n)
      (hwritable : (Value.int n).Writable) : Consults .digits "DecimalFractionalDigits"

/-- The type and the options of the definition that a row describes. -/
inductive Describes : Engine → Value → Record → Prop
  | redshift {type length compression : Value} (htype : ShownType row type)
      (hlength : redshiftLength type row = .ok length)
      (hcompression : redshiftEncoding row = .ok compression) :
      Describes .redshift type
        [("length", length), ("nullable", .bool (nullable row "is_nullable" "YES")),
         ("default", row.getAnyCase "column_default" .null), ("compression", compression)]
  | snowflake {s : String} {t : DescribedType} (htext : row.getAnyCase "type" .null = .text s)
      (ht : DescribedType.ofChars? s.toList = some t) :
      Describes .snowflake (.text (String.ofList t.name))
        [("length", Definition.optionValue (t.length.map String.ofList)),
         ("nullable", .bool ((row.getAnyCase "null?" (.text "Y")).isText "Y")),
         ("default", row.getAnyCase "default" .null)]
  | teradata {code type : String} {source : LengthSource} {length : Value}
      (hcode : HasCode row code type source) (hlength : teradataLength code source row = .ok length) :
      Describes .teradata (.text type)
        [("length", length), ("nullable", .bool (nullable row "Nullable" "Y")),
         ("default", row.getAnyCase "DefaultValue" .null)]

def nameValue : Engine → Value
  | .redshift => row.getAnyCase "column_name" .null
  | .snowflake => row.getAnyCase "name" .null
  | .teradata => trimmedField row "ColumnName"

end

variable {row : Record}

/-! ## Redshift -/

theorem redshiftColumn_of_type {type : Value} (h : ShownType row type) : redshiftColumn row = (do
    let length ← redshiftLength type row
    let compression ← redshiftEncoding row
    let d ← Definition.make .redshift type
      [("length", length), ("nullable", .bool (nullable row "is_nullable" "YES")),
       ("default", row.getAnyCase "column_default" .null), ("compression", compression)]
    Column.make .redshift (row.getAnyCase "column_name" .null) d) := by
  unfold redshiftColumn
  cases h with
  | absent h =>
    rw [h]
    rfl
  | shown hne hs =>
    split
    · rename_i hnull
      exact absurd hnull hne
    · rw [Fault.ofText_eq_ok_iff.mpr hs, ok_bind]
      exact ok_bind _ _

theorem redshiftLength_of_precision {type : Value} (h : GivesPrecision row type) :
    redshiftLength type row = (do
      let p ← Fault.ofText (row.getAnyCase "numeric_precision" .null).display
      let s ← Fault.ofText (scaleText (row.getAnyCase "numeric_scale" .null))
      return .text (p ++ "," ++ s)) := by
  obtain ⟨htype, hne⟩ := h
  have hdecimal : (type.isText "DECIMAL" || type.isText "NUMERIC") = true := by
    rw [Bool.or_eq_true, Value.isText_iff, Value.isText_iff]
    exact htype
  unfold redshiftLength
  dsimp only
  rw [hdecimal]
  split
  · rename_i _ hnull
    exact absurd hnull hne
  · rename_i hfalse
    exact absurd hfalse (by simp)
  · rfl

theorem redshiftLength_of_characters {type : Value} (h : ¬ GivesPrecision row type) :
    redshiftLength type row =
      match row.getAnyCase "character_maximum_length" .null with
      | .null => .ok .null
      | v => do return .text (← Fault.ofText v.display) := by
  unfold redshiftLength
  dsimp only
  split
  · rfl
  · rfl
  · rename_i hdecimal hne
    rw [Bool.or_eq_true, Value.isText_iff, Value.isText_iff] at hdecimal
    exact absurd ⟨hdecimal, hne⟩ h

theorem redshiftEncoding_of_odd (htruthy : (trimmedField row "encoding").isTruthy = true)
    (hnot : ∀ s, trimmedField row "encoding" ≠ .text s)
    (hbytes : ∀ bytes, trimmedField row "encoding" ≠ .octets bytes) :
    redshiftEncoding row = .error .wrongAttribute := by
  unfold redshiftEncoding
  dsimp only
  split
  · rename_i s hs
    exact absurd hs (hnot s)
  · rename_i bytes hs
    exact absurd hs (hbytes bytes)
  · rw [if_pos htruthy]

theorem exists_redshiftEncoding (h : (trimmedField row "encoding").isTruthy = true →
    ∃ s, trimmedField row "encoding" = .text s) :
    ∃ compression, redshiftEncoding row = .ok compression := by
  unfold redshiftEncoding
  dsimp only
  split
  · exact ⟨_, rfl⟩
  · exact ⟨_, rfl⟩
  · rename_i hnot _
    by_cases htruthy : (trimmedField row "encoding").isTruthy = true
    · obtain ⟨s, hs⟩ := h htruthy
      exact absurd hs (hnot s)
    · rw [if_neg htruthy]
      exact ⟨_, rfl⟩

/-! ## Snowflake -/

theorem snowflakeColumn_of_described {s : String} {t : DescribedType}
    (htext : row.getAnyCase "type" .null = .text s) (ht : DescribedType.ofChars? s.toList = some t) :
    snowflakeColumn row = (do
      let d ← Definition.make .snowflake (.text (String.ofList t.name))
        [("length", Definition.optionValue (t.length.map String.ofList)),
         ("nullable", .bool ((row.getAnyCase "null?" (.text "Y")).isText "Y")),
         ("default", row.getAnyCase "default" .null)]
      Column.make .snowflake (row.getAnyCase "name" .null) d) := by
  have hdescribed : ((row.getAnyCase "type" .null).text?.bind fun s =>
      DescribedType.ofChars? s.toList) = some t := by
    rw [htext]
    exact ht
  unfold snowflakeColumn
  dsimp only
  rw [hdescribed]

theorem snowflakeColumn_of_unread (h : ∀ s t, row.getAnyCase "type" .null = .text s →
    DescribedType.ofChars? s.toList ≠ some t) :
    snowflakeColumn row = (DefinitionFault.unreadableType (row.getAnyCase "type" .null)).raise := by
  have hdescribed : ((row.getAnyCase "type" .null).text?.bind fun s =>
      DescribedType.ofChars? s.toList) = none := by
    cases hv : row.getAnyCase "type" .null with
    | text s =>
      cases hs : DescribedType.ofChars? s.toList with
      | none => exact hs
      | some t => exact absurd hs (h s t hv)
    | _ => rfl
  unfold snowflakeColumn
  dsimp only
  rw [hdescribed]

/-! ## Teradata -/

theorem teradataColumn_of_code {code type : String} {source : LengthSource}
    (h : HasCode row code type source) : teradataColumn row = (do
      let length ← teradataLength code source row
      let d ← Definition.make .teradata (.text type)
        [("length", length), ("nullable", .bool (nullable row "Nullable" "Y")),
         ("default", row.getAnyCase "DefaultValue" .null)]
      Column.make .teradata (trimmedField row "ColumnName") d) := by
  unfold teradataColumn
  dsimp only
  have hkey : (Value.text code).canBeKey = true := Value.Scalar.canBeKey trivial
  rw [h.code_eq, hkey]
  dsimp only [Value.text?, Option.bind]
  rw [h.entry_eq]
  rfl

theorem teradataColumn_of_unknown (hscalar : ScalarRow row)
    (h : ∀ code type source, ¬ HasCode row code type source) :
    teradataColumn row = (DefinitionFault.unknownTypeCode (trimmedField row "ColumnType")).raise := by
  have hkey := (scalar_trimmedField hscalar "ColumnType").canBeKey
  unfold teradataColumn
  dsimp only
  rw [hkey]
  cases hcode : trimmedField row "ColumnType" with
  | text s =>
    cases hentry : typeCodes.lookup s with
    | some entry => exact absurd ⟨hcode, hentry⟩ (h s entry.1 entry.2)
    | none =>
      dsimp only [Value.text?, Option.bind]
      rw [hentry]
      rfl
  | _ => rfl

theorem writeInt_of_writable {n : Int} (h : (Value.int n).Writable) :
    Fault.ofNumeral (writeInt n) = .ok (intText n) :=
  Fault.ofNumeral_eq_ok_iff.mpr (Value.writeInt_of_le (Value.writable_int_iff.mp h))

theorem stopsAt_writeInt {n : Int} (h : ¬ (Value.int n).Writable) :
    StopsAt .long (Fault.ofNumeral (writeInt n)) := by
  refine stopsAt_ofNumeral ?_
  rintro ⟨s, hs⟩
  exact h (Value.writable_int_iff.mpr (Value.writeInt_eq_ok_iff.mp hs).1)

theorem teradataLength_of_total {code : String} {n : Int} (h : Holds row "DecimalTotalDigits" n)
    (hn : 0 ≤ n) : teradataLength code .digits row = (do
      let p ← Fault.ofNumeral (writeInt n)
      let scale := (← integer row "DecimalFractionalDigits").getD 0
      let s ← Fault.ofNumeral (writeInt scale)
      return .text (p ++ "," ++ s)) := by
  unfold teradataLength
  rw [integer_of_holds h, ok_bind]
  dsimp only
  rw [if_neg (by omega)]

/-- What is wrong with a field that is read stops the length. -/
theorem teradataLength_of_error {code field : String} {source : LengthSource} {fault : Fault}
    (hfield : Consults row source field) (h : integer row field = .error fault) :
    teradataLength code source row = .error fault := by
  cases hfield with
  | charactersLength =>
    unfold teradataLength
    rw [h]
    rfl
  | charactersKind hn =>
    unfold teradataLength
    rw [integer_of_holds hn, ok_bind]
    dsimp only
    rw [h]
    rfl
  | octetsLength =>
    unfold teradataLength
    rw [h]
    rfl
  | fractionDigits =>
    unfold teradataLength
    rw [h]
    rfl
  | totalDigits =>
    unfold teradataLength
    rw [h]
    rfl
  | scale hn hpos hwritable =>
    rw [teradataLength_of_total hn hpos, writeInt_of_writable hwritable, ok_bind, h]
    rfl

/-! ## Every warehouse -/

theorem ofRow_of_describes {e : Engine} {type : Value} {options : Record}
    (h : Describes row e type options) : Column.ofRow e row = (do
      let d ← Definition.make e type options
      Column.make e (nameValue row e) d) := by
  cases h with
  | redshift htype hlength hcompression =>
    rw [Column.ofRow, redshiftColumn_of_type htype, hlength, ok_bind, hcompression, ok_bind]
    rfl
  | snowflake htext ht => exact snowflakeColumn_of_described htext ht
  | teradata hcode hlength =>
    rw [Column.ofRow, teradataColumn_of_code hcode, hlength, ok_bind]
    rfl

theorem Describes.known {e : Engine} {row : Record} {type : Value} {options : Record}
    (h : Describes row e type options) : ∀ o ∈ options, o.1 ∈ e.options := by
  have hnames : ∀ name ∈ options.map Prod.fst, name ∈ e.options := by
    cases h with
    | redshift _ _ _ =>
      show ∀ name ∈ ["length", "nullable", "default", "compression"], name ∈ Engine.redshift.options
      decide
    | snowflake _ _ =>
      show ∀ name ∈ ["length", "nullable", "default"], name ∈ Engine.snowflake.options
      decide
    | teradata _ _ =>
      show ∀ name ∈ ["length", "nullable", "default"], name ∈ Engine.teradata.options
      decide
  intro o ho
  exact hnames o.1 (List.mem_map_of_mem ho)

theorem scalar_redshiftLength {type length : Value} (h : redshiftLength type row = .ok length) :
    length.Scalar := by
  by_cases hgives : GivesPrecision row type
  · rw [redshiftLength_of_precision hgives] at h
    obtain ⟨p, _, h⟩ := bind_eq_ok_iff.mp h
    obtain ⟨s, _, h⟩ := bind_eq_ok_iff.mp h
    obtain rfl := pure_eq_ok_iff.mp h
    trivial
  · rw [redshiftLength_of_characters hgives] at h
    split at h
    · obtain rfl := Except.ok.inj h
      trivial
    · obtain ⟨s, _, h⟩ := bind_eq_ok_iff.mp h
      obtain rfl := pure_eq_ok_iff.mp h
      trivial

theorem scalar_redshiftEncoding {compression : Value} (hscalar : ScalarRow row)
    (h : redshiftEncoding row = .ok compression) : compression.Scalar := by
  have hv := scalar_trimmedField hscalar "encoding"
  unfold redshiftEncoding at h
  dsimp only at h
  split at h
  · obtain rfl := Except.ok.inj h
    split
    · trivial
    · exact hv
  · rename_i bytes hbytes
    rw [hbytes] at hv
    exact hv.elim
  · split at h
    · cases h
    · obtain rfl := Except.ok.inj h
      trivial

theorem scalar_integerValue (n : Option Int) : (integerValue n).Scalar := by
  cases n <;> trivial

theorem scalar_teradataLength {code : String} {source : LengthSource} {length : Value}
    (h : teradataLength code source row = .ok length) : length.Scalar := by
  cases source with
  | nothing =>
    obtain rfl := Except.ok.inj h
    trivial
  | octets | fraction =>
    obtain ⟨n, _, h⟩ := bind_eq_ok_iff.mp h
    obtain rfl := pure_eq_ok_iff.mp h
    exact scalar_integerValue n
  | characters =>
    obtain ⟨n, _, h⟩ := bind_eq_ok_iff.mp h
    cases n with
    | none => exact absurd h (DefinitionFault.raise_ne_ok _ _)
    | some n =>
      obtain ⟨kind, _, h⟩ := bind_eq_ok_iff.mp h
      obtain rfl := pure_eq_ok_iff.mp h
      trivial
  | digits =>
    obtain ⟨n, _, h⟩ := bind_eq_ok_iff.mp h
    cases n with
    | none =>
      obtain rfl := pure_eq_ok_iff.mp h
      trivial
    | some n =>
      dsimp only at h
      split at h
      · obtain rfl := pure_eq_ok_iff.mp h
        trivial
      · obtain ⟨p, _, h⟩ := bind_eq_ok_iff.mp h
        obtain ⟨scale, _, h⟩ := bind_eq_ok_iff.mp h
        obtain ⟨s, _, h⟩ := bind_eq_ok_iff.mp h
        obtain rfl := pure_eq_ok_iff.mp h
        trivial

theorem scalar_optionValue (s : Option String) : (Definition.optionValue s).Scalar := by
  cases s <;> trivial

/-- A row of scalars describes a type and options that are scalars too. -/
theorem Describes.scalar {e : Engine} {type : Value} {options : Record} (hscalar : ScalarRow row)
    (h : Describes row e type options) : type.Scalar ∧ ScalarRow options := by
  cases h with
  | redshift htype hlength hcompression =>
    refine ⟨by cases htype <;> trivial, ?_⟩
    simp only [ScalarRow, List.forall_mem_cons]
    exact ⟨scalar_redshiftLength hlength, trivial, hscalar.getAnyCase _ trivial,
      scalar_redshiftEncoding hscalar hcompression, by simp⟩
  | snowflake htext ht =>
    refine ⟨trivial, ?_⟩
    simp only [ScalarRow, List.forall_mem_cons]
    exact ⟨scalar_optionValue _, trivial, hscalar.getAnyCase _ trivial, by simp⟩
  | teradata hcode hlength =>
    refine ⟨trivial, ?_⟩
    simp only [ScalarRow, List.forall_mem_cons]
    exact ⟨scalar_teradataLength hlength, trivial, hscalar.getAnyCase _ trivial, by simp⟩

/-- A row that describes what a column has is decoded to the column. -/
theorem ofRow_of_made {e : Engine} {row : Record} {type : Value} {options : Record} {c : Column}
    (h : Describes row e type options) (hmade : c.definition.MadeFor e)
    (htype : e.normalizeType type = .ok c.definition.type)
    (hlength : normalizeLength (options.get "length") = .ok c.definition.length)
    (hnullable : options.find? "nullable" = some (.bool c.definition.nullable))
    (hdefault : options.get "default" = Definition.optionValue c.definition.default)
    (hcompression : e.normalizeCompression c.definition.type (options.get "compression") =
      .ok c.definition.compression)
    (hname : nameValue row e = .text c.name) : Column.ofRow e row = .ok c := by
  obtain rfl := hmade.engine_eq
  rw [ofRow_of_describes h,
    hmade.canonical.make_eq htype h.known hlength hnullable hdefault hcompression, ok_bind]
  exact Column.make_eq_ok_iff.mpr ⟨hname, rfl, rfl⟩

end WarehouseSchema.Catalog
