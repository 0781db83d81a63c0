import WarehouseSchema.Proofs.Column.Encoded
import WarehouseSchema.Proofs.Text.Respelled

/-!
Rows of Redshift's catalog. Main statement: a row that encodes a column is decoded to this column.
-/

namespace WarehouseSchema.Redshift

open Text Number Catalog

section
variable (row : Record)

/-- The types whose length is a precision and a scale. -/
def IsDecimal (type : String) : Prop := type = "DECIMAL" ∨ type = "NUMERIC"

/-- The fields that are consulted for the length of a type say this length. -/
inductive EncodesLength (type : String) : Option String → Prop where
  | precision {p s : Nat} (htype : IsDecimal type)
      (hp : row.findAnyCase? "numeric_precision" = some (.int p))
      (hs : row.findAnyCase? "numeric_scale" = some (.int s)) :
      EncodesLength type (some (natText p ++ "," ++ natText s))
  | unsized (htype : IsDecimal type) (hp : row.getAnyCase "numeric_precision" .null = .null)
      (hn : row.getAnyCase "character_maximum_length" .null = .null) : EncodesLength type none
  | characters {n : Nat} (htype : ¬ IsDecimal type)
      (hn : row.findAnyCase? "character_maximum_length" = some (.int n)) :
      EncodesLength type (some (natText n))
  | nothing (htype : ¬ IsDecimal type)
      (hn : row.getAnyCase "character_maximum_length" .null = .null) : EncodesLength type none

/-- The encoding is this codec in any letter case. -/
inductive EncodesCodec : Option String → Prop where
  | codec {codec shown : String} (h : ShowsText row "encoding" shown)
      (hshown : SameLetters shown.toList codec.toList) : EncodesCodec (some codec)
  | nothing (h : Blank row "encoding") : EncodesCodec none
  | marked {shown : String} (h : ShowsText row "encoding" shown)
      (hshown : SameLetters shown.toList "none".toList) : EncodesCodec none

/-- The row stands for a column. -/
structure Encodes (c : Column) : Prop where
  name : row.findAnyCase? "column_name" = some (.text c.name)
  type : ∃ shown, row.findAnyCase? "data_type" = some (.text shown) ∧
    Respells shown.toList c.definition.type.toList
  nullable : ShowsText row "is_nullable" (if c.definition.nullable then "YES" else "NO")
  default : row.getAnyCase "column_default" .null = Definition.optionValue c.definition.default
  length : EncodesLength row c.definition.type c.definition.length
  codec : EncodesCodec row c.definition.compression

end

variable {row : Record} {d : Definition}

theorem upper_squeeze_type {shown type : String} (htype : type ∈ Engine.redshift.types)
    (h : Respells shown.toList type.toList) : upper (squeeze shown) = type := by
  have hall : ∀ type ∈ Engine.redshift.types, upper (squeeze type) = type ∧
      IsAscii (squeezeChars type.toList) := by
    decide +kernel
  obtain ⟨hsame, hascii⟩ := hall type htype
  rw [h.upper_squeeze_eq hascii, hsame]

theorem shownType_of_respelled {type : String} (htype : type ∈ Engine.redshift.types)
    (h : ∃ shown, row.findAnyCase? "data_type" = some (.text shown) ∧
      Respells shown.toList type.toList) : ShownType row (.text type) := by
  obtain ⟨shown, hshown, hrespelled⟩ := h
  have hfield := Record.getAnyCase_of_find .null hshown
  rw [← upper_squeeze_type htype hrespelled]
  apply ShownType.shown
  · rw [hfield]
    simp
  · rw [hfield]
    rfl

theorem display_int {n : Int} {s : String} (h : writeInt n = .ok s) :
    (Value.int n).display = .ok s := by
  show (Value.int n).literal = .ok s
  rw [Value.literal, Value.depthLimit, Value.literalWithin, h]
  rfl

theorem scaleText_int {s : Nat} (h : writeInt s = .ok (natText s)) :
    scaleText (.int s) = .ok (natText s) := by
  unfold scaleText
  split
  · exact display_int h
  · rename_i hzero
    have hs : s = 0 := by simpa [Value.isTruthy] using hzero
    rw [hs]
    rfl

theorem exists_redshiftLength (hd : d.Canonical) (h : EncodesLength row d.type d.length) :
    ∃ length, redshiftLength (.text d.type) row = .ok length ∧
      normalizeLength length = .ok d.length := by
  have hgives : GivesPrecision row (.text d.type) ↔ IsDecimal d.type ∧
      row.getAnyCase "numeric_precision" .null ≠ .null := by
    simp [GivesPrecision, IsDecimal]
  generalize hlength : d.length = length at h
  cases h with
  | @precision p s htype hp hs =>
    obtain ⟨hwritesp, hwritess⟩ := hd.writeInt_precision hlength
    have hprecision := Record.getAnyCase_of_find .null hp
    have hsized : GivesPrecision row (.text d.type) := by
      apply hgives.mpr
      rw [hprecision]
      exact ⟨htype, by simp⟩
    refine ⟨.text (natText p ++ "," ++ natText s), ?_, hd.normalizeLength_text hlength⟩
    rw [redshiftLength_of_precision hsized, hprecision, Record.getAnyCase_of_find .null hs,
      scaleText_int hwritess, display_int hwritesp]
    rfl
  | unsized htype hp hn =>
    refine ⟨.null, ?_, rfl⟩
    rw [redshiftLength_of_characters fun hsized => (hgives.mp hsized).2 hp, hn]
  | @characters n htype hn =>
    refine ⟨.text (natText n), ?_, hd.normalizeLength_text hlength⟩
    rw [redshiftLength_of_characters fun hsized => htype (hgives.mp hsized).1,
      Record.getAnyCase_of_find .null hn]
    dsimp only
    rw [display_int (hd.writeInt_length hlength)]
    rfl
  | nothing htype hn =>
    refine ⟨.null, ?_, rfl⟩
    rw [redshiftLength_of_characters fun hsized => htype (hgives.mp hsized).1, hn]

theorem redshiftEncoding_of_text {s : String} (h : trimmedField row "encoding" = .text s) :
    redshiftEncoding row = .ok (if s = "" || lower s = "none" then .null else .text s) := by
  unfold redshiftEncoding
  rw [h]

theorem redshiftEncoding_of_none {s : String} (h : trimmedField row "encoding" = .text s)
    (hs : s = "" ∨ lower s = "none") : redshiftEncoding row = .ok .null := by
  rw [redshiftEncoding_of_text h, if_pos (by simpa using hs)]

/-- No codec is called `none`. -/
theorem plain_codec {codec : String} {basetypes : List Basetype}
    (h : Engine.redshift.codecs.lookup codec = some basetypes) :
    IsAscii codec.toList ∧ Bare codec.toList ∧ codec ≠ "" ∧ lower codec ≠ "none" := by
  have hall : ∀ entry ∈ Engine.redshift.codecs,
      IsAscii entry.1.toList ∧ Bare entry.1.toList ∧ entry.1 ≠ "" ∧ lower entry.1 ≠ "none" := by
    decide +kernel
  exact hall (codec, basetypes) (mem_of_lookup h)

theorem redshiftEncoding_of_codec (hd : d.Canonical) (hengine : d.engine = .redshift)
    {codec shown : String} (hcodec : d.compression = some codec)
    (h : ShowsText row "encoding" shown) (hshown : SameLetters shown.toList codec.toList) :
    redshiftEncoding row = .ok (.text shown) ∧
      d.engine.normalizeCompression d.type (.text shown) = .ok d.compression := by
  obtain ⟨basetypes, hlookup, -⟩ := hd.compression_fits codec hcodec
  have hupper := (upper_trim_codec hlookup).1
  rw [hengine] at hlookup
  obtain ⟨hascii, hbare, hne, hnone⟩ := plain_codec hlookup
  have hshownBare := hshown.bare hbare
  constructor
  · rw [redshiftEncoding_of_text (trimmedField_of_showsText h hshownBare), if_neg]
    simp only [Bool.or_eq_true, decide_eq_true_eq, not_or]
    exact ⟨hshown.ne_empty hne, by rwa [hshown.lower_eq hascii]⟩
  · apply hd.normalizeCompression_of_upper hcodec
    rw [trim_of_bare hshownBare, hshown.upper_eq hascii]
    rwa [trim_of_bare hbare] at hupper

theorem exists_redshiftCompression (hd : d.Canonical) (hengine : d.engine = .redshift)
    (h : EncodesCodec row d.compression) : ∃ compression,
      redshiftEncoding row = .ok compression ∧
        d.engine.normalizeCompression d.type compression = .ok d.compression := by
  generalize hcodec : d.compression = compression at h
  cases h with
  | codec h hshown =>
    rw [← hcodec]
    exact ⟨_, redshiftEncoding_of_codec hd hengine hcodec h hshown⟩
  | nothing h =>
    refine ⟨.null, ?_, rfl⟩
    rcases h with hnull | hempty
    · unfold redshiftEncoding
      rw [hnull]
      rfl
    · exact redshiftEncoding_of_none hempty (Or.inl rfl)
  | marked h hshown =>
    refine ⟨.null, redshiftEncoding_of_none (trimmedField_of_showsText h (hshown.bare ?_)) ?_, rfl⟩
    · decide
    · have hascii : IsAscii "none".toList := by decide +kernel
      have hnone : lower "none" = "none" := by decide +kernel
      rw [hshown.lower_eq hascii]
      exact Or.inr hnone

/-- A row that encodes a column is decoded to it. -/
theorem redshiftColumn_of_encodes {c : Column} (hmade : c.definition.MadeFor .redshift)
    (h : Encodes row c) : Column.ofRow .redshift row = .ok c := by
  have hcanonical := hmade.canonical
  have hengine := hmade.engine_eq
  have hmem : c.definition.type ∈ Engine.redshift.types := hengine ▸ hcanonical.type_mem
  obtain ⟨length, hlength, hnormal⟩ := exists_redshiftLength hcanonical h.length
  obtain ⟨compression, hcompression, hcodec⟩ :=
    exists_redshiftCompression hcanonical hengine h.codec
  have hnullable : nullable row "is_nullable" "YES" = c.definition.nullable :=
    nullable_of_showsText (by decide) (by decide) (by decide) h.nullable
  rw [hengine] at hcodec
  apply ofRow_of_made (.redshift (shownType_of_respelled hmem h.type) hlength hcompression) hmade
    (normalizeType_of_mem hmem) hnormal ?_ h.default hcodec
  · exact Record.getAnyCase_of_find .null h.name
  · rw [hnullable]
    rfl

/-- A row whose texts are spelled in another way than a definition's. -/
def looseRow : Record :=
  [("column_name", .text "amount"), ("data_type", .text " double\tPrecision"),
   ("numeric_precision", .int 53), ("is_nullable", .text "NO "), ("column_default", .text "0"),
   ("encoding", .text " zStd ")]

def looseColumn : Column :=
  ⟨"amount", ⟨.redshift, "DOUBLE PRECISION", none, false, some "0", some "ZSTD"⟩, by decide⟩

theorem madeFor_looseColumn : looseColumn.definition.MadeFor .redshift :=
  ⟨.text "DOUBLE PRECISION",
    [("nullable", .bool false), ("default", .text "0"), ("compression", .text "ZSTD")],
    rfl⟩

theorem respells_looseType :
    Respells " double\tPrecision".toList looseColumn.definition.type.toList := by
  have hshown : MadeOf (' ' :: ("double".toList ++ '\t' :: "Precision".toList))
      ["double".toList, "Precision".toList] :=
    .blank (by decide) (.word (by decide) (by decide) (.last (by decide)))
  have htype : MadeOf ("DOUBLE".toList ++ ' ' :: "PRECISION".toList)
      ["DOUBLE".toList, "PRECISION".toList] :=
    .word (by decide) (by decide) (.last (by decide))
  exact ⟨_, _, hshown, htype, .cons (by decide +kernel) (.cons (by decide +kernel) .nil)⟩

theorem encodes_looseRow : Encodes looseRow looseColumn where
  name := rfl
  type := ⟨_, rfl, respells_looseType⟩
  nullable := ⟨_, rfl, [], [' '], rfl, by simp, by simp [isBlank_space]⟩
  default := rfl
  length := .nothing (by unfold IsDecimal; decide) rfl
  codec := by
    have hshown : ShowsText looseRow "encoding" "zStd" :=
      ⟨_, rfl, [' '], [' '], rfl, by simp [isBlank_space], by simp [isBlank_space]⟩
    exact .codec hshown (by decide +kernel)

theorem redshiftColumn_looseRow : looseColumn.definition.MadeFor .redshift ∧
    Encodes looseRow looseColumn ∧ Column.ofRow .redshift looseRow = .ok looseColumn := by
  refine ⟨madeFor_looseColumn, encodes_looseRow, ?_⟩
  exact redshiftColumn_of_encodes madeFor_looseColumn encodes_looseRow

end WarehouseSchema.Redshift
