import WarehouseSchema.Proofs.Column.Encoded

/-!
Rows of Teradata's catalog. Main statement: a row that encodes a column is decoded to this column, if none
of its numbers is too long to be read.
-/

namespace WarehouseSchema.Teradata

open Text Number Catalog

section
variable (limit : Nat) (row : Record)

/-- The field holds the number that is the length, and nothing if there is none. -/
inductive Counts (field : String) : Option String → Prop where
  | nothing (h : Blank row field) : Counts field none
  | number {n : Nat} (h : ShowsInt limit row field n) : Counts field (some (natText n))

/-- The fields that are consulted for a length say this length. A column of characters is as long as its
octets, and half as long if each character takes two of them. -/
inductive EncodesLength : LengthSource → Option String → Prop where
  | nothing : EncodesLength .nothing none
  | narrow {n : Nat} (h : ShowsInt limit row "ColumnLength" n)
      (hkind : Blank row "CharType" ∨
        ∃ kind, kind ≠ wideCharacters ∧ ShowsInt limit row "CharType" kind) :
      EncodesLength .characters (some (natText n))
  | wide {n : Nat} {octets : Int} (h : ShowsInt limit row "ColumnLength" octets)
      (hoctets : octets = 2 * n ∨ octets = 2 * n + 1)
      (hkind : ShowsInt limit row "CharType" wideCharacters) :
      EncodesLength .characters (some (natText n))
  | octets {length : Option String} (h : Counts limit row "ColumnLength" length) :
      EncodesLength .octets length
  | fraction {length : Option String} (h : Counts limit row "DecimalFractionalDigits" length) :
      EncodesLength .fraction length
  | digits {p s : Nat} (hp : ShowsInt limit row "DecimalTotalDigits" p)
      (hs : ShowsInt limit row "DecimalFractionalDigits" s) :
      EncodesLength .digits (some (natText p ++ "," ++ natText s))
  | unbounded (h : Blank row "DecimalTotalDigits" ∨
      ∃ n < 0, ShowsInt limit row "DecimalTotalDigits" n) : EncodesLength .digits none

/-- The row stands for a column whose type has this code; no number in it has more digits than the
limit. -/
structure Encodes (code : String) (source : LengthSource) (c : Column) : Prop where
  listed : typeCodes.lookup code = some (c.definition.type, source)
  code : ShowsText row "ColumnType" code
  name : ShowsText row "ColumnName" c.name
  nullable : ShowsText row "Nullable" (if c.definition.nullable then "Y" else "N")
  default : row.getAnyCase "DefaultValue" .null = Definition.optionValue c.definition.default
  length : EncodesLength limit row source c.definition.length

end

variable {row : Record} {code : String} {source : LengthSource}

theorem bare_typeCode {type : String} (h : typeCodes.lookup code = some (type, source)) :
    Bare code.toList := by
  have hall : ∀ entry ∈ typeCodes, Bare entry.1.toList := by
    decide +kernel
  exact hall (code, type, source) (mem_of_lookup h)

theorem integer_of_showsInt {field : String} {n : Int} (h : ShowsInt digitLimit row field n) :
    integer row field = .ok (some n) := integer_of_holds (holds_of_showsInt h)

theorem integer_of_narrow (hkind : Blank row "CharType" ∨
      ∃ kind, kind ≠ wideCharacters ∧ ShowsInt digitLimit row "CharType" kind) :
    ∃ kind, integer row "CharType" = .ok kind ∧ kind.getD 1 ≠ wideCharacters := by
  rcases hkind with hblank | ⟨kind, hne, hkind⟩
  · exact ⟨none, integer_of_blank hblank, by decide⟩
  · exact ⟨some kind, integer_of_showsInt hkind, hne⟩

theorem teradataLength_of_characters {n : Int} {kind : Option Int}
    (hn : ShowsInt digitLimit row "ColumnLength" n) (hkind : integer row "CharType" = .ok kind) :
    teradataLength code .characters row =
      .ok (.int (if kind.getD 1 = wideCharacters then n / 2 else n)) := by
  unfold teradataLength
  rw [integer_of_showsInt hn, ok_bind]
  dsimp only
  rw [hkind, ok_bind]
  rfl

/-- The integer in a field is the length of a canonical definition that it counts. -/
theorem Counts.exists_length {d : Definition} {field : String} (hd : d.Canonical)
    (h : Counts digitLimit row field d.length) : ∃ length,
      (do return integerValue (← integer row field) : Except Fault Value) = .ok length ∧
        normalizeLength length = .ok d.length := by
  generalize hlength : d.length = length at h
  cases h with
  | nothing h =>
    refine ⟨.null, ?_, rfl⟩
    rw [integer_of_blank h]
    rfl
  | @number n h =>
    refine ⟨.int n, ?_, hd.normalizeLength_int hlength⟩
    rw [integer_of_showsInt h]
    rfl

theorem exists_teradataLength (code : String) {d : Definition} (hd : d.Canonical)
    (h : EncodesLength digitLimit row source d.length) : ∃ length,
      teradataLength code source row = .ok length ∧ normalizeLength length = .ok d.length := by
  generalize hlength : d.length = length at h
  cases h with
  | nothing => exact ⟨.null, rfl, rfl⟩
  | @narrow n hn hkind =>
    obtain ⟨kind, hkind, hne⟩ := integer_of_narrow hkind
    refine ⟨.int n, ?_, hd.normalizeLength_int hlength⟩
    rw [teradataLength_of_characters hn hkind, if_neg hne]
  | @wide n octets hn hoctets hkind =>
    have hhalf : octets / 2 = n := by omega
    refine ⟨.int n, ?_, hd.normalizeLength_int hlength⟩
    rw [teradataLength_of_characters hn (integer_of_showsInt hkind), Option.getD_some, if_pos rfl,
      hhalf]
  | octets h =>
    subst hlength
    exact h.exists_length hd
  | fraction h =>
    subst hlength
    exact h.exists_length hd
  | @digits p s hp hs =>
    obtain ⟨hwritesp, hwritess⟩ := hd.writeInt_precision hlength
    refine ⟨.text (natText p ++ "," ++ natText s), ?_, hd.normalizeLength_text hlength⟩
    rw [teradataLength_of_total (holds_of_showsInt hp) (Int.natCast_nonneg p), hwritesp,
      integer_of_showsInt hs]
    simp only [Fault.ofNumeral, ok_bind, Option.getD_some, hwritess]
    rfl
  | unbounded h =>
    refine ⟨.null, ?_, rfl⟩
    unfold teradataLength
    rcases h with hblank | ⟨n, hn, h⟩
    · rw [integer_of_blank hblank]
      rfl
    · rw [integer_of_showsInt h, ok_bind]
      dsimp only
      rw [if_pos hn]
      rfl

/-- A row that encodes a column is decoded to it, if its numbers are short enough to be read. -/
theorem teradataColumn_of_encodes {c : Column} (hmade : c.definition.MadeFor .teradata)
    (hname : Bare c.name.toList) (h : Encodes digitLimit row code source c) :
    Column.ofRow .teradata row = .ok c := by
  have hcanonical := hmade.canonical
  have hengine := hmade.engine_eq
  obtain ⟨length, hlength, hnormal⟩ := exists_teradataLength code hcanonical h.length
  have hcode : HasCode row code c.definition.type source :=
    ⟨trimmedField_of_showsText h.code (bare_typeCode h.listed), h.listed⟩
  have htype := normalizeType_of_mem hcanonical.type_mem
  rw [hengine] at htype
  have hnullable : nullable row "Nullable" "Y" = c.definition.nullable :=
    nullable_of_showsText (by decide) (by decide) (by decide) h.nullable
  have hcompression : c.definition.compression = none :=
    hcanonical.compression_eq_none (by rw [hengine]; rfl)
  apply ofRow_of_made (.teradata hcode hlength) hmade htype hnormal ?_ h.default ?_
  · exact trimmedField_of_showsText h.name hname
  · rw [hnullable]
    rfl
  · rw [hcompression]
    rfl

/-- A row with blanks around its texts and a length in octets. -/
def wideRow : Record :=
  [("ColumnName", .text "remark"), ("ColumnType", .text "CV "), ("ColumnLength", .text " 21 "),
   ("CharType", .int 2), ("Nullable", .text "N "), ("DefaultValue", .text "-")]

def wideColumn : Column :=
  ⟨"remark", ⟨.teradata, "VARCHAR", some "10", false, some "-", none⟩, by decide⟩

theorem madeFor_wideColumn : wideColumn.definition.MadeFor .teradata :=
  ⟨.text "VARCHAR", [("length", .int 10), ("nullable", .bool false), ("default", .text "-")], rfl⟩

theorem encodes_wideRow : Encodes digitLimit wideRow "CV" .characters wideColumn where
  listed := rfl
  code := ⟨_, rfl, [], [' '], rfl, by simp, by simp [isBlank_space]⟩
  name := ⟨_, rfl, Value.pads_text "remark"⟩
  nullable := ⟨_, rfl, [], [' '], rfl, by simp, by simp [isBlank_space]⟩
  default := rfl
  length := by
    have hdigits : WritesInt "21".toList 21 2 :=
      .mk false (by decide) (List.all_eq_true.mp (by decide))
    have hshown : ShowsText wideRow "ColumnLength" "21" :=
      ⟨_, rfl, [' '], [' '], rfl, by simp [isBlank_space], by simp [isBlank_space]⟩
    have hlength : ShowsInt digitLimit wideRow "ColumnLength" 21 :=
      .decimal hshown hdigits (by decide)
    have hhalf : (21 : Int) = 2 * (10 : Nat) + 1 := rfl
    exact .wide hlength (Or.inr hhalf) (.integer rfl)

theorem teradataColumn_wideRow : wideColumn.definition.MadeFor .teradata ∧
    Bare wideColumn.name.toList ∧ Encodes digitLimit wideRow "CV" .characters wideColumn ∧
    Column.ofRow .teradata wideRow = .ok wideColumn := by
  have hname : Bare wideColumn.name.toList := by decide
  refine ⟨madeFor_wideColumn, hname, encodes_wideRow, ?_⟩
  exact teradataColumn_of_encodes madeFor_wideColumn hname encodes_wideRow

/-! ## Numbers that are too long -/

def longDigits : List Char := List.replicate digitLimit '1' ++ ['1']

theorem isDigit_of_mem_longDigits : ∀ c ∈ longDigits, isDigit c = true := by
  intro c hc
  have hone : c = '1' := by
    rcases List.mem_append.mp hc with hc | hc
    · exact List.eq_of_mem_replicate hc
    · exact List.mem_singleton.mp hc
  rw [hone]
  decide

theorem length_longDigits : longDigits.length = digitLimit + 1 := by
  rw [longDigits, List.length_append, List.length_replicate, List.length_singleton]

theorem longDigits_ne_nil : longDigits ≠ [] := by
  intro hnil
  have hlength := length_longDigits
  rw [hnil, List.length_nil] at hlength
  omega

theorem digitsValue_longDigits_pos : 0 < digitsValue longDigits := by
  have hone : digitValue '1' = 1 := by decide
  rw [longDigits, digitsValue_append_singleton, hone]
  omega

/-- A row for an unbounded number, which says so with a negative count of digits. -/
def longRow : Record :=
  [("ColumnName", .text "c"), ("ColumnType", .text "N"), ("Nullable", .text "Y"),
   ("DefaultValue", .null), ("DecimalTotalDigits", .text (String.ofList (signed true longDigits)))]

def unboundedColumn : Column := ⟨"c", ⟨.teradata, "NUMBER", none, true, none, none⟩, by decide⟩

theorem madeFor_unboundedColumn : unboundedColumn.definition.MadeFor .teradata :=
  ⟨.text "NUMBER", [], rfl⟩

theorem showsText_longRow :
    ShowsText longRow "DecimalTotalDigits" (String.ofList (signed true longDigits)) :=
  ⟨_, rfl, Value.pads_text _⟩

theorem encodes_longRow : Encodes (digitLimit + 1) longRow "N" .digits unboundedColumn where
  listed := rfl
  code := ⟨_, rfl, Value.pads_text "N"⟩
  name := ⟨_, rfl, Value.pads_text "c"⟩
  nullable := ⟨_, rfl, Value.pads_text "Y"⟩
  default := rfl
  length := by
    have hwrites : WritesInt (String.ofList (signed true longDigits)).toList
        (-(digitsValue longDigits : Int)) longDigits.length := by
      rw [String.toList_ofList]
      exact .mk true longDigits_ne_nil isDigit_of_mem_longDigits
    have hnegative : -(digitsValue longDigits : Int) < 0 := by
      have hpos := digitsValue_longDigits_pos
      omega
    refine .unbounded (Or.inr ⟨_, hnegative, .decimal showsText_longRow hwrites ?_⟩)
    rw [length_longDigits]

theorem unreadable_longRow : Unreadable longRow "DecimalTotalDigits" := by
  have hbare : Bare (String.ofList (signed true longDigits)).toList := by
    rw [String.toList_ofList]
    exact bare_signed isDigit_of_mem_longDigits
  have hfield := trimmedField_of_showsText showsText_longRow hbare
  have hlong : Value.toInteger (.text (String.ofList (signed true longDigits))) =
      .error (.numeral (.tooLongToRead longDigits.length)) := by
    rw [Value.toInteger, readInt_of_signed String.toList_ofList longDigits_ne_nil
      isDigit_of_mem_longDigits, length_longDigits, if_pos (by omega)]
    rfl
  refine ⟨?_, ?_, ?_⟩
  · rintro (hnull | hempty)
    · rw [hfield] at hnull
      cases hnull
    · have hmalformed : Value.toInteger (.text "") = .error (.numeral (.malformed 10 "")) := rfl
      rw [hfield] at hempty
      rw [hempty, hmalformed] at hlong
      cases hlong
  · rintro ⟨negative, hinfinite⟩
    rw [hfield] at hinfinite
    cases hinfinite
  · intro n hn
    rw [Holds, hfield, hlong] at hn
    cases hn

theorem ofRow_longRow : Column.ofRow .teradata longRow = .error (.definition
    (.catalogNotInteger "DecimalTotalDigits" (trimmedField longRow "DecimalTotalDigits"))) := by
  have hscalar : ScalarRow longRow := by
    intro field hfield
    simp only [longRow, List.mem_cons, List.not_mem_nil, or_false] at hfield
    rcases hfield with rfl | rfl | rfl | rfl | rfl <;> trivial
  have hinteger := integer_of_unreadable hscalar unreadable_longRow
  have hcode : HasCode longRow "N" "NUMBER" .digits := ⟨rfl, rfl⟩
  rw [Column.ofRow, teradataColumn_of_code hcode, teradataLength_of_error .totalDigits hinteger]
  rfl

/-- Not every row that encodes a column is decoded to it. -/
theorem not_every_encoding_decoded : ¬ ∀ (limit : Nat) (row : Record) (code : String)
    (source : LengthSource) (c : Column), c.definition.MadeFor .teradata → Bare c.name.toList →
      Encodes limit row code source c → Column.ofRow .teradata row = .ok c := by
  intro h
  have hdecoded := h _ _ _ _ _ madeFor_unboundedColumn (by decide) encodes_longRow
  rw [ofRow_longRow] at hdecoded
  cases hdecoded

end WarehouseSchema.Teradata
