import WarehouseSchema.Proofs.Datatype.LengthGrammar
import WarehouseSchema.Proofs.Definition.Checks
import WarehouseSchema.Proofs.Text.Decimal

/-!
Which type names and options make a definition. `Definition.Acceptable` says it by the documented
tables and the grammar of lengths, `Definition.Stores` says what is stored then. Main statement:
a definition is made exactly of what is acceptable and has a default that is not nested too deeply, and
stores the normalized values.
-/

namespace WarehouseSchema

open Text Number

/-- The documented length rules, row by row; every other type takes no length. -/
def documentedRules : List (Engine × List String × LengthRule) :=
  [(.redshift, ["DECIMAL", "NUMERIC"], .numeric 37),
   (.redshift, ["VARCHAR", "CHARACTER VARYING", "NVARCHAR", "TEXT"], .integer 1 65535),
   (.redshift, ["CHAR", "CHARACTER", "NCHAR", "BPCHAR"], .integer 1 4096),
   (.redshift, ["TIMESTAMP", "TIMESTAMP WITHOUT TIME ZONE", "TIMESTAMPTZ",
     "TIMESTAMP WITH TIME ZONE"], .integer 0 9),
   (.snowflake, ["NUMBER", "DECIMAL", "NUMERIC"], .numeric 38),
   (.snowflake, ["VARCHAR", "CHAR", "CHARACTER", "STRING", "TEXT"], .integer 1 16777216),
   (.snowflake, ["BINARY", "VARBINARY"], .integer 1 8388608),
   (.snowflake, ["TIME", "DATETIME", "TIMESTAMP", "TIMESTAMP_NTZ", "TIMESTAMP_LTZ",
     "TIMESTAMP_TZ"], .integer 0 9),
   (.teradata, ["DECIMAL", "DEC", "NUMERIC", "NUMBER"], .numeric 38),
   (.teradata, ["CHAR", "CHARACTER", "VARCHAR", "CHARACTER VARYING", "CHAR VARYING", "BYTE",
     "VARBYTE"], .integer 1 64000),
   (.teradata, ["BLOB", "CLOB", "CHARACTER LARGE OBJECT", "BINARY LARGE OBJECT"],
     .integer 1 2097088000),
   (.teradata, ["TIME", "TIME WITH TIME ZONE", "TIMESTAMP", "TIMESTAMP WITH TIME ZONE"],
     .integer 0 6)]

def Engine.documentedRule (e : Engine) (type : String) : LengthRule :=
  ((documentedRules.find? fun row => row.1 == e && row.2.1.contains type).map (·.2.2)).getD .none

theorem lengthRule_eq_documentedRule {e : Engine} {type : String} (h : type ∈ e.types) :
    e.lengthRule type = e.documentedRule type := by
  have hall : ∀ e ∈ Engine.all, ∀ type ∈ e.types, e.lengthRule type = e.documentedRule type := by
    decide +kernel
  exact hall e (Engine.mem_all e) type h

theorem mem_codecs_iff {e : Engine} {codec : String} {basetypes : List Basetype} :
    (codec, basetypes) ∈ e.codecs ↔ e.codecs.lookup codec = some basetypes := by
  constructor
  · intro h
    have hall : ∀ e ∈ Engine.all, ∀ c ∈ e.codecs, e.codecs.lookup c.1 = some c.2 := by
      decide +kernel
    exact hall e (Engine.mem_all e) _ h
  · exact mem_of_lookup

/-- The text of a length, before anything is asked of it. -/
inductive LengthText : Value → String → Prop where
  | integer (n : Int) : LengthText (.int n) (intText n)
  | text (s : String) : LengthText (.text s) (trim s)

/-- The options that fit a type of a warehouse. -/
structure Engine.Fits (e : Engine) (type : String) (options : Record) : Prop where
  options_known : ∀ o ∈ options, o.1 ∈ e.options
  length_allowed : options.get "length" = .null ∨ ∃ s, LengthText (options.get "length") s ∧
    (s = "" ∨ (e.documentedRule type).Allows s.toList)
  nullable_boolean : options.find? "nullable" = none ∨
    ∃ b, options.find? "nullable" = some (.bool b)
  compression_fits : options.get "compression" = .null ∨
    ∃ s, (options.get "compression").display = .ok s ∧
      (upper (trim s) = "" ∨ ∃ basetypes, (upper (trim s), basetypes) ∈ e.codecs ∧
        e.basetype type ∈ basetypes)

namespace Definition

/-- The type names and options of which a definition can be made. -/
def Acceptable (e : Engine) (type : Value) (options : Record) : Prop :=
  ∃ s, type = .text s ∧ upper (squeeze s) ∈ e.types ∧ e.Fits (upper (squeeze s)) options

/-- The normalized values of a type name and options. -/
structure Stores (e : Engine) (type : Value) (options : Record) (d : Definition) : Prop where
  engine : d.engine = e
  type : ∃ s, type = .text s ∧ d.type = upper (squeeze s)
  length : (options.get "length" = .null ∧ d.length = none) ∨
    ∃ s, LengthText (options.get "length") s ∧ d.length = if s = "" then none else some s
  nullable : (options.find? "nullable" = none ∧ d.nullable = true) ∨
    options.find? "nullable" = some (.bool d.nullable)
  default : (options.get "default" = .null ∧ d.default = none) ∨
    options.get "default" ≠ .null ∧
      ∃ s, (options.get "default").display = .ok s ∧ d.default = some s
  compression : (options.get "compression" = .null ∧ d.compression = none) ∨
    options.get "compression" ≠ .null ∧ ∃ s, (options.get "compression").display = .ok s ∧
      d.compression = if upper (trim s) = "" then none else some (upper (trim s))

theorem get_withinLimit {options : Record} (h : ∀ o ∈ options, o.2.WithinLimit) (name : String) :
    (options.get name).WithinLimit := by
  unfold Record.get Record.find?
  cases hl : options.lookup name with
  | none => simp [Value.WithinLimit]
  | some v =>
    exact h (name, v) (mem_of_lookup hl)

variable {e : Engine} {type : Value} {options : Record} {d : Definition}

theorem length_stored (h : make e type options = .ok d) :
    (options.get "length" = .null ∧ d.length = none) ∨
      ∃ s, LengthText (options.get "length") s ∧ d.length = if s = "" then none else some s := by
  obtain ⟨_, _, _, hl, _⟩ := make_eq_ok_iff.mp h
  rcases normalizeLength_eq_ok_iff.mp hl with hl | ⟨n, hn, s, hs, hd⟩ | ⟨s, hs, hd⟩
  · exact Or.inl hl
  · have he := Value.eq_of_writeInt hs
    subst s
    refine Or.inr ⟨intText n, hn ▸ .integer n, ?_⟩
    rw [if_neg (intText_ne_empty n)]
    exact hd
  · exact Or.inr ⟨trim s, hs ▸ .text s, hd⟩

theorem stores_of_make (h : make e type options = .ok d) : d.Stores e type options := by
  obtain ⟨he, ht, _, _, _, hn, hd, hc⟩ := make_eq_ok_iff.mp h
  obtain ⟨s, hs, hts, _⟩ := Engine.normalizeType_eq_ok_iff.mp ht
  refine ⟨he, ⟨s, hs, hts⟩, length_stored h, normalizeNullable_eq_ok_iff.mp hn, ?_, ?_⟩
  · by_cases hv : options.get "default" = .null
    · rw [hv, normalizeDefault_null] at hd
      exact Or.inl ⟨hv, (Except.ok.inj hd).symm⟩
    · exact Or.inr ⟨hv, (normalizeDefault_eq_ok_iff hv).mp hd⟩
  · by_cases hv : options.get "compression" = .null
    · rw [hv, Engine.normalizeCompression_null] at hc
      exact Or.inl ⟨hv, (Except.ok.inj hc).symm⟩
    · obtain ⟨s, hs, hc⟩ := (Engine.normalizeCompression_eq_ok_iff hv).mp hc
      refine Or.inr ⟨hv, s, hs, ?_⟩
      rcases hc with ⟨he, hc⟩ | ⟨he, hc, _⟩
      · rw [if_pos he, hc]
      · rw [if_neg he, hc]

theorem acceptable_of_make (h : make e type options = .ok d) : Acceptable e type options := by
  obtain ⟨_, ht, ho, _, hr, hn, _, hc⟩ := make_eq_ok_iff.mp h
  obtain ⟨s, hs, hts, hm⟩ := Engine.normalizeType_eq_ok_iff.mp ht
  rw [lengthRule_eq_documentedRule hm] at hr
  rw [hts] at hm hr hc
  refine ⟨s, hs, hm, Engine.checkOptions_eq_ok_iff.mp ho, ?_, ?_, ?_⟩
  · rcases length_stored h with ⟨hv, _⟩ | ⟨t, hv, hl⟩
    · exact Or.inl hv
    · by_cases he : t = ""
      · exact Or.inr ⟨t, hv, Or.inl he⟩
      · rw [if_neg he] at hl
        exact Or.inr ⟨t, hv, Or.inr (allows_of_faultOf (checkLength_eq_ok_iff.mp hr t hl))⟩
  · rcases normalizeNullable_eq_ok_iff.mp hn with ⟨hv, _⟩ | hv
    · exact Or.inl hv
    · exact Or.inr ⟨_, hv⟩
  · by_cases hv : options.get "compression" = .null
    · exact Or.inl hv
    · obtain ⟨t, ht, hc⟩ := (Engine.normalizeCompression_eq_ok_iff hv).mp hc
      refine Or.inr ⟨t, ht, ?_⟩
      rcases hc with ⟨he, _⟩ | ⟨_, _, basetypes, hl, hb⟩
      · exact Or.inl he
      · exact Or.inr ⟨basetypes, mem_codecs_iff.mpr hl, hb⟩

theorem normalizeLength_of_lengthText {v : Value} {s : String} (hv : v.Writable)
    (h : LengthText v s) : normalizeLength v = .ok (if s = "" then none else some s) := by
  cases h with
  | integer n =>
    have hshort := Value.writable_int_iff.mp hv
    rw [if_neg (intText_ne_empty n)]
    exact normalizeLength_eq_ok_iff.mpr
      (Or.inr (Or.inl ⟨n, rfl, intText n, Value.writeInt_of_le hshort, rfl⟩))
  | text s => rfl

theorem shortRuns_of_lengthText {v : Value} {s : String} {rule : LengthRule} (hv : v.WithinLimit)
    (h : LengthText v s) (ha : rule.Allows s.toList) : ShortRuns s.toList := by
  cases h with
  | integer n =>
    rw [Value.WithinLimit] at hv
    cases n with
    | ofNat n =>
      intro run hr _
      exact Nat.le_trans hr.length_le hv
    | negSucc n =>
      -- No rule allows a minus.
      have hm : '-' ∈ (intText (.negSucc n)).toList := by simp [intText]
      rcases ha.isBlank_or_isDigit_or_comma hm with hc | hc | hc
      · exact absurd hc (by decide)
      · exact absurd hc (by decide)
      · exact absurd hc (by decide)
  | text s =>
    rw [Value.WithinLimit] at hv
    rw [toList_trim]
    obtain ⟨before, after, _, _, hs⟩ := exists_trimChars s.toList
    exact hv.infix ⟨before, after, by rw [List.append_assoc]; exact hs.symm⟩

/-- A length that the rule of a type allows passes, unless it has too many digits. -/
theorem exists_length {type : String} {v : Value} (ht : type ∈ e.types) (hw : v.Writable)
    (hshort : ∀ s, LengthText v s → (e.documentedRule type).Allows s.toList →
      ¬ (e.documentedRule type).TooLong s.toList)
    (h : v = .null ∨ ∃ s, LengthText v s ∧ (s = "" ∨ (e.documentedRule type).Allows s.toList)) :
    ∃ length, normalizeLength v = .ok length ∧
      checkLength (e.lengthRule type) type length = .ok () := by
  rcases h with rfl | ⟨s, hs, hl⟩
  · exact ⟨none, rfl, rfl⟩
  · refine ⟨_, normalizeLength_of_lengthText hw hs, checkLength_eq_ok_iff.mpr ?_⟩
    intro t hst
    split at hst
    · exact absurd hst (by simp)
    · rename_i hne
      rw [← Option.some.inj hst, lengthRule_eq_documentedRule ht]
      have ha := hl.resolve_left hne
      exact faultOf_of_allows (hshort s hs ha) ha

theorem exists_nullable {type : String} (h : e.Fits type options) :
    ∃ b, normalizeNullable (options.find? "nullable") = .ok b := by
  rcases h.nullable_boolean with hv | ⟨b, hv⟩
  · exact ⟨true, normalizeNullable_eq_ok_iff.mpr (Or.inl ⟨hv, rfl⟩)⟩
  · exact ⟨b, normalizeNullable_eq_ok_iff.mpr (Or.inr hv)⟩

theorem exists_default (hw : (options.get "default").Writable) :
    ∃ default, normalizeDefault (options.get "default") = .ok default := by
  by_cases hv : options.get "default" = .null
  · rw [hv]
    exact ⟨none, rfl⟩
  · obtain ⟨s, hs⟩ := Value.exists_display_iff.mpr hw
    exact ⟨some s, (normalizeDefault_eq_ok_iff hv).mpr ⟨s, hs, rfl⟩⟩

theorem exists_compression {type : String} (h : e.Fits type options) :
    ∃ c, e.normalizeCompression type (options.get "compression") = .ok c := by
  by_cases hv : options.get "compression" = .null
  · rw [hv]
    exact ⟨none, rfl⟩
  · obtain ⟨s, hs, hc⟩ := h.compression_fits.resolve_left hv
    by_cases he : upper (trim s) = ""
    · exact ⟨none, (Engine.normalizeCompression_eq_ok_iff hv).mpr ⟨s, hs, Or.inl ⟨he, rfl⟩⟩⟩
    · obtain ⟨basetypes, hb, hm⟩ := hc.resolve_left he
      exact ⟨some (upper (trim s)), (Engine.normalizeCompression_eq_ok_iff hv).mpr
        ⟨s, hs, Or.inr ⟨he, rfl, basetypes, mem_codecs_iff.mp hb, hm⟩⟩⟩

theorem depth_of_lengthText {v : Value} (h : v = .null ∨ ∃ s, LengthText v s) : v.depth = 1 := by
  rcases h with rfl | ⟨s, hs⟩
  · rw [Value.depth]
  · cases hs with
    | integer n => rw [Value.depth]
    | text s => rw [Value.depth]

theorem make_of_acceptable (hw : ∀ o ∈ options, o.2.WithinLimit)
    (h : Acceptable e type options) (hdepth : (options.get "default").depth ≤ Value.depthLimit) :
    ∃ d, make e type options = .ok d := by
  obtain ⟨s, rfl, ht, hf⟩ := h
  have hlimit := get_withinLimit hw
  have hflat : (options.get "length").depth = 1 :=
    depth_of_lengthText (hf.length_allowed.imp_right fun ⟨s, hs, _⟩ => ⟨s, hs⟩)
  have hlength : (options.get "length").Writable :=
    (Value.writable_iff_of_withinLimit (hlimit "length")).mpr (by rw [hflat]; decide)
  obtain ⟨length, hl, hr⟩ := exists_length ht hlength
    (fun s hs ha => (shortRuns_of_lengthText (hlimit "length") hs ha).not_tooLong) hf.length_allowed
  obtain ⟨nullable, hn⟩ := exists_nullable hf
  obtain ⟨default, hd⟩ :=
    exists_default ((Value.writable_iff_of_withinLimit (hlimit "default")).mpr hdepth)
  obtain ⟨compression, hc⟩ := exists_compression hf
  refine ⟨⟨e, upper (squeeze s), length, nullable, default, compression⟩, make_eq_ok_iff.mpr ?_⟩
  exact ⟨rfl, Engine.normalizeType_eq_ok_iff.mpr ⟨s, rfl, rfl, ht⟩,
    Engine.checkOptions_eq_ok_iff.mpr hf.options_known, hl, hr, hn, hd, hc⟩

/-- A default that is stored has been written, and so is not nested too deeply. -/
theorem depth_of_make (hw : ∀ o ∈ options, o.2.WithinLimit) (h : make e type options = .ok d) :
    (options.get "default").depth ≤ Value.depthLimit := by
  obtain ⟨_, _, _, _, _, _, hd, _⟩ := make_eq_ok_iff.mp h
  by_cases hv : options.get "default" = .null
  · rw [hv, Value.depth]
    decide
  · obtain ⟨s, hs, _⟩ := (normalizeDefault_eq_ok_iff hv).mp hd
    have hwritable := Value.exists_display_iff.mp ⟨s, hs⟩
    exact (Value.writable_iff_of_withinLimit (get_withinLimit hw "default")).mp hwritable

/-- A definition is made exactly of an acceptable type name with acceptable options, the default of which is
not nested too deeply, and stores their normalized values. -/
theorem make_accepts_exactly (hw : ∀ o ∈ options, o.2.WithinLimit) :
    ((∃ d, make e type options = .ok d) ↔
        Acceptable e type options ∧ (options.get "default").depth ≤ Value.depthLimit) ∧
      ∀ d, make e type options = .ok d → d.Stores e type options := by
  constructor
  · constructor
    · rintro ⟨d, h⟩
      exact ⟨acceptable_of_make h, depth_of_make hw h⟩
    · rintro ⟨h, hdepth⟩
      exact make_of_acceptable hw h hdepth
  · intro d h
    exact stores_of_make h

/-- Blanks around precision and scale, and zeros before them, do not count. -/
theorem make_padded_decimal :
    (∀ o ∈ [("length", Value.text " 010 , 2"), ("nullable", .bool false)], o.2.WithinLimit) ∧
      ∃ d, make .redshift (.text " decimal")
        [("length", .text " 010 , 2"), ("nullable", .bool false)] = .ok d := by
  have hw : ∀ o ∈ [("length", Value.text " 010 , 2"), ("nullable", .bool false)],
      o.2.WithinLimit := by
    intro o ho
    simp only [List.mem_cons, List.not_mem_nil, or_false] at ho
    rcases ho with rfl | rfl
    · rw [Value.WithinLimit]
      exact ShortRuns.of_length_le (by decide)
    · trivial
  have ht : upper (squeeze " decimal") = "DECIMAL" := by decide +kernel
  have hp : Writes ['0', '1', '0', ' '] 10 :=
    ⟨[], ['0', '1', '0'], [' '], rfl, by simp, by simp; decide, by simp, by simp; decide, rfl⟩
  have hs : Writes [' ', '2'] 2 :=
    ⟨[' '], ['2'], [], rfl, by simp; decide, by simp, by simp, by simp; decide, rfl⟩
  refine ⟨hw, (make_accepts_exactly hw).1.mpr ⟨⟨" decimal", rfl, ?_, ?_⟩, by decide⟩⟩
  · rw [ht]
    decide
  · rw [ht]
    refine ⟨by decide, Or.inr ⟨_, .text _, Or.inr ?_⟩, Or.inr ⟨false, rfl⟩, Or.inl rfl⟩
    exact .precisionAndScale hp hs (by decide) (by decide) (by decide)

def nestedList : Nat → Value
  | 0 => .list []
  | n + 1 => .list [nestedList n]

theorem exists_items_nestedList (n : Nat) : ∃ items, nestedList n = .list items := by
  cases n with
  | zero => exact ⟨_, rfl⟩
  | succ n => exact ⟨_, rfl⟩

theorem withinLimit_nestedList (n : Nat) : (nestedList n).WithinLimit := by
  induction n with
  | zero => simp [nestedList, Value.WithinLimit, Value.AllWithinLimit]
  | succ n ih => simpa [nestedList, Value.WithinLimit, Value.AllWithinLimit] using ih

theorem literalWithin_nestedList (n : Nat) :
    (nestedList n).literalWithin n = .error .tooDeep := by
  induction n with
  | zero => rfl
  | succ n ih =>
    rw [nestedList, Value.literalWithin, Value.literalsWithin, ih]
    rfl

theorem normalizeDefault_of_list {v : Value} (h : ∃ items, v = .list items) :
    normalizeDefault v = do return some (← Fault.ofText v.literal) := by
  obtain ⟨items, rfl⟩ := h
  rfl

theorem make_of_default_fault {v : Value} {fault : Fault} (h : normalizeDefault v = .error fault) :
    make .redshift (.text "INT") [("default", v)] = .error fault := by
  have htype : Engine.redshift.normalizeType (.text "INT") = .ok "INT" := rfl
  have hoptions : Engine.redshift.checkOptions [("default", v)] = .ok () := rfl
  have hdefault : Record.get [("default", v)] "default" = v := rfl
  rw [make, htype, ok_bind, hoptions, ok_bind, hdefault, h]
  rfl

/-- A default that is nested too deeply is refused although everything about it is acceptable. -/
theorem make_nestedDefault :
    (∀ o ∈ [("default", nestedList Value.depthLimit)], o.2.WithinLimit) ∧
      Acceptable .redshift (.text "INT") [("default", nestedList Value.depthLimit)] ∧
      make .redshift (.text "INT") [("default", nestedList Value.depthLimit)] =
        .error .recursion := by
  have htype : upper (squeeze "INT") = "INT" := by decide +kernel
  have hdefault : normalizeDefault (nestedList Value.depthLimit) = .error .recursion := by
    have hliteral := literalWithin_nestedList Value.depthLimit
    rw [normalizeDefault_of_list (exists_items_nestedList _), Value.literal, hliteral]
    rfl
  refine ⟨?_, ⟨"INT", rfl, ?_, ?_⟩, make_of_default_fault hdefault⟩
  · intro o ho
    obtain rfl := List.mem_singleton.mp ho
    exact withinLimit_nestedList _
  · rw [htype]
    decide
  · exact ⟨by decide, Or.inl rfl, Or.inl rfl, Or.inl rfl⟩

end Definition

end WarehouseSchema
