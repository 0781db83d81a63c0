import WarehouseSchema.Proofs.Datatype.LengthGrammar
import WarehouseSchema.Proofs.Definition.Checks
import WarehouseSchema.Proofs.Text.Decimal

/-!
What every definition that was made has in common. Main statement: a definition is made again from
its own type and options, so that nothing of it is changed by a second normalization.
-/

namespace WarehouseSchema

open Text Number

theorem normalizeType_of_mem {e : Engine} {type : String} (h : type ∈ e.types) :
    e.normalizeType (.text type) = .ok type := by
  have hall : ∀ e ∈ Engine.all, ∀ type ∈ e.types, type = upper (squeeze type) := by
    decide +kernel
  exact Engine.normalizeType_eq_ok_iff.mpr ⟨type, rfl, hall e (Engine.mem_all e) type h, h⟩

theorem upper_trim_codec {e : Engine} {codec : String} {basetypes : List Basetype}
    (h : e.codecs.lookup codec = some basetypes) : upper (trim codec) = codec ∧ codec ≠ "" := by
  have hall : ∀ e ∈ Engine.all, ∀ c ∈ e.codecs, upper (trim c.1) = c.1 ∧ c.1 ≠ "" := by
    decide +kernel
  exact hall e (Engine.mem_all e) (codec, basetypes) (mem_of_lookup h)

theorem normalizeDefault_optionValue (default : Option String) :
    normalizeDefault (Definition.optionValue default) = .ok default := by
  cases default <;> rfl

namespace Definition

/-- The definition was made for a warehouse. -/
def MadeFor (e : Engine) (d : Definition) : Prop :=
  ∃ type options, make e type options = .ok d

/-- The form of a definition that was made: type, length and codec are normalized and in order. -/
structure Canonical (d : Definition) : Prop where
  type_mem : d.type ∈ d.engine.types
  length_trimmed : ∀ s, d.length = some s → s ≠ "" ∧ Bare s.toList
  length_faultless : ∀ s, d.length = some s →
    (d.engine.lengthRule d.type).faultOf s = .ok none
  compression_fits : ∀ c, d.compression = some c →
    ∃ basetypes, d.engine.codecs.lookup c = some basetypes ∧ d.basetype ∈ basetypes

variable {e : Engine} {d : Definition}

theorem canonical_of_make {type : Value} {options : Record} (h : make e type options = .ok d) :
    d.Canonical := by
  obtain ⟨rfl, ht, _, hl, hr, _, _, hc⟩ := make_eq_ok_iff.mp h
  obtain ⟨_, _, _, hm⟩ := Engine.normalizeType_eq_ok_iff.mp ht
  refine ⟨hm, ?_, checkLength_eq_ok_iff.mp hr, ?_⟩
  · intro s hs
    rcases normalizeLength_eq_ok_iff.mp hl with ⟨_, hn⟩ | ⟨n, _, t, ht, hn⟩ | ⟨t, _, hn⟩
    · rw [hs] at hn
      exact absurd hn (by simp)
    · rw [hs] at hn
      rw [Option.some.inj hn, Value.eq_of_writeInt ht]
      exact ⟨intText_ne_empty n, bare_intText n⟩
    · rw [hs] at hn
      split at hn
      · exact absurd hn (by simp)
      · rename_i hne
        rw [Option.some.inj hn]
        refine ⟨hne, ?_⟩
        rw [toList_trim]
        exact bare_trimChars t.toList
  · intro c hs
    by_cases hv : options.get "compression" = .null
    · rw [hv, Engine.normalizeCompression_null, hs] at hc
      exact absurd hc (by simp)
    · obtain ⟨t, _, hc⟩ := (Engine.normalizeCompression_eq_ok_iff hv).mp hc
      rw [hs] at hc
      rcases hc with ⟨_, hc⟩ | ⟨_, hc, hb⟩
      · exact absurd hc (by simp)
      · rw [Option.some.inj hc]
        exact hb

theorem MadeFor.canonical (h : d.MadeFor e) : d.Canonical := by
  obtain ⟨type, options, h⟩ := h
  exact canonical_of_make h

theorem MadeFor.engine_eq (h : d.MadeFor e) : d.engine = e := by
  obtain ⟨type, options, h⟩ := h
  exact (make_eq_ok_iff.mp h).1

/-- The length of a canonical definition is a text that the rule of its type allows. -/
theorem Canonical.length_allowed (h : d.Canonical) {s : String} (hs : d.length = some s) :
    (d.engine.lengthRule d.type).Allows s.toList :=
  allows_of_faultOf (h.length_faultless s hs)

theorem Canonical.compression_eq_none (h : d.Canonical) (he : d.engine.hasCompression = false) :
    d.compression = none := by
  cases hc : d.compression with
  | none => rfl
  | some c =>
    obtain ⟨basetypes, hl, _⟩ := h.compression_fits c hc
    cases hd : d.engine with
    | redshift => simp [hd, Engine.hasCompression, Engine.options] at he
    | snowflake => simp [hd, Engine.codecs] at hl
    | teradata => simp [hd, Engine.codecs] at hl

theorem Canonical.normalizeLength_eq (h : d.Canonical) :
    normalizeLength (optionValue d.length) = .ok d.length := by
  cases hl : d.length with
  | none => rfl
  | some s =>
    obtain ⟨hne, hb⟩ := h.length_trimmed s hl
    apply normalizeLength_eq_ok_iff.mpr
    refine Or.inr (Or.inr ⟨s, rfl, ?_⟩)
    rw [trim_of_bare hb, if_neg hne]

/-- A canonical definition's codec is found in every spelling of it. -/
theorem Canonical.normalizeCompression_of_upper (h : d.Canonical) {codec s : String}
    (hc : d.compression = some codec) (hs : upper (trim s) = codec) :
    d.engine.normalizeCompression d.type (.text s) = .ok d.compression := by
  obtain ⟨basetypes, hl, hb⟩ := h.compression_fits codec hc
  apply (Engine.normalizeCompression_eq_ok_iff (by simp)).mpr
  refine ⟨s, rfl, Or.inr ?_⟩
  rw [hs]
  exact ⟨(upper_trim_codec hl).2, hc, basetypes, hl, hb⟩

theorem Canonical.normalizeCompression_eq (h : d.Canonical) :
    d.engine.normalizeCompression d.type (optionValue d.compression) = .ok d.compression := by
  cases hc : d.compression with
  | none => rfl
  | some c =>
    obtain ⟨basetypes, hl, _⟩ := h.compression_fits c hc
    have hnormal := h.normalizeCompression_of_upper hc (upper_trim_codec hl).1
    rwa [hc] at hnormal

theorem get_length_optionRecord (d : Definition) :
    d.optionRecord.get "length" = optionValue d.length := by
  simp [optionRecord, Record.get, Record.find?]

theorem find?_nullable_optionRecord (d : Definition) :
    d.optionRecord.find? "nullable" = some (.bool d.nullable) := by
  simp [optionRecord, Record.find?, List.lookup_cons]

theorem get_default_optionRecord (d : Definition) :
    d.optionRecord.get "default" = optionValue d.default := by
  simp [optionRecord, Record.get, Record.find?, List.lookup_cons]

theorem get_compression_optionRecord (d : Definition) : d.optionRecord.get "compression" =
    if d.engine.hasCompression then optionValue d.compression else .null := by
  cases h : d.engine.hasCompression with
  | true => simp [optionRecord, Record.get, Record.find?, List.lookup_cons, h]
  | false => simp [optionRecord, Record.get, Record.find?, List.lookup_cons, h]

theorem optionRecord_known (d : Definition) : ∀ o ∈ d.optionRecord, o.1 ∈ d.engine.options := by
  intro o ho
  rcases List.mem_append.mp ho with ho | ho
  · have hall : ∀ e ∈ Engine.all, ∀ name ∈ ["length", "nullable", "default"], name ∈ e.options := by
      decide
    apply hall d.engine (Engine.mem_all _)
    simp only [List.mem_cons, List.not_mem_nil, or_false] at ho
    rcases ho with rfl | rfl | rfl <;> simp
  · split at ho
    · rename_i hc
      rw [List.mem_singleton.mp ho]
      exact List.contains_iff_mem.mp hc
    · exact absurd ho (by simp)

/-- A canonical definition is made of every spelling of its type with options that stand for its own. -/
theorem Canonical.make_eq (h : d.Canonical) {type : Value} {options : Record}
    (htype : d.engine.normalizeType type = .ok d.type)
    (hknown : ∀ o ∈ options, o.1 ∈ d.engine.options)
    (hlength : normalizeLength (options.get "length") = .ok d.length)
    (hnullable : options.find? "nullable" = some (.bool d.nullable))
    (hdefault : options.get "default" = optionValue d.default)
    (hcompression : d.engine.normalizeCompression d.type (options.get "compression") =
      .ok d.compression) : make d.engine type options = .ok d := by
  apply make_eq_ok_iff.mpr
  refine ⟨rfl, htype, Engine.checkOptions_eq_ok_iff.mpr hknown, hlength,
    checkLength_eq_ok_iff.mpr h.length_faultless, ?_, ?_, hcompression⟩
  · rw [hnullable]
    rfl
  · rw [hdefault]
    exact normalizeDefault_optionValue d.default

/-- A canonical definition is made again from its type and its options. -/
theorem Canonical.make_optionRecord (h : d.Canonical) :
    make d.engine (.text d.type) d.optionRecord = .ok d := by
  apply h.make_eq (normalizeType_of_mem h.type_mem) (optionRecord_known d) ?_
    (find?_nullable_optionRecord d) (get_default_optionRecord d)
  · rw [get_compression_optionRecord]
    cases he : d.engine.hasCompression with
    | true => exact h.normalizeCompression_eq
    | false =>
      rw [h.compression_eq_none he]
      rfl
  · rw [get_length_optionRecord]
    exact h.normalizeLength_eq

end Definition

end WarehouseSchema
