import WarehouseSchema.Proofs.Definition.Canonical
import WarehouseSchema.Proofs.Value.Record

/-!
Definitions with some of their options replaced. Each option is read by itself, with nothing but the type to
decide whether it fits, so that a definition evolves field by field; `EvolvesTo` says what each field then
holds. Main statement: evolving touches no field that is not named, the last option of a name is the one that
counts, and options of different names can be given together, or one after the other in either order.
-/

namespace WarehouseSchema

open Text Number

/-- What a field holds after evolving: what is read from its option, or what it held when there is none. -/
inductive Replaced {α : Type} (read : Value → Except Fault α) (held : α) : Option Value → α → Prop where
  | kept : Replaced read held none held
  | given {v : Value} {a : α} (h : read v = .ok a) : Replaced read held (some v) a

namespace Replaced

variable {α : Type} {read : Value → Except Fault α} {held a b : α} {o o' : Option Value}

/-- Where the value that a field writes for itself is read as what the field holds, that value may stand for
an option that is not given. -/
theorem iff_of_own {own : Value} (hown : read own = .ok held) :
    Replaced read held o a ↔ read (o.getD own) = .ok a := by
  constructor
  · intro h
    cases h with
    | kept => exact hown
    | given h => exact h
  · intro h
    cases o with
    | none =>
      obtain rfl := Except.ok.inj (hown.symm.trans h)
      exact .kept
    | some v => exact .given h

theorem trans (h : Replaced read held o a) (h' : Replaced read a o' b) :
    Replaced read held (o'.or o) b := by
  cases h' with
  | kept => exact h
  | given h' => exact .given h'

/-- When at most one of two options is given, it may be given first or last. -/
theorem split (h : Replaced read held (o'.or o) b) (hone : o = none ∨ o' = none) :
    ∃ a, Replaced read held o a ∧ Replaced read a o' b := by
  rcases hone with rfl | rfl
  · rw [Option.or_none] at h
    exact ⟨held, .kept, h⟩
  · exact ⟨b, h, .kept⟩

theorem join (h : Replaced read held o a) (h' : Replaced read held o' b) (hone : o = none ∨ o' = none) :
    ∃ c, Replaced read held (o'.or o) c := by
  rcases hone with rfl | rfl
  · exact ⟨b, by rwa [Option.or_none]⟩
  · exact ⟨a, h⟩

end Replaced

theorem Record.get_merge (r other : Record) (name : String) :
    (r.merge other).get name = (other.last? name).getD (r.get name) := by
  unfold get
  rw [find?_merge]
  cases other.last? name <;> rfl

namespace Definition

/-- The length that a value gives to a type. -/
def readLength (e : Engine) (type : String) (v : Value) : Except Fault (Option String) := do
  let length ← normalizeLength v
  checkLength (e.lengthRule type) type length
  return length

theorem readLength_eq_ok_iff {e : Engine} {type : String} {v : Value} {length : Option String} :
    readLength e type v = .ok length ↔
      normalizeLength v = .ok length ∧ checkLength (e.lengthRule type) type length = .ok () := by
  unfold readLength
  simp only [bind_eq_ok_iff, pure_eq_ok_iff]
  constructor
  · rintro ⟨_, hlength, _, hcheck, rfl⟩
    exact ⟨hlength, hcheck⟩
  · rintro ⟨hlength, hcheck⟩
    exact ⟨length, hlength, (), hcheck, rfl⟩

/-- The definition that another one becomes when options are replaced. -/
structure EvolvesTo (d : Definition) (options : Record) (d' : Definition) : Prop where
  engine : d'.engine = d.engine
  type : d'.type = d.type
  names_known : ∀ name ∈ options.names, name ∈ d.engine.options
  length : Replaced (readLength d.engine d.type) d.length (options.last? "length") d'.length
  nullable : Replaced (fun v => normalizeNullable (some v)) d.nullable (options.last? "nullable")
    d'.nullable
  default : Replaced normalizeDefault d.default (options.last? "default") d'.default
  compression : Replaced (d.engine.normalizeCompression d.type) d.compression
    (options.last? "compression") d'.compression

variable {d d' d₁ d₂ : Definition} {options a b : Record}

theorem Canonical.readLength_eq (h : d.Canonical) :
    readLength d.engine d.type (optionValue d.length) = .ok d.length :=
  readLength_eq_ok_iff.mpr ⟨h.normalizeLength_eq, checkLength_eq_ok_iff.mpr h.length_faultless⟩

theorem Canonical.normalizeCompression_own (h : d.Canonical) :
    d.engine.normalizeCompression d.type (d.optionRecord.get "compression") = .ok d.compression := by
  rw [get_compression_optionRecord]
  cases he : d.engine.hasCompression with
  | true => exact h.normalizeCompression_eq
  | false =>
    rw [h.compression_eq_none he]
    rfl

theorem checkOptions_merge : d.engine.checkOptions (d.optionRecord.merge options) = .ok () ↔
    ∀ name ∈ options.names, name ∈ d.engine.options := by
  have hnames : ∀ r : Record, (∀ o ∈ r, o.1 ∈ d.engine.options) ↔
      ∀ name ∈ r.names, name ∈ d.engine.options := fun r => List.forall_mem_map.symm
  rw [Engine.checkOptions_eq_ok_iff, hnames]
  constructor
  · intro h name hname
    exact h name (Record.mem_names_merge.mpr (Or.inr hname))
  · intro h name hname
    rcases Record.mem_names_merge.mp hname with hname | hname
    · exact (hnames _).mp (optionRecord_known d) name hname
    · exact h name hname

/-- A canonical definition evolves field by field. -/
theorem Canonical.evolve_eq_ok_iff (h : d.Canonical) :
    d.evolve options = .ok d' ↔ d.EvolvesTo options d' := by
  have htype : d.engine.normalizeType (.text d.type) = .ok d'.type ↔ d'.type = d.type := by
    rw [normalizeType_of_mem h.type_mem, Except.ok.injEq, eq_comm]
  have hfind : (d.optionRecord.merge options).find? "nullable" =
      some ((options.last? "nullable").getD (.bool d.nullable)) := by
    rw [Record.find?_merge, find?_nullable_optionRecord]
    cases options.last? "nullable" <;> rfl
  have hown : (fun v => normalizeNullable (some v)) (.bool d.nullable) = .ok d.nullable := rfl
  unfold evolve
  rw [make_eq_ok_iff, htype, checkOptions_merge, hfind, Record.get_merge, Record.get_merge,
    Record.get_merge, get_length_optionRecord, get_default_optionRecord]
  constructor
  · rintro ⟨hengine, htype, hknown, hlength, hcheck, hnullable, hdefault, hcompression⟩
    rw [htype] at hcheck hcompression
    exact ⟨hengine, htype, hknown,
      (Replaced.iff_of_own h.readLength_eq).mpr (readLength_eq_ok_iff.mpr ⟨hlength, hcheck⟩),
      (Replaced.iff_of_own hown).mpr hnullable,
      (Replaced.iff_of_own (normalizeDefault_optionValue d.default)).mpr hdefault,
      (Replaced.iff_of_own h.normalizeCompression_own).mpr hcompression⟩
  · intro hd
    obtain ⟨hlength, hcheck⟩ :=
      readLength_eq_ok_iff.mp ((Replaced.iff_of_own h.readLength_eq).mp hd.length)
    rw [hd.type]
    exact ⟨hd.engine, rfl, hd.names_known, hlength, hcheck, (Replaced.iff_of_own hown).mp hd.nullable,
      (Replaced.iff_of_own (normalizeDefault_optionValue d.default)).mp hd.default,
      (Replaced.iff_of_own h.normalizeCompression_own).mp hd.compression⟩

namespace EvolvesTo

/-- Options that are given one after the other may be given at once, the later ones on top. -/
theorem trans (h : d.EvolvesTo a d₁) (h' : d₁.EvolvesTo b d₂) : d.EvolvesTo (a.merge b) d₂ := by
  obtain ⟨hengine, htype, hknown, hlength, hnullable, hdefault, hcompression⟩ := h'
  rw [h.engine] at hengine hknown
  rw [h.engine, h.type] at hlength hcompression
  rw [h.type] at htype
  refine ⟨hengine, htype, ?_, ?_, ?_, ?_, ?_⟩
  · intro name hname
    rcases Record.mem_names_merge.mp hname with hname | hname
    · exact h.names_known name hname
    · exact hknown name hname
  · rw [Record.last?_merge]
    exact h.length.trans hlength
  · rw [Record.last?_merge]
    exact h.nullable.trans hnullable
  · rw [Record.last?_merge]
    exact h.default.trans hdefault
  · rw [Record.last?_merge]
    exact h.compression.trans hcompression

/-- Nothing but the names and the last value of each name matters. -/
theorem congr (hnames : ∀ name, name ∈ b.names ↔ name ∈ a.names)
    (hlast : ∀ name, b.last? name = a.last? name) (h : d.EvolvesTo a d') : d.EvolvesTo b d' := by
  obtain ⟨hengine, htype, hknown, hlength, hnullable, hdefault, hcompression⟩ := h
  refine ⟨hengine, htype, fun name hname => hknown name ((hnames name).mp hname), ?_, ?_, ?_, ?_⟩
  · rw [hlast]
    exact hlength
  · rw [hlast]
    exact hnullable
  · rw [hlast]
    exact hdefault
  · rw [hlast]
    exact hcompression

section
variable (hdisjoint : a.names.Disjoint b.names)
include hdisjoint

theorem last?_eq_none_or (name : String) : a.last? name = none ∨ b.last? name = none := by
  rw [Record.last?_eq_none_iff, Record.last?_eq_none_iff]
  by_cases ha : name ∈ a.names
  · exact Or.inr (hdisjoint ha)
  · exact Or.inl ha

theorem merge_comm (h : d.EvolvesTo (a.merge b) d') : d.EvolvesTo (b.merge a) d' := by
  refine h.congr ?_ ?_
  · intro name
    rw [Record.mem_names_merge, Record.mem_names_merge, or_comm]
  · intro name
    rw [Record.last?_merge, Record.last?_merge]
    rcases last?_eq_none_or hdisjoint name with hnone | hnone
    · rw [hnone, Option.none_or, Option.or_none]
    · rw [hnone, Option.none_or, Option.or_none]

/-- Options of different names may be given one after the other. -/
theorem split (h : d.EvolvesTo (a.merge b) d') : ∃ d₁, d.EvolvesTo a d₁ ∧ d₁.EvolvesTo b d' := by
  have hone := last?_eq_none_or hdisjoint
  obtain ⟨hengine, htype, hknown, hlength, hnullable, hdefault, hcompression⟩ := h
  rw [Record.last?_merge] at hlength hnullable hdefault hcompression
  obtain ⟨length, hlength₁, hlength₂⟩ := hlength.split (hone _)
  obtain ⟨nullable, hnullable₁, hnullable₂⟩ := hnullable.split (hone _)
  obtain ⟨default, hdefault₁, hdefault₂⟩ := hdefault.split (hone _)
  obtain ⟨compression, hcompression₁, hcompression₂⟩ := hcompression.split (hone _)
  have hknown₁ : ∀ name ∈ a.names, name ∈ d.engine.options :=
    fun name hname => hknown name (Record.mem_names_merge.mpr (Or.inl hname))
  have hknown₂ : ∀ name ∈ b.names, name ∈ d.engine.options :=
    fun name hname => hknown name (Record.mem_names_merge.mpr (Or.inr hname))
  exact ⟨⟨d.engine, d.type, length, nullable, default, compression⟩,
    ⟨rfl, rfl, hknown₁, hlength₁, hnullable₁, hdefault₁, hcompression₁⟩,
    ⟨hengine, htype, hknown₂, hlength₂, hnullable₂, hdefault₂, hcompression₂⟩⟩

/-- Options of different names that may each be given may be given together. -/
theorem join (h : d.EvolvesTo a d₁) (h' : d.EvolvesTo b d₂) : ∃ d', d.EvolvesTo (a.merge b) d' := by
  have hone := last?_eq_none_or hdisjoint
  obtain ⟨length, hlength⟩ := h.length.join h'.length (hone _)
  obtain ⟨nullable, hnullable⟩ := h.nullable.join h'.nullable (hone _)
  obtain ⟨default, hdefault⟩ := h.default.join h'.default (hone _)
  obtain ⟨compression, hcompression⟩ := h.compression.join h'.compression (hone _)
  rw [← Record.last?_merge] at hlength hnullable hdefault hcompression
  refine ⟨⟨d.engine, d.type, length, nullable, default, compression⟩, rfl, rfl, ?_, hlength, hnullable,
    hdefault, hcompression⟩
  intro name hname
  rcases Record.mem_names_merge.mp hname with hname | hname
  · exact h.names_known name hname
  · exact h'.names_known name hname

end

end EvolvesTo

/-- No field is changed but those that are named among the options. -/
structure KeepsUnnamed (d : Definition) (options : Record) (d' : Definition) : Prop where
  engine : d'.engine = d.engine
  type : d'.type = d.type
  length : "length" ∉ options.names → d'.length = d.length
  nullable : "nullable" ∉ options.names → d'.nullable = d.nullable
  default : "default" ∉ options.names → d'.default = d.default
  compression : "compression" ∉ options.names → d'.compression = d.compression

theorem EvolvesTo.keepsUnnamed (h : d.EvolvesTo options d') : d.KeepsUnnamed options d' := by
  have hkept : ∀ {α : Type} {read : Value → Except Fault α} {held after : α} {name : String},
      Replaced read held (options.last? name) after → name ∉ options.names → after = held := by
    intro α read held after name hreplaced hname
    rw [Record.last?_eq_none_iff.mpr hname] at hreplaced
    cases hreplaced
    rfl
  exact ⟨h.engine, h.type, hkept h.length, hkept h.nullable, hkept h.default, hkept h.compression⟩

/-- Two evolutions, one after the other, field by field. -/
theorem Canonical.evolve_evolve_eq_ok_iff (h : d.Canonical) :
    (d.evolve a >>= fun d₁ => d₁.evolve b) = .ok d' ↔ ∃ d₁, d.EvolvesTo a d₁ ∧ d₁.EvolvesTo b d' := by
  rw [bind_eq_ok_iff]
  constructor
  · rintro ⟨d₁, hfirst, hsecond⟩
    exact ⟨d₁, h.evolve_eq_ok_iff.mp hfirst, (canonical_of_make hfirst).evolve_eq_ok_iff.mp hsecond⟩
  · rintro ⟨d₁, hfirst, hsecond⟩
    have hmade := h.evolve_eq_ok_iff.mpr hfirst
    exact ⟨d₁, hmade, (canonical_of_make hmade).evolve_eq_ok_iff.mpr hsecond⟩

/-- A definition evolves as `EvolvesTo` says and keeps what is not named; what it evolves to is a value of its
own beside it. Of options that are given one after the other the last one of each name counts. With different
names it is all one whether they are given together or one after the other, and in which order; and two sets
of them may be given together exactly when each may be given alone. -/
theorem evolve_by_last_options {e : Engine} (h : d.MadeFor e) (a b : Record) :
    (∀ d', d.evolve a = .ok d' ↔ d.EvolvesTo a d') ∧
      (∀ d', d.evolve a = .ok d' → d.KeepsUnnamed a d') ∧
      (∀ d₁ d₂, d.evolve a = .ok d₁ → d₁.evolve b = .ok d₂ → d.evolve (a.merge b) = .ok d₂) ∧
      (a.names.Disjoint b.names →
        (∀ d', (d.evolve a >>= fun d₁ => d₁.evolve b) = .ok d' ↔ d.evolve (a.merge b) = .ok d') ∧
        (∀ d', (d.evolve b >>= fun d₂ => d₂.evolve a) = .ok d' ↔ d.evolve (a.merge b) = .ok d') ∧
        ((∃ d', d.evolve (a.merge b) = .ok d') ↔
          (∃ d₁, d.evolve a = .ok d₁) ∧ ∃ d₂, d.evolve b = .ok d₂)) := by
  have hd : d.Canonical := h.canonical
  have hlast : ∀ {a b : Record} {d₁ d₂ : Definition}, d.evolve a = .ok d₁ → d₁.evolve b = .ok d₂ →
      d.evolve (a.merge b) = .ok d₂ := by
    intro a b d₁ d₂ hfirst hsecond
    apply hd.evolve_eq_ok_iff.mpr
    exact (hd.evolve_eq_ok_iff.mp hfirst).trans ((canonical_of_make hfirst).evolve_eq_ok_iff.mp hsecond)
  refine ⟨fun d' => hd.evolve_eq_ok_iff, fun d' hmade => (hd.evolve_eq_ok_iff.mp hmade).keepsUnnamed,
    fun d₁ d₂ => hlast, ?_⟩
  intro hdisjoint
  have hsymm : b.names.Disjoint a.names := fun _ hb ha => hdisjoint ha hb
  simp only [hd.evolve_evolve_eq_ok_iff, hd.evolve_eq_ok_iff]
  refine ⟨?_, ?_, ?_⟩
  · intro d'
    constructor
    · rintro ⟨d₁, hfirst, hsecond⟩
      exact hfirst.trans hsecond
    · exact EvolvesTo.split hdisjoint
  · intro d'
    constructor
    · rintro ⟨d₂, hfirst, hsecond⟩
      exact EvolvesTo.merge_comm hsymm (hfirst.trans hsecond)
    · intro hboth
      exact EvolvesTo.split hsymm (EvolvesTo.merge_comm hdisjoint hboth)
  · constructor
    · rintro ⟨d', hboth⟩
      obtain ⟨d₁, hfirst, _⟩ := EvolvesTo.split hdisjoint hboth
      obtain ⟨d₂, hsecond, _⟩ := EvolvesTo.split hsymm (EvolvesTo.merge_comm hdisjoint hboth)
      exact ⟨⟨d₁, hfirst⟩, d₂, hsecond⟩
    · rintro ⟨⟨d₁, hfirst⟩, d₂, hsecond⟩
      exact EvolvesTo.join hdisjoint hfirst hsecond

def noteText : Definition := ⟨.redshift, "VARCHAR", some "10", true, some "n/a", some "ZSTD"⟩

/-- A length and a default are replaced, then the codec is taken away; in the other order, or all at once,
the same definition comes out, and a later length takes the place of the first one. -/
theorem evolve_noteText :
    let a : Record := [("length", .text " 020 "), ("default", .int 0)]
    let b : Record := [("compression", .text " ")]
    let d' : Definition := ⟨.redshift, "VARCHAR", some "020", true, some "0", none⟩
    a.names.Disjoint b.names ∧ noteText.evolve (a.merge b) = .ok d' ∧ noteText.KeepsUnnamed (a.merge b) d' ∧
      (noteText.evolve b >>= fun d₂ => d₂.evolve a) = .ok d' ∧
      noteText.evolve (a.merge [("length", .int 7)]) =
        .ok ⟨.redshift, "VARCHAR", some "7", true, some "0", some "ZSTD"⟩ := by
  intro a b d'
  have hmade : noteText.MadeFor .redshift :=
    ⟨.text "varchar", [("length", .int 10), ("default", .text "n/a"), ("compression", .text "zstd")],
      eq_ok_of_toOption (by decide +kernel)⟩
  have hapart : ∀ name ∈ a.names, name ∉ b.names := by decide
  have hdisjoint : a.names.Disjoint b.names := fun name ha hb => hapart name ha hb
  have hfirst : noteText.evolve a = .ok ⟨.redshift, "VARCHAR", some "020", true, some "0", some "ZSTD"⟩ :=
    eq_ok_of_toOption (by decide +kernel)
  obtain ⟨_, _, hlast, horders⟩ := evolve_by_last_options hmade a b
  obtain ⟨_, hswapped, _⟩ := horders hdisjoint
  have hboth : noteText.evolve (a.merge b) = .ok d' :=
    hlast _ _ hfirst (eq_ok_of_toOption (by decide +kernel))
  refine ⟨hdisjoint, hboth, ?_, (hswapped d').mpr hboth, ?_⟩
  · exact (evolve_by_last_options hmade (a.merge b) []).2.1 d' hboth
  · exact (evolve_by_last_options hmade a [("length", .int 7)]).2.2.1 _ _ hfirst
      (eq_ok_of_toOption (by decide +kernel))

end Definition

end WarehouseSchema
