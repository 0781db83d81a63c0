import WarehouseSchema.Proofs.Definition.Canonical

/-!
Definitions that are reached step by step. A step makes a definition anew, evolves the one at hand, or
takes its record to a warehouse; a step that is refused changes nothing. Main statement: a definition
that was reached is made again from its record, and another warehouse either refuses the record with
a definition fault or makes the same definition of it, without compression.
-/

namespace WarehouseSchema

open Text Number

/-! ## Lengths under other rules -/

theorem readNatural_of_comma {cs : List Char} (h : ',' ∈ cs) : readNatural cs = .ok none := by
  obtain ⟨before, after, hb, ha, he⟩ := exists_trimChars cs
  have hcomma : isBlank ',' = false := by decide
  -- A comma is no blank, so that it is still there without the blanks at the ends.
  have hmem : ',' ∈ trimChars cs := by
    rw [he, List.mem_append, List.mem_append] at h
    rcases h with h | h | h
    · have hblank := hb _ h
      rw [hcomma] at hblank
      exact absurd hblank (by simp)
    · exact h
    · have hblank := ha _ h
      rw [hcomma] at hblank
      exact absurd hblank (by simp)
  have hdigits : ¬ (trimChars cs ≠ [] ∧ (trimChars cs).all isDigit = true) := by
    rintro ⟨_, hall⟩
    have hdigit := List.all_eq_true.mp hall _ hmem
    exact absurd hdigit (by decide)
  unfold readNatural
  simp only
  rw [if_neg hdigits]
  rfl

theorem readable_of_whole {cs : List Char} {s : String} {n : Nat} (hs : s.toList = cs)
    (hread : readNatural cs = .ok (some n)) (rule : LengthRule) :
    ∃ r, rule.faultOf s = .ok r := by
  have hcomma : ',' ∉ cs := (writes_of_readNatural hread).comma_not_mem
  unfold LengthRule.faultOf
  cases rule with
  | none => exact ⟨_, rfl⟩
  | integer lo hi =>
    simp only [hs, hread, ok_bind]
    exact ⟨_, rfl⟩
  | numeric hi =>
    simp only [hs, splitOn_of_not_mem hcomma, hread, ok_bind]
    exact ⟨_, rfl⟩

theorem readable_of_pair {ps ss : List Char} {s : String} {p q : Option Nat}
    (hs : splitOn ',' s.toList = [ps, ss]) (hp : readNatural ps = .ok p)
    (hq : readNatural ss = .ok q) (rule : LengthRule) : ∃ r, rule.faultOf s = .ok r := by
  have hcomma : ',' ∈ s.toList := by
    rw [eq_of_splitOn_pair hs]
    simp
  unfold LengthRule.faultOf
  cases rule with
  | none => exact ⟨_, rfl⟩
  | integer lo hi =>
    simp only [readNatural_of_comma hcomma, ok_bind]
    exact ⟨_, rfl⟩
  | numeric hi =>
    simp only [hs, hp, hq, ok_bind]
    exact ⟨_, rfl⟩

/-- A length that one rule allows has no digits that are too many to be read under another. -/
theorem readable_of_faultless {rule : LengthRule} {s : String} (h : rule.faultOf s = .ok none)
    (rule' : LengthRule) : ∃ r, rule'.faultOf s = .ok r := by
  cases rule with
  | none => simp [LengthRule.faultOf, pure_eq_ok_iff] at h
  | integer lo hi =>
    obtain ⟨r, hread, h⟩ := bind_eq_ok_iff.mp h
    cases r with
    | none => simp [pure_eq_ok_iff] at h
    | some n => exact readable_of_whole rfl hread rule'
  | numeric hi =>
    unfold LengthRule.faultOf at h
    simp only at h
    split at h
    · rename_i p hp
      obtain ⟨r, hread, h⟩ := bind_eq_ok_iff.mp h
      obtain ⟨m, n, rfl, _⟩ := checkNumeric_eq_none_iff.mp (pure_eq_ok_iff.mp h)
      exact readable_of_whole (eq_of_splitOn_singleton hp) hread rule'
    · rename_i p q hpq
      obtain ⟨m, hm, h⟩ := bind_eq_ok_iff.mp h
      obtain ⟨n, hn, _⟩ := bind_eq_ok_iff.mp h
      exact readable_of_pair hpq hm hn rule'
    · simp [pure_eq_ok_iff] at h

theorem definite_checkLength {rule : LengthRule} {type : String} {length : Option String}
    (h : ∀ s, length = some s → ∃ r, rule.faultOf s = .ok r) :
    Definite (checkLength rule type length) := by
  cases length with
  | none => exact .ok ()
  | some s =>
    obtain ⟨r, hr⟩ := h s rfl
    simp only [checkLength, hr]
    cases r with
    | none => exact .ok ()
    | some fault =>
      change Definite (DefinitionFault.badLength type s fault).raise
      exact DefinitionFault.definite_raise rfl

theorem Engine.definite_normalizeType (e : Engine) (s : String) :
    Definite (e.normalizeType (.text s)) := by
  unfold normalizeType
  simp only
  split
  · exact .ok _
  · exact DefinitionFault.definite_raise rfl

theorem Engine.definite_checkOptions (e : Engine) (options : Record) :
    Definite (e.checkOptions options) := by
  unfold checkOptions
  split
  · exact .ok ()
  · exact DefinitionFault.definite_raise rfl

namespace Definition

variable {d : Definition}

/-! ## The record of a canonical definition in a warehouse -/

theorem ofRecord_toRecord (d : Definition) (e : Engine) :
    ofRecord e d.toRecord = make e (.text d.type) d.optionRecord := by
  have herase : d.toRecord.erase "type" = d.optionRecord := by
    unfold toRecord optionRecord Record.erase
    cases d.engine.hasCompression <;> simp
  have hfind : d.toRecord.find? "type" = some (.text d.type) := rfl
  unfold ofRecord
  rw [hfind, herase]

theorem Canonical.ofRecord_eq (h : d.Canonical) : ofRecord d.engine d.toRecord = .ok d := by
  rw [ofRecord_toRecord]
  exact h.make_optionRecord

theorem Canonical.evolve_nil (h : d.Canonical) : d.evolve [] = .ok d := h.make_optionRecord

theorem eq_redshift_of_hasCompression {e : Engine} (h : e.hasCompression = true) :
    e = .redshift := by
  cases e with
  | redshift => rfl
  | snowflake => exact absurd h (by decide)
  | teradata => exact absurd h (by decide)

/-- A warehouse that takes the options of another one's definition is asked for no compression, because
only Redshift knows that option. -/
theorem get_compression_of_ne {e : Engine} (hne : e ≠ d.engine)
    (ho : e.checkOptions d.optionRecord = .ok ()) : d.optionRecord.get "compression" = .null := by
  rw [get_compression_optionRecord]
  split
  · rename_i hc
    have hmem : ("compression", optionValue d.compression) ∈ d.optionRecord := by
      simp [optionRecord, hc]
    have hknown : e.hasCompression = true :=
      List.contains_iff_mem.mpr (Engine.checkOptions_eq_ok_iff.mp ho _ hmem)
    rw [eq_redshift_of_hasCompression hc, eq_redshift_of_hasCompression hknown] at hne
    exact absurd rfl hne
  · rfl

theorem Canonical.definite_make (h : d.Canonical) {e : Engine} (hne : e ≠ d.engine) :
    Definite (make e (.text d.type) d.optionRecord) := by
  unfold make
  refine (e.definite_normalizeType d.type).bind fun type _ => ?_
  refine (e.definite_checkOptions d.optionRecord).bind fun _ hoptions => ?_
  rw [get_length_optionRecord, h.normalizeLength_eq, ok_bind]
  have hlength : ∀ s, d.length = some s → ∃ r, (e.lengthRule type).faultOf s = .ok r :=
    fun s hs => readable_of_faultless (h.length_faultless s hs) _
  refine (definite_checkLength hlength).bind fun _ _ => ?_
  rw [find?_nullable_optionRecord, get_default_optionRecord, normalizeDefault_optionValue,
    get_compression_of_ne hne hoptions]
  exact .ok _

/-- The definition has the same type, length, nullability and default as another, and no
compression. -/
structure Carries (d' d : Definition) : Prop where
  type : d'.type = d.type
  length : d'.length = d.length
  nullable : d'.nullable = d.nullable
  default : d'.default = d.default
  compression : d'.compression = none

theorem Canonical.carries (h : d.Canonical) {e : Engine} {d' : Definition} (hne : e ≠ d.engine)
    (hmake : make e (.text d.type) d.optionRecord = .ok d') : d'.Carries d := by
  obtain ⟨_, htype, hoptions, hlength, _, hnullable, hdefault, hcompression⟩ :=
    make_eq_ok_iff.mp hmake
  rw [get_length_optionRecord, h.normalizeLength_eq] at hlength
  rw [find?_nullable_optionRecord] at hnullable
  rw [get_default_optionRecord, normalizeDefault_optionValue] at hdefault
  rw [get_compression_of_ne hne hoptions, Engine.normalizeCompression_null] at hcompression
  -- The name of a catalogue type is its own normal form, whatever the catalogue.
  have hname : upper (squeeze d.type) = d.type := by
    obtain ⟨s, hs, hnormal, _⟩ :=
      Engine.normalizeType_eq_ok_iff.mp (normalizeType_of_mem h.type_mem)
    cases hs
    exact hnormal.symm
  obtain ⟨s, hs, hnormal, _⟩ := Engine.normalizeType_eq_ok_iff.mp htype
  cases hs
  refine ⟨hnormal.trans hname, (Except.ok.inj hlength).symm, ?_, (Except.ok.inj hdefault).symm,
    (Except.ok.inj hcompression).symm⟩
  exact (Except.ok.inj hnullable).symm

/-! ## Steps -/

inductive Step where
  | make (e : Engine) (type : Value) (options : Record)
  | evolve (options : Record)
  | ofRecord (e : Engine) (r : Record)
  | ofBasetype (e : Engine) (name nullable length : Value)
  | carry (e : Engine)

namespace Step

def next? (at_ : Option Definition) : Step → Option Definition
  | make e type options => (Definition.make e type options).toOption
  | evolve options => at_.bind fun d => (d.evolve options).toOption
  | ofRecord e r => (Definition.ofRecord e r).toOption
  | ofBasetype e name nullable length => (ofBasetypeName e name nullable length).toOption
  | carry e => at_.bind fun d => (Definition.ofRecord e d.toRecord).toOption

/-- The definition at hand after a step; one that is refused changes nothing. -/
def after (at_ : Option Definition) (s : Step) : Option Definition := (s.next? at_).or at_

end Step

/-- The definition that steps lead to, if any of them was taken. -/
def reached (steps : List Step) : Option Definition := steps.foldl Step.after none

theorem canonical_of_toOption {e : Engine} {type : Value} {options : Record}
    (h : (make e type options).toOption = some d) : d.Canonical := by
  cases hmake : make e type options with
  | error fault => simp [hmake, Except.toOption] at h
  | ok d' =>
    have hd : d' = d := by simpa [hmake, Except.toOption] using h
    exact hd ▸ canonical_of_make hmake

theorem canonical_of_ofRecord {e : Engine} {r : Record}
    (h : (ofRecord e r).toOption = some d) : d.Canonical := by
  unfold ofRecord at h
  split at h
  · simp [Except.toOption] at h
  · exact canonical_of_toOption h

theorem canonical_of_ofBasetypeName {e : Engine} {name nullable length : Value}
    (h : (ofBasetypeName e name nullable length).toOption = some d) : d.Canonical := by
  unfold ofBasetypeName at h
  split at h
  · exact canonical_of_toOption h
  · simp [Except.toOption] at h

/-- Whatever a step gives is canonical, wherever it starts. -/
theorem Step.canonical_of_next {s : Step} {at_ : Option Definition} (h : s.next? at_ = some d) :
    d.Canonical := by
  cases s with
  | make e type options => exact canonical_of_toOption h
  | evolve options =>
    obtain ⟨d', _, h⟩ := Option.bind_eq_some_iff.mp h
    exact canonical_of_toOption h
  | ofRecord e r => exact canonical_of_ofRecord h
  | ofBasetype e name nullable length => exact canonical_of_ofBasetypeName h
  | carry e =>
    obtain ⟨d', _, h⟩ := Option.bind_eq_some_iff.mp h
    exact canonical_of_ofRecord h

theorem Step.canonical_after {s : Step} {at_ : Option Definition}
    (hat : ∀ d, at_ = some d → d.Canonical) (h : s.after at_ = some d) : d.Canonical := by
  rcases Option.or_eq_some_iff.mp h with h | ⟨_, h⟩
  · exact canonical_of_next h
  · exact hat d h

theorem canonical_of_reached {steps : List Step} (h : reached steps = some d) : d.Canonical := by
  induction steps using List.reverseRecOn generalizing d with
  | nil => simp [reached] at h
  | append_singleton steps s ih =>
    unfold reached at h
    rw [List.foldl_append, List.foldl_cons, List.foldl_nil] at h
    exact Step.canonical_after (fun d hd => ih hd) h

/-- A definition that was reached is made again from its record, evolves to itself, and is either
refused by another warehouse with a definition fault or carried over without compression. -/
theorem reached_stable {steps : List Step} (h : reached steps = some d) :
    ofRecord d.engine d.toRecord = .ok d ∧ d.evolve [] = .ok d ∧
      ∀ e, e ≠ d.engine → (∃ fault, ofRecord e d.toRecord = .error (.definition fault)) ∨
        ∃ d', ofRecord e d.toRecord = .ok d' ∧ d'.engine = e ∧ d'.Carries d := by
  have hcanonical : d.Canonical := canonical_of_reached h
  refine ⟨hcanonical.ofRecord_eq, hcanonical.evolve_nil, ?_⟩
  intro e hne
  rw [ofRecord_toRecord]
  rcases hcanonical.definite_make hne with ⟨d', hmake⟩ | hfault
  · exact .inr ⟨d', hmake, (make_eq_ok_iff.mp hmake).1, hcanonical.carries hne hmake⟩
  · exact .inl hfault

/-- A type name that Redshift does not know and an option that Teradata does not know change nothing; the
definition moves to Redshift under another name, and with a codec it does not move on to Snowflake. -/
theorem reached_moved_text :
    let steps : List Step :=
      [.make .teradata (.text " char  varying ") [("length", .text " 010 "), ("default", .int 0)],
       .carry .redshift, .evolve [("compression", .text "LZO")],
       .ofRecord .teradata [("type", .text "character varying"), ("length", .text " 010 "),
         ("nullable", .bool false), ("default", .int 0)],
       .carry .redshift, .evolve [("compression", .text " lzo ")], .carry .snowflake]
    let d : Definition := ⟨.redshift, "CHARACTER VARYING", some "010", false, some "0", some "LZO"⟩
    reached steps = some d ∧ ofRecord .redshift d.toRecord = .ok d ∧
      ∃ fault, ofRecord .snowflake d.toRecord = .error (.definition fault) := by
  intro steps d
  have hsteps : reached steps = some d := by decide +kernel
  obtain ⟨hsame, _, hothers⟩ := reached_stable hsteps
  refine ⟨hsteps, hsame, ?_⟩
  rcases hothers .snowflake (by decide) with hfault | ⟨d', hcarried, _⟩
  · exact hfault
  · have hrefused : (ofRecord .snowflake d.toRecord).toOption = none := by decide +kernel
    rw [hcarried] at hrefused
    exact absurd hrefused (by simp [Except.toOption])

end Definition

end WarehouseSchema
