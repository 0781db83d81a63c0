import WarehouseSchema.Proofs.Column.Collection
import WarehouseSchema.Proofs.Csv.Kind
import WarehouseSchema.Proofs.Datatype.LengthBounds
import WarehouseSchema.Proofs.Definition.Acceptance
import WarehouseSchema.Proofs.Definition.Canonical

/-!
The column that the values of a sample ask for. Whatever the base type, the warehouse has a type for it and the
definition is made. Main statement: a column of texts gets a length that its type takes, which no text exceeds
that the type could hold, and which is no larger than a text of the sample or the bounds of the type ask for.
-/

namespace WarehouseSchema

open Text Number Csv

namespace Definition

/-- A definition is made for each base type, with a length that the type takes or without one. -/
theorem ofBasetype_eq (e : Engine) (b : Basetype) (nullable : Bool) {length : Option String}
    (h : ∀ s, length = some s → s ≠ "" ∧ Bare s.toList ∧
      (e.lengthRule (e.typeOf b)).faultOf s = .ok none) :
    ofBasetype e b (.bool nullable) (optionValue length) =
      .ok ⟨e, e.typeOf b, length, nullable, none, none⟩ := by
  let d : Definition := ⟨e, e.typeOf b, length, nullable, none, none⟩
  have hd : d.Canonical := by
    refine ⟨e.typeOf_mem_types b, ?_, fun s hs => (h s hs).2.2, fun c hc => absurd hc (by simp [d])⟩
    intro s hs
    obtain ⟨hne, hbare, _⟩ := h s hs
    exact ⟨hne, hbare⟩
  refine hd.make_eq (normalizeType_of_mem hd.type_mem) ?_ hd.normalizeLength_eq rfl rfl rfl
  have hall : ∀ e ∈ Engine.all, ∀ name ∈ ["nullable", "length"], name ∈ e.options := by decide
  intro o ho
  simp only [List.mem_cons, List.not_mem_nil, or_false] at ho
  apply hall e (Engine.mem_all e)
  rcases ho with rfl | rfl <;> simp

end Definition

namespace Engine

/-- The documented sizes of texts: octets of UTF-8 on Redshift, characters elsewhere. -/
def documentedSize : Engine → String → Nat
  | .redshift, s => s.utf8ByteSize
  | .snowflake, s | .teradata, s => s.length

theorem sizeOf_eq_documentedSize (e : Engine) : e.sizeOf = e.documentedSize := by
  cases e <;> rfl

/-- A length for texts in a type that takes lengths within bounds: no text is longer that the type could hold,
and the length is asked for by a text or by the bounds. -/
structure FitsTexts (e : Engine) (values : List String) (lo hi n : Nat) : Prop where
  lo_le : lo ≤ n
  le_hi : n ≤ hi
  holds : ∀ s ∈ values, e.documentedSize s ≤ hi → e.documentedSize s ≤ n
  needed : (∃ s ∈ values, e.documentedSize s = n) ∨ n = lo ∨
    n = hi ∧ ∃ s ∈ values, hi < e.documentedSize s

/-- The bounds of a warehouse's type for texts, far below the numbers that are too long to be read. -/
theorem exists_textBounds (e : Engine) : ∃ lo hi : Nat,
    e.lengthRule (e.typeOf .string) = .integer lo hi ∧ lo ≤ hi ∧ hi < 10 ^ 9 := by
  cases e with
  | redshift => exact ⟨1, 65535, by decide, by decide, by decide⟩
  | snowflake => exact ⟨1, 16777216, by decide, by decide, by decide⟩
  | teradata => exact ⟨1, 64000, by decide, by decide, by decide⟩

/-- The greatest size among texts, moved into the bounds of their type. -/
theorem exists_lengthFor (e : Engine) {values : List String} {lo hi : Nat} (h : values ≠ [])
    (hrule : e.lengthRule (e.typeOf .string) = .integer lo hi) (hle : lo ≤ hi) :
    ∃ n : Nat, e.lengthFor values = n ∧ e.FitsTexts values lo hi n := by
  obtain ⟨longest, hlongest⟩ : ∃ longest, (values.map e.documentedSize).max? = some longest :=
    Option.ne_none_iff_exists'.mp (by simpa [List.max?_eq_none_iff] using h)
  have hfold : (values.map e.sizeOf).foldl max 0 = longest := by
    rw [sizeOf_eq_documentedSize, List.foldl_max, hlongest]
    exact Nat.zero_max longest
  obtain ⟨hmem, hgreatest⟩ := List.max?_eq_some_iff.mp hlongest
  obtain ⟨s, hs, hsize⟩ := List.mem_map.mp hmem
  have hmost : ∀ t ∈ values, e.documentedSize t ≤ longest := fun t ht => hgreatest _ (List.mem_map_of_mem ht)
  refine ⟨max lo (min longest hi), ?_, ⟨le_max_left _ _, max_le hle (min_le_right _ _), ?_, ?_⟩⟩
  · rw [lengthFor, hfold, hrule]
    push_cast
    rfl
  · intro t ht hfits
    have := hmost t ht
    omega
  · rcases Nat.lt_or_ge hi longest with hbeyond | hwithin
    · exact Or.inr (Or.inr ⟨by omega, s, hs, by omega⟩)
    · rcases Nat.lt_or_ge longest lo with hshort | hlong
      · exact Or.inr (Or.inl (by omega))
      · exact Or.inl ⟨s, hs, by omega⟩

/-- The length of a column, given to texts only. -/
def inferredLength (e : Engine) (b : Basetype) (values : List String) : Option String :=
  if b = .string && values ≠ [] then some (intText (e.lengthFor values)) else none

theorem inferredLength_accepted {e : Engine} {b : Basetype} {values : List String} {s : String}
    (h : e.inferredLength b values = some s) :
    s ≠ "" ∧ Bare s.toList ∧ (e.lengthRule (e.typeOf b)).faultOf s = .ok none := by
  unfold inferredLength at h
  split at h
  · rename_i htexts
    simp only [Bool.and_eq_true, decide_eq_true_eq] at htexts
    obtain ⟨rfl, hne⟩ := htexts
    obtain ⟨lo, hi, hrule, hle, hmax⟩ := e.exists_textBounds
    obtain ⟨n, hn, hfits⟩ := e.exists_lengthFor hne hrule hle
    rw [hn] at h
    obtain rfl : natText n = s := Option.some.inj h
    have hdigits : (natText n).length ≤ 9 :=
      (Nat.length_repr_le_iff (by decide)).mpr (lt_of_le_of_lt hfits.le_hi hmax)
    have hshort : (natText n).length ≤ digitLimit := le_trans hdigits (by decide)
    refine ⟨natText_ne_empty n, bare_intText n, ?_⟩
    rw [hrule]
    exact faultOf_natText (by exact_mod_cast hfits.lo_le) (by exact_mod_cast hfits.le_hi) hshort
  · exact absurd h (by simp)

end Engine

namespace Column

variable {probe : DateProbe}

/-- The definition for values of a base type. -/
def definitionFor (e : Engine) (b : Basetype) (c : SampleColumn) : Definition :=
  ⟨e, e.typeOf b, e.inferredLength b c.present, c.hasMissing, none, none⟩

theorem ofSample_eq {e : Engine} {c : SampleColumn} {b : Basetype} (hb : c.basetype probe = .ok b) :
    ofSample probe e c = make e (.text c.name) (definitionFor e b c) := by
  have hlength : (if b = .string && c.present ≠ [] then
      Value.text (intText (e.lengthFor c.present)) else .null) =
        Definition.optionValue (e.inferredLength b c.present) := by
    unfold Engine.inferredLength
    split <;> rfl
  have haccepted := fun s => @Engine.inferredLength_accepted e b c.present s
  have hdefinition := Definition.ofBasetype_eq e b c.hasMissing haccepted
  unfold ofSample
  rw [hb]
  simp only [hlength, hdefinition, ok_bind]
  rfl

theorem ofSample_of_error {e : Engine} {c : SampleColumn} {fault : Fault}
    (hb : c.basetype probe = .error fault) : ofSample probe e c = .error fault := by
  unfold ofSample
  rw [hb]
  rfl

theorem ofSample_eq_ok_iff {e : Engine} {c : SampleColumn} {column : Column} :
    ofSample probe e c = .ok column ↔ ∃ b, c.basetype probe = .ok b ∧ column.name = c.name ∧
      column.definition = definitionFor e b c := by
  cases hb : c.basetype probe with
  | ok b =>
    rw [ofSample_eq hb, make_eq_ok_iff, Value.text.injEq]
    simp only [Except.ok.injEq, exists_eq_left']
    constructor
    · rintro ⟨hname, hdefinition, _⟩
      exact ⟨hname.symm, hdefinition⟩
    · rintro ⟨hname, hdefinition⟩
      exact ⟨hname.symm, hdefinition, rfl⟩
  | error fault =>
    rw [ofSample_of_error hb]
    simp

/-- A column is made of a sample under a name unless something ends its inference, and then with the fault of
that. -/
theorem ofSample_eq_error_iff (e : Engine) {c : SampleColumn} {fault : Fault} (hname : c.name ≠ "") :
    ofSample probe e c = .error fault ↔ c.Ends probe fault := by
  rw [← SampleColumn.basetype_eq_error_iff]
  cases hb : c.basetype probe with
  | ok b =>
    have hmade : ofSample probe e c = .ok ⟨c.name, definitionFor e b c, hname⟩ :=
      ofSample_eq_ok_iff.mpr ⟨b, hb, rfl, rfl⟩
    rw [hmade]
    simp
  | error fault' => rw [ofSample_of_error hb, Except.error.injEq, Except.error.injEq]

theorem exists_ofSample (e : Engine) {c : SampleColumn} (hname : c.name ≠ "")
    (h : ∀ fault, ¬ c.Ends probe fault) : ∃ column, ofSample probe e c = .ok column := by
  cases hmade : ofSample probe e c with
  | ok column => exact ⟨column, rfl⟩
  | error fault => exact absurd ((ofSample_eq_error_iff e hname).mp hmade) (h fault)

end Column

end WarehouseSchema
