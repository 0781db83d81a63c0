import WarehouseSchema.Proofs.Column.Described
import WarehouseSchema.Proofs.Datatype.LengthBounds
import WarehouseSchema.Proofs.Number.Decimal

/-!
What a catalog writes into the fields of its rows: texts with blanks around them, and integers as they are
or in base ten. The lengths of canonical definitions hold no number that is too long to be written.
-/

namespace WarehouseSchema

open Text Number

/-- The value is this text with blanks around it. -/
def Value.Pads (v : Value) (s : String) : Prop :=
  ∃ before after, v = .text (String.ofList (before ++ (s.toList ++ after))) ∧
    (∀ c ∈ before, isBlank c = true) ∧ ∀ c ∈ after, isBlank c = true

theorem Value.pads_text (s : String) : (Value.text s).Pads s :=
  ⟨[], [], by simp, by simp, by simp⟩

theorem Value.Pads.trimmed_eq {v : Value} {s : String} (h : v.Pads s) (hbare : Bare s.toList) :
    v.trimmed = .text s := by
  obtain ⟨before, after, rfl, hbefore, hafter⟩ := h
  rw [trimmed, trim, String.toList_ofList, trimChars_append hbefore hafter hbare,
    String.ofList_toList]

namespace Catalog

section
variable {row : Record} {field : String}

def ShowsText (row : Record) (field s : String) : Prop :=
  ∃ v, row.findAnyCase? field = some v ∧ v.Pads s

/-- The field holds this integer, or its digits in base ten, at most `limit` of them, with blanks
around. -/
inductive ShowsInt (limit : Nat) (row : Record) (field : String) (n : Int) : Prop where
  | integer (h : row.findAnyCase? field = some (.int n))
  | decimal {s : String} {count : Nat} (h : ShowsText row field s) (hs : WritesInt s.toList n count)
      (hcount : count ≤ limit)

theorem trimmedField_of_showsText {s : String} (h : ShowsText row field s) (hbare : Bare s.toList) :
    trimmedField row field = .text s := by
  obtain ⟨v, hv, hpads⟩ := h
  rw [trimmedField, Record.getAnyCase_of_find _ hv, hpads.trimmed_eq hbare]

/-- A field that says whether nulls are allowed. -/
theorem nullable_of_showsText {yes no : String} {b : Bool} (hne : no ≠ yes)
    (hyes : Bare yes.toList) (hno : Bare no.toList)
    (h : ShowsText row field (if b then yes else no)) : nullable row field yes = b := by
  obtain ⟨v, hv, hpads⟩ := h
  unfold nullable
  rw [Record.getAnyCase_of_find _ hv]
  cases b with
  | true =>
    rw [hpads.trimmed_eq hyes]
    exact Value.isText_iff.mpr rfl
  | false =>
    rw [hpads.trimmed_eq hno]
    rw [Bool.eq_false_iff]
    intro htext
    exact hne (Value.text.inj (Value.isText_iff.mp htext))

theorem holds_of_showsInt {n : Int} (h : ShowsInt digitLimit row field n) : Holds row field n := by
  unfold Holds
  cases h with
  | integer h =>
    rw [trimmedField, Record.getAnyCase_of_find _ h]
    rfl
  | decimal h hs hcount =>
    rw [trimmedField_of_showsText h hs.bare, Value.toInteger, readInt_of_writesInt hs hcount]
    rfl

end

end Catalog

/-! ## Lengths in base ten -/

namespace Definition

variable {d : Definition}

theorem Canonical.not_tooLong (h : d.Canonical) {s : String} (hs : d.length = some s) :
    ¬ (d.engine.lengthRule d.type).TooLong s.toList := by
  intro hlong
  obtain ⟨fault, hfault⟩ := faultOf_of_tooLong hlong
  rw [h.length_faultless s hs] at hfault
  cases hfault

theorem Canonical.takes_length (h : d.Canonical) {s : String} (hs : d.length = some s) :
    d.engine.lengthRule d.type ≠ .none := by
  intro hnone
  have hfault := h.length_faultless s hs
  rw [hnone] at hfault
  cases hfault

theorem Canonical.writeInt_length (h : d.Canonical) {n : Nat} (hn : d.length = some (natText n)) :
    writeInt n = .ok (natText n) := by
  apply Value.writeInt_of_le
  show (natText n).length ≤ digitLimit
  by_contra hlong
  have hnumber := longNumber_natText (Nat.lt_of_not_le hlong)
  apply h.not_tooLong hn
  cases hrule : d.engine.lengthRule d.type with
  | none => exact absurd hrule (h.takes_length hn)
  | integer lo hi => exact .integer hnumber
  | numeric hi => exact .precision hnumber

theorem Canonical.normalizeLength_int (h : d.Canonical) {n : Nat} (hn : d.length = some (natText n)) :
    normalizeLength (.int n) = .ok (some (natText n)) := by
  unfold normalizeLength
  dsimp only
  rw [h.writeInt_length hn]
  rfl

theorem Canonical.normalizeLength_text (h : d.Canonical) {s : String} (hs : d.length = some s) :
    normalizeLength (.text s) = .ok (some s) := by
  have hnormal := h.normalizeLength_eq
  rwa [hs] at hnormal

theorem Canonical.writeInt_precision (h : d.Canonical) {p s : Nat}
    (hps : d.length = some (natText p ++ "," ++ natText s)) :
    writeInt p = .ok (natText p) ∧ writeInt s = .ok (natText s) := by
  have hlist : (natText p ++ "," ++ natText s).toList = (natText p).toList ++ ',' :: (natText s).toList := by
    simp
  have hnot := h.not_tooLong hps
  have hallowed := h.length_allowed hps
  rw [hlist] at hnot hallowed
  have hnumeric : ∃ hi, d.engine.lengthRule d.type = .numeric hi := by
    generalize d.engine.lengthRule d.type = rule at hallowed
    generalize hcs : (natText p).toList ++ ',' :: (natText s).toList = cs at hallowed
    cases hallowed with
    | integer hw _ _ =>
      subst hcs
      exact absurd (List.mem_append_right _ List.mem_cons_self) hw.comma_not_mem
    | precision _ _ _ => exact ⟨_, rfl⟩
    | precisionAndScale _ _ _ _ _ => exact ⟨_, rfl⟩
  obtain ⟨hi, hrule⟩ := hnumeric
  rw [hrule] at hnot
  have hshort : ∀ n, LongNumber (natText n).toList → n = p ∨ n = s → False := by
    intro n hlong hn
    apply hnot
    apply LengthRule.TooLong.precisionAndScale (writes_natText p).comma_not_mem
      (writes_natText s).comma_not_mem
    rcases hn with rfl | rfl
    · exact Or.inl hlong
    · exact Or.inr hlong
  constructor
  · apply Value.writeInt_of_le
    show (natText p).length ≤ digitLimit
    by_contra hlong
    exact hshort p (longNumber_natText (Nat.lt_of_not_le hlong)) (Or.inl rfl)
  · apply Value.writeInt_of_le
    show (natText s).length ≤ digitLimit
    by_contra hlong
    exact hshort s (longNumber_natText (Nat.lt_of_not_le hlong)) (Or.inr rfl)

end Definition

end WarehouseSchema
