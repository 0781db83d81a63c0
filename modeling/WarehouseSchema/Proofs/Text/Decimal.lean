import WarehouseSchema.Proofs.Text.Cutting
import WarehouseSchema.Text.Digit

/-!
The base-ten texts of numbers. They are not empty, hold no blanks, and natural numbers are written
with digits only, from which they are read back.
-/

namespace WarehouseSchema.Text

theorem isBlank_of_isDigit {c : Char} (h : isDigit c = true) : isBlank c = false := by
  simp only [isDigit, Bool.and_eq_true, decide_eq_true_eq, Char.le_def, UInt32.le_iff_toNat_le] at h
  have h0 : '0'.val.toNat = 48 := rfl
  have h9 : '9'.val.toNat = 57 := rfl
  have hn : c.toNat = c.val.toNat := rfl
  simp only [isBlank, Bool.or_eq_false_iff, Bool.and_eq_false_iff, decide_eq_false_iff_not,
    beq_eq_false_iff_ne]
  omega

theorem isDigit_of_mem_natText {n : Nat} {c : Char} (h : c ∈ (natText n).toList) :
    isDigit c = true := by
  have hd : c.isDigit = true := by
    apply Nat.isDigit_of_mem_toDigits (b := 10) (by omega) (by omega) (n := n)
    rwa [← Nat.toList_repr]
  simp only [Char.isDigit, Bool.and_eq_true, decide_eq_true_eq] at hd
  simp only [isDigit, Bool.and_eq_true, decide_eq_true_eq, Char.le_def]
  exact ⟨hd.1, hd.2⟩

theorem natText_ne_empty (n : Nat) : natText n ≠ "" := Nat.repr_ne_empty

/-- A number is read back from its digits. -/
theorem digitsValue_natText (n : Nat) : digitsValue (natText n).toList = n := by
  have hread := Nat.ofDigitChars_toDigits (b := 10) (n := n) (by omega) (by omega)
  rw [Nat.ofDigitChars_eq_foldl] at hread
  rw [natText, Nat.toString_eq_repr, Nat.toList_repr]
  exact hread

theorem natText_injective : Function.Injective natText := by
  intro m n h
  rw [← digitsValue_natText m, h, digitsValue_natText]

theorem intText_ne_empty (n : Int) : intText n ≠ "" := by
  cases n with
  | ofNat n => exact natText_ne_empty n
  | negSucc n => simp [intText]

theorem bare_intText (n : Int) : Bare (intText n).toList := by
  apply bare_of_forall
  intro c hc
  cases n with
  | ofNat n => exact isBlank_of_isDigit (isDigit_of_mem_natText hc)
  | negSucc n =>
    rw [intText, String.toList_append, List.mem_append] at hc
    rcases hc with hc | hc
    · have hm : c = '-' := by simpa using hc
      subst c
      decide
    · exact isBlank_of_isDigit (isDigit_of_mem_natText hc)

end WarehouseSchema.Text
