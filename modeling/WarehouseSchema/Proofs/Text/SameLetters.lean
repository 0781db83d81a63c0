import WarehouseSchema.Proofs.Text.Cutting
import WarehouseSchema.Text.LetterCase

/-!
Texts that differ in the case of ASCII letters only. Such texts have blanks at the same places, and an
ASCII text has one lower case together with all of them.
-/

namespace WarehouseSchema.Text

/-- The same text in another case of its ASCII letters. -/
def SameLetters (cs ds : List Char) : Prop := cs.map Char.toLower = ds.map Char.toLower

instance (cs ds : List Char) : Decidable (SameLetters cs ds) := inferInstanceAs (Decidable (_ = _))

def IsAscii (cs : List Char) : Prop := ∀ c ∈ cs, c.toNat < 128

instance (cs : List Char) : Decidable (IsAscii cs) :=
  List.decidableBAll (fun c : Char => c.toNat < 128) cs

theorem toLower_eq_or (c : Char) :
    c.toLower = c ∨ c.toLower.toNat = c.toNat + 32 ∧ 65 ≤ c.toNat ∧ c.toNat ≤ 90 := by
  unfold Char.toLower
  split
  · rename_i h
    have hleast : 65 ≤ c.toNat := by simpa [UInt32.le_iff_toNat_le] using h.1
    have hgreatest : c.toNat ≤ 90 := by simpa [UInt32.le_iff_toNat_le] using h.2
    refine Or.inr ⟨?_, hleast, hgreatest⟩
    have hval : c.val.toNat = c.toNat := rfl
    show (c.val + ('a'.val - 'A'.val)).toNat = c.toNat + 32
    rw [UInt32.toNat_add, hval]
    have hshift : ('a'.val - 'A'.val).toNat = 32 := rfl
    rw [hshift]
    omega
  · exact Or.inl rfl

theorem isBlank_toLower (c : Char) : isBlank c.toLower = isBlank c := by
  rcases toLower_eq_or c with h | ⟨h, hleast, hgreatest⟩
  · rw [h]
  · have hletter : ∀ n, 65 ≤ n → n ≤ 122 → ((9 ≤ n && n ≤ 13) || (28 ≤ n && n ≤ 32) || n == 0x85 ||
        n == 0xA0 || n == 0x1680 || (0x2000 ≤ n && n ≤ 0x200A) || n == 0x2028 || n == 0x2029 ||
        n == 0x202F || n == 0x205F || n == 0x3000) = false := by
      intro n hleast hgreatest
      simp only [Bool.or_eq_false_iff, Bool.and_eq_false_iff, decide_eq_false_iff_not,
        beq_eq_false_iff_ne]
      omega
    unfold isBlank
    simp only [h]
    rw [hletter _ (by omega) (by omega), hletter _ (by omega) (by omega)]

theorem bare_map_toLower_iff {cs : List Char} : Bare (cs.map Char.toLower) ↔ Bare cs := by
  have hend : ∀ o : Option Char,
      (∀ c ∈ o.map Char.toLower, isBlank c = false) ↔ ∀ c ∈ o, isBlank c = false := by
    intro o
    cases o <;> simp [isBlank_toLower]
  rw [Bare, Bare, List.head?_map, List.getLast?_map, hend, hend]

theorem SameLetters.bare {cs ds : List Char} (h : SameLetters cs ds) (hbare : Bare ds) : Bare cs := by
  rw [← bare_map_toLower_iff, h, bare_map_toLower_iff]
  exact hbare

theorem SameLetters.ne_empty {s t : String} (h : SameLetters s.toList t.toList) (ht : t ≠ "") :
    s ≠ "" := by
  rintro rfl
  apply ht
  have hnil : t.toList = [] := List.map_eq_nil_iff.mp h.symm
  exact String.toList_eq_nil_iff.mp hnil

theorem IsAscii.map_toLower {cs : List Char} (h : IsAscii cs) : IsAscii (cs.map Char.toLower) := by
  intro c hc
  obtain ⟨d, hd, rfl⟩ := List.mem_map.mp hc
  have hlimit := h d hd
  rcases toLower_eq_or d with hsame | ⟨hshifted, _, _⟩
  · rwa [hsame]
  · omega

theorem isAscii_of_map_toLower {cs : List Char} (h : IsAscii (cs.map Char.toLower)) : IsAscii cs := by
  intro c hc
  have hlimit := h _ (List.mem_map_of_mem hc)
  rcases toLower_eq_or c with hsame | ⟨hshifted, _, _⟩
  · rwa [hsame] at hlimit
  · omega

theorem SameLetters.isAscii {cs ds : List Char} (h : SameLetters cs ds) (hascii : IsAscii ds) :
    IsAscii cs := by
  apply isAscii_of_map_toLower
  rw [h]
  exact hascii.map_toLower

/-- An ASCII text has the lower case of every text that differs from it in letter case only. -/
theorem SameLetters.lower_eq {s t : String} (h : SameLetters s.toList t.toList)
    (hascii : IsAscii t.toList) : lower s = lower t := by
  rw [lower, lower, lowerChars_of_ascii (h.isAscii hascii), lowerChars_of_ascii hascii, h]

end WarehouseSchema.Text
