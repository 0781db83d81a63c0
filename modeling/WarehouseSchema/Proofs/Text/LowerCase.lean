import WarehouseSchema.Proofs.Text.SameLetters

/-!
Texts with a given lower case. Beyond ASCII only the sign of the kelvin and the dotted capital `i` have ASCII
letters in their lower case. So a text has a lower case without `k` and `i` when it is the same text in another
case of its letters.
-/

namespace WarehouseSchema.Text

/-- The images of a row are characters beyond ASCII, those of the row for the sign of the kelvin apart. -/
theorem lowerRanges_beyond_ascii : ∀ r ∈ lowerRanges,
    (r.first = 8490 ∧ r.last = 8490 ∧ r.shift = -8383) ∨
      (128 ≤ r.first + r.shift ∧ r.last + r.shift < 55296) ∨
      (57344 ≤ r.first + r.shift ∧ r.last + r.shift < 1114112) := by
  decide +kernel

theorem toNat_ofNat_of_valid {n : Nat} (h : n < 55296 ∨ 57344 ≤ n ∧ n < 1114112) :
    (Char.ofNat n).toNat = n := by
  have hvalid : n.isValidChar := by
    rcases h with h | ⟨hleast, hgreatest⟩
    · exact Or.inl h
    · exact Or.inr ⟨by omega, hgreatest⟩
  rw [Char.ofNat, dif_pos hvalid]
  rfl

/-- The lower case of a character beyond ASCII. -/
theorem lowerChar_beyond_ascii {c : Char} (hbeyond : ¬ c.toNat < 128) :
    lowerChar c = ['k'] ∨ lowerChar c = ['i', Char.ofNat 775] ∨
      ∃ d, lowerChar c = [d] ∧ ¬ d.toNat < 128 := by
  rw [lowerChar, if_neg hbeyond, mapCase]
  split
  · rename_i r hfind
    have hrow := lowerRanges_beyond_ascii r (List.mem_of_find?_eq_some hfind)
    have hcovers := List.find?_some hfind
    simp only [CaseRange.covers, Bool.and_eq_true, decide_eq_true_eq] at hcovers
    rcases hrow with ⟨hfirst, hlast, hshift⟩ | hrow
    · left
      rw [CaseRange.apply, hshift, show c.toNat = 8490 by omega]
      rfl
    · right; right
      refine ⟨_, rfl, ?_⟩
      rw [CaseRange.apply, toNat_ofNat_of_valid (by omega)]
      omega
  · split
    · rename_i e hfind
      have hdotted : e = (304, [105, 775]) :=
        List.mem_singleton.mp (List.mem_of_find?_eq_some hfind)
      right; left
      rw [hdotted]
      rfl
    · right; right
      exact ⟨c, rfl, hbeyond⟩

/-- ASCII characters that are the lower case of no character beyond. -/
def PlainLower (cs : List Char) : Prop := ∀ d ∈ cs, d.toNat < 128 ∧ d ≠ 'i' ∧ d ≠ 'k'

instance (cs : List Char) : Decidable (PlainLower cs) :=
  List.decidableBAll (fun d : Char => d.toNat < 128 ∧ d ≠ 'i' ∧ d ≠ 'k') cs

theorem ascii_of_lowerChar {c : Char} (h : PlainLower (lowerChar c)) : c.toNat < 128 := by
  by_contra hbeyond
  rcases lowerChar_beyond_ascii hbeyond with hk | hi | ⟨d, hd, hbeyond⟩
  · rw [hk] at h
    exact (h 'k' List.mem_cons_self).2.2 rfl
  · rw [hi] at h
    exact (h 'i' List.mem_cons_self).2.1 rfl
  · rw [hd] at h
    exact hbeyond (h d List.mem_cons_self).1

theorem isAscii_of_lowerAfter {before cs : List Char} (h : PlainLower (lowerAfter before cs)) :
    IsAscii cs := by
  induction cs generalizing before with
  | nil => exact fun c hc => absurd hc (by simp)
  | cons c cs ih =>
    rw [lowerAfter] at h
    have hrest := ih fun d hd => h d (List.mem_append_right _ hd)
    have hfirst : c.toNat < 128 := by
      by_cases hsigma : c = 'Σ'
      · rw [if_pos hsigma] at h
        split at h
        · exact absurd (h 'ς' List.mem_cons_self).1 (by decide)
        · exact absurd (h 'σ' List.mem_cons_self).1 (by decide)
      · rw [if_neg hsigma] at h
        exact ascii_of_lowerChar fun d hd => h d (List.mem_append_left _ hd)
    intro d hd
    rcases List.mem_cons.mp hd with rfl | hd
    · exact hfirst
    · exact hrest d hd

theorem eq_of_mem_lowerChar {c d : Char} (hd : d.toNat < 97) (h : d ∈ lowerChar c) : d = c := by
  by_cases hascii : c.toNat < 128
  · rw [lowerChar_of_ascii hascii, List.mem_singleton] at h
    rcases toLower_eq_or c with hsame | ⟨hshifted, hleast, _⟩
    · rw [h, hsame]
    · rw [h] at hd
      omega
  · rcases lowerChar_beyond_ascii hascii with hk | hi | ⟨d', hd', hbeyond⟩
    · rw [hk, List.mem_singleton] at h
      exact absurd hd (by rw [h]; decide)
    · rw [hi] at h
      rcases List.mem_pair.mp h with rfl | rfl
      · exact absurd hd (by decide)
      · exact absurd hd (by decide)
    · rw [hd', List.mem_singleton] at h
      rw [h] at hd
      omega

theorem mem_of_mem_lowerAfter {d : Char} (hd : d.toNat < 97) {before cs : List Char}
    (h : d ∈ lowerAfter before cs) : d ∈ cs := by
  induction cs generalizing before with
  | nil => exact h
  | cons c cs ih =>
    rw [lowerAfter, List.mem_append] at h
    rcases h with hfirst | hrest
    · by_cases hsigma : c = 'Σ'
      · rw [if_pos hsigma] at hfirst
        split at hfirst
        · rw [List.mem_singleton.mp hfirst] at hd
          exact absurd hd (by decide)
        · rw [List.mem_singleton.mp hfirst] at hd
          exact absurd hd (by decide)
      · rw [if_neg hsigma] at hfirst
        rw [eq_of_mem_lowerChar hd hfirst]
        exact List.mem_cons_self
    · exact List.mem_cons_of_mem _ (ih hrest)

/-- A character before the small letters is in the lower case of a text only if it is in the text. -/
theorem mem_of_mem_lower {d : Char} (hd : d.toNat < 97) {s : String} (h : d ∈ (lower s).toList) :
    d ∈ s.toList := by
  rw [lower, String.toList_ofList] at h
  exact mem_of_mem_lowerAfter hd h

/-- A word of plain letters in lower case is the lower case of the texts with the same letters only. -/
theorem lower_eq_iff {s word : String} (hword : PlainLower word.toList)
    (hlower : word.toList.map Char.toLower = word.toList) :
    lower s = word ↔ SameLetters s.toList word.toList := by
  rw [SameLetters, hlower, ← String.toList_inj, lower, String.toList_ofList]
  constructor
  · intro h
    rw [← h] at hword
    have hascii : IsAscii s.toList := isAscii_of_lowerAfter hword
    rwa [← lowerChars_of_ascii hascii]
  · intro h
    have hascii : IsAscii s.toList := isAscii_of_map_toLower fun d hd => (hword d (h ▸ hd)).1
    rwa [lowerChars_of_ascii hascii]

end WarehouseSchema.Text
