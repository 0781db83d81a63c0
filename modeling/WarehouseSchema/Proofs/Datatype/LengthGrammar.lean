import WarehouseSchema.Datatype.Length
import WarehouseSchema.Proofs.Text.Decimal
import WarehouseSchema.Proofs.Value.DigitLimit

/-!
The grammar of length texts. `LengthRule.Allows` says which texts a rule takes, without saying how
they are read. Main statement: a rule finds no fault exactly with the texts that it allows, as long as
no run of digits is too long to be read.
-/

namespace WarehouseSchema

open Text Number

/-- Digits that write a number, with blanks around them. -/
def Writes (cs : List Char) (n : Nat) : Prop :=
  ∃ before digits after, cs = before ++ (digits ++ after) ∧
    (∀ c ∈ before, isBlank c = true) ∧ (∀ c ∈ after, isBlank c = true) ∧
    digits ≠ [] ∧ (∀ c ∈ digits, isDigit c = true) ∧ digitsValue digits = n

/-- The texts that a rule takes. A rule without lengths takes none. -/
inductive LengthRule.Allows : LengthRule → List Char → Prop where
  | integer {lo hi : Int} {cs : List Char} {n : Nat} :
      Writes cs n → lo ≤ n → n ≤ hi → Allows (.integer lo hi) cs
  | precision {hi : Int} {cs : List Char} {p : Nat} :
      Writes cs p → 1 ≤ p → p ≤ hi → Allows (.numeric hi) cs
  | precisionAndScale {hi : Int} {ps ss : List Char} {p s : Nat} :
      Writes ps p → Writes ss s → 1 ≤ p → p ≤ hi → s ≤ p → Allows (.numeric hi) (ps ++ ',' :: ss)

/-- A number with too many digits to be read, with blanks around them. -/
def LongNumber (cs : List Char) : Prop :=
  ∃ before digits after, cs = before ++ (digits ++ after) ∧
    (∀ c ∈ before, isBlank c = true) ∧ (∀ c ∈ after, isBlank c = true) ∧
    (∀ c ∈ digits, isDigit c = true) ∧ digitLimit < digits.length

/-- The texts in which a rule meets a number with too many digits. -/
inductive LengthRule.TooLong : LengthRule → List Char → Prop where
  | integer {lo hi : Int} {cs : List Char} : LongNumber cs → TooLong (.integer lo hi) cs
  | precision {hi : Int} {cs : List Char} : LongNumber cs → TooLong (.numeric hi) cs
  | precisionAndScale {hi : Int} {ps ss : List Char} : ',' ∉ ps → ',' ∉ ss →
      LongNumber ps ∨ LongNumber ss → TooLong (.numeric hi) (ps ++ ',' :: ss)

/-- A text without runs that are too long has no number with too many digits. -/
theorem ShortRuns.not_longNumber {cs : List Char} (h : ShortRuns cs) : ¬ LongNumber cs := by
  rintro ⟨before, digits, after, rfl, _, _, hd, hlong⟩
  have hshort := h digits ⟨before, after, by rw [List.append_assoc]⟩ hd
  omega

theorem ShortRuns.not_tooLong {cs : List Char} {rule : LengthRule} (h : ShortRuns cs) :
    ¬ rule.TooLong cs := by
  intro hlong
  cases hlong with
  | integer hlong => exact h.not_longNumber hlong
  | precision hlong => exact h.not_longNumber hlong
  | @precisionAndScale _ ps ss _ _ hlong =>
    have hps : ShortRuns ps := h.infix (List.prefix_append ps _).isInfix
    have hss : ShortRuns ss := h.infix ⟨ps ++ [','], [], by simp⟩
    exact hlong.elim hps.not_longNumber hss.not_longNumber

theorem writes_of_readNatural {cs : List Char} {n : Nat} (h : readNatural cs = .ok (some n)) :
    Writes cs n := by
  obtain ⟨before, after, hb, ha, he⟩ := exists_trimChars cs
  unfold readNatural at h
  simp only at h
  split at h
  · rename_i hd
    split at h
    · exact absurd h throw_ne_ok
    · have hn : digitsValue (trimChars cs) = n := by
        simpa [pure_eq_ok_iff] using h
      exact ⟨before, trimChars cs, after, he, hb, ha, hd.1, List.all_eq_true.mp hd.2, hn⟩
  · simp [pure_eq_ok_iff] at h

theorem readNatural_of_writes {cs : List Char} {n : Nat} (hs : ¬ LongNumber cs) (h : Writes cs n) :
    readNatural cs = .ok (some n) := by
  obtain ⟨before, digits, after, rfl, hb, ha, hne, hd, rfl⟩ := h
  have ht : trimChars (before ++ (digits ++ after)) = digits :=
    trimChars_append hb ha (bare_of_forall fun c hc => isBlank_of_isDigit (hd c hc))
  have hl : digits.length ≤ digitLimit := by
    by_contra hlong
    exact hs ⟨before, digits, after, rfl, hb, ha, hd, by omega⟩
  unfold readNatural
  rw [ht, if_pos ⟨hne, List.all_eq_true.mpr hd⟩, if_neg (by omega)]
  rfl

theorem checkNumeric_eq_none_iff {hi : Int} {p s : Option Nat} :
    LengthRule.checkNumeric hi p s = none ↔
      ∃ m n, p = some m ∧ s = some n ∧ 1 ≤ m ∧ (m : Int) ≤ hi ∧ n ≤ m := by
  unfold LengthRule.checkNumeric
  cases p with
  | none => simp
  | some m =>
    cases s with
    | none => simp
    | some n =>
      simp only [Option.some.injEq, exists_and_left, exists_eq_left']
      split
      · simp
        omega
      · split
        · simp
          omega
        · simp
          omega

/-- A rule that finds no fault with a text allows it. -/
theorem allows_of_faultOf {rule : LengthRule} {s : String} (h : rule.faultOf s = .ok none) :
    rule.Allows s.toList := by
  cases rule with
  | none => simp [LengthRule.faultOf, pure_eq_ok_iff] at h
  | integer lo hi =>
    unfold LengthRule.faultOf at h
    obtain ⟨r, hr, h⟩ := bind_eq_ok_iff.mp h
    cases r with
    | none => simp [pure_eq_ok_iff] at h
    | some n =>
      simp only [pure_eq_ok_iff] at h
      split at h
      · rename_i hn
        exact .integer (writes_of_readNatural hr) hn.1 hn.2
      · simp at h
  | numeric hi =>
    unfold LengthRule.faultOf at h
    simp only at h
    split at h
    · rename_i p hp
      rw [eq_of_splitOn_singleton hp]
      obtain ⟨r, hr, h⟩ := bind_eq_ok_iff.mp h
      obtain ⟨m, n, rfl, hn, h1, hm, _⟩ := checkNumeric_eq_none_iff.mp (pure_eq_ok_iff.mp h)
      exact .precision (writes_of_readNatural hr) h1 hm
    · rename_i p t hp
      rw [eq_of_splitOn_pair hp]
      obtain ⟨r, hr, h⟩ := bind_eq_ok_iff.mp h
      obtain ⟨r', hr', h⟩ := bind_eq_ok_iff.mp h
      obtain ⟨m, n, rfl, rfl, h1, hm, hn⟩ := checkNumeric_eq_none_iff.mp (pure_eq_ok_iff.mp h)
      exact .precisionAndScale (writes_of_readNatural hr) (writes_of_readNatural hr') h1 hm hn
    · simp [pure_eq_ok_iff] at h

theorem Writes.isBlank_or_isDigit {cs : List Char} {n : Nat} (h : Writes cs n) {c : Char}
    (hc : c ∈ cs) : isBlank c = true ∨ isDigit c = true := by
  obtain ⟨before, digits, after, rfl, hb, ha, _, hd, _⟩ := h
  rcases List.mem_append.mp hc with hc | hc
  · exact Or.inl (hb c hc)
  · rcases List.mem_append.mp hc with hc | hc
    · exact Or.inr (hd c hc)
    · exact Or.inl (ha c hc)

theorem Writes.comma_not_mem {cs : List Char} {n : Nat} (h : Writes cs n) : ',' ∉ cs := by
  intro hc
  rcases h.isBlank_or_isDigit hc with hb | hd
  · exact absurd hb (by decide)
  · exact absurd hd (by decide)

/-- A rule finds no fault with a text that it allows. -/
theorem faultOf_of_allows {rule : LengthRule} {s : String} (hs : ¬ rule.TooLong s.toList)
    (h : rule.Allows s.toList) : rule.faultOf s = .ok none := by
  generalize hcs : s.toList = cs at h
  rw [hcs] at hs
  cases h with
  | integer hw hlo hhi =>
    have hshort : ¬ LongNumber cs := fun hlong => hs (.integer hlong)
    unfold LengthRule.faultOf
    simp only [hcs, readNatural_of_writes hshort hw, ok_bind]
    rw [if_pos ⟨hlo, hhi⟩]
    rfl
  | precision hw h1 hp =>
    have hshort : ¬ LongNumber cs := fun hlong => hs (.precision hlong)
    unfold LengthRule.faultOf
    simp only [hcs, splitOn_of_not_mem hw.comma_not_mem, readNatural_of_writes hshort hw, ok_bind]
    rw [checkNumeric_eq_none_iff.mpr ⟨_, 0, rfl, rfl, h1, hp, by omega⟩]
    rfl
  | precisionAndScale hw hw' h1 hp hn =>
    rename_i ps ss p n
    have hshort : ¬ (LongNumber ps ∨ LongNumber ss) :=
      fun hlong => hs (.precisionAndScale hw.comma_not_mem hw'.comma_not_mem hlong)
    rw [not_or] at hshort
    unfold LengthRule.faultOf
    simp only [hcs, splitOn_append_cons ss hw.comma_not_mem, splitOn_of_not_mem hw'.comma_not_mem,
      readNatural_of_writes hshort.1 hw, readNatural_of_writes hshort.2 hw', ok_bind]
    rw [checkNumeric_eq_none_iff.mpr ⟨_, _, rfl, rfl, h1, hp, hn⟩]
    rfl

/-! ## Texts with too many digits -/

theorem readNatural_of_longNumber {cs : List Char} (h : LongNumber cs) :
    ∃ n, readNatural cs = .error (.tooLongToRead n) := by
  obtain ⟨before, digits, after, rfl, hb, ha, hd, hlong⟩ := h
  have ht : trimChars (before ++ (digits ++ after)) = digits :=
    trimChars_append hb ha (bare_of_forall fun c hc => isBlank_of_isDigit (hd c hc))
  have hne : digits ≠ [] := by
    rintro rfl
    simp at hlong
  unfold readNatural
  rw [ht, if_pos ⟨hne, List.all_eq_true.mpr hd⟩, if_pos hlong]
  exact ⟨_, rfl⟩

theorem longNumber_of_readNatural {cs : List Char} {fault : NumeralFault}
    (h : readNatural cs = .error fault) : LongNumber cs := by
  obtain ⟨before, after, hb, ha, he⟩ := exists_trimChars cs
  unfold readNatural at h
  simp only at h
  split at h
  · rename_i hd
    split at h
    · rename_i hlong
      exact ⟨before, trimChars cs, after, he, hb, ha, List.all_eq_true.mp hd.2, hlong⟩
    · exact absurd h pure_ne_error
  · exact absurd h pure_ne_error

theorem not_tooLong_nil {rule : LengthRule} : ¬ rule.TooLong [] := by
  have hshort : ShortRuns [] := .of_length_le (Nat.zero_le _)
  exact hshort.not_tooLong

theorem LongNumber.comma_not_mem {cs : List Char} (h : LongNumber cs) : ',' ∉ cs := by
  obtain ⟨before, digits, after, rfl, hb, ha, hd, _⟩ := h
  intro hc
  rcases List.mem_append.mp hc with hc | hc
  · exact absurd (hb _ hc) (by decide)
  · rcases List.mem_append.mp hc with hc | hc
    · exact absurd (hd _ hc) (by decide)
    · exact absurd (ha _ hc) (by decide)

/-- A rule cannot judge a text with too many digits. -/
theorem faultOf_of_tooLong {rule : LengthRule} {s : String} (h : rule.TooLong s.toList) :
    ∃ fault, rule.faultOf s = .error fault := by
  generalize hcs : s.toList = cs at h
  cases h with
  | integer hlong =>
    obtain ⟨n, hread⟩ := readNatural_of_longNumber hlong
    unfold LengthRule.faultOf
    simp only [hcs, hread]
    exact ⟨_, rfl⟩
  | precision hlong =>
    obtain ⟨n, hread⟩ := readNatural_of_longNumber hlong
    unfold LengthRule.faultOf
    simp only [hcs, splitOn_of_not_mem hlong.comma_not_mem, hread]
    exact ⟨_, rfl⟩
  | @precisionAndScale hi ps ss hps hss hlong =>
    unfold LengthRule.faultOf
    simp only [hcs, splitOn_append_cons ss hps, splitOn_of_not_mem hss]
    cases hread : readNatural ps with
    | error fault => exact ⟨fault, rfl⟩
    | ok p =>
      rcases hlong with hlong | hlong
      · obtain ⟨n, hread'⟩ := readNatural_of_longNumber hlong
        rw [hread] at hread'
        exact absurd hread' (by simp)
      · obtain ⟨n, hread'⟩ := readNatural_of_longNumber hlong
        rw [hread']
        exact ⟨_, rfl⟩

/-- A rule judges every other text. -/
theorem tooLong_of_faultOf {rule : LengthRule} {s : String} {fault : NumeralFault}
    (h : rule.faultOf s = .error fault) : rule.TooLong s.toList := by
  cases rule with
  | none => exact absurd h pure_ne_error
  | integer lo hi =>
    rcases bind_eq_error_iff.mp h with h | ⟨r, _, h⟩
    · exact .integer (longNumber_of_readNatural h)
    · cases r <;> exact absurd h pure_ne_error
  | numeric hi =>
    unfold LengthRule.faultOf at h
    simp only at h
    split at h
    · rename_i ps hps
      rw [eq_of_splitOn_singleton hps]
      rcases bind_eq_error_iff.mp h with h | ⟨r, _, h⟩
      · exact .precision (longNumber_of_readNatural h)
      · exact absurd h pure_ne_error
    · rename_i ps ss hpair
      have hcomma : ∀ part ∈ [ps, ss], ',' ∉ part :=
        fun part hpart => not_mem_of_mem_splitOn (hpair ▸ hpart)
      rw [eq_of_splitOn_pair hpair]
      refine .precisionAndScale (hcomma ps (by simp)) (hcomma ss (by simp)) ?_
      rcases bind_eq_error_iff.mp h with h | ⟨p, _, h⟩
      · exact Or.inl (longNumber_of_readNatural h)
      · rcases bind_eq_error_iff.mp h with h | ⟨r, _, h⟩
        · exact Or.inr (longNumber_of_readNatural h)
        · exact absurd h pure_ne_error
    · exact absurd h pure_ne_error

theorem LengthRule.Allows.isBlank_or_isDigit_or_comma {rule : LengthRule} {cs : List Char}
    (h : rule.Allows cs) {c : Char} (hc : c ∈ cs) :
    isBlank c = true ∨ isDigit c = true ∨ c = ',' := by
  cases h with
  | integer hw _ _ => exact (hw.isBlank_or_isDigit hc).imp_right Or.inl
  | precision hw _ _ => exact (hw.isBlank_or_isDigit hc).imp_right Or.inl
  | precisionAndScale hw hw' _ _ _ =>
    rcases List.mem_append.mp hc with hc | hc
    · exact (hw.isBlank_or_isDigit hc).imp_right Or.inl
    · rcases List.mem_cons.mp hc with rfl | hc
      · exact Or.inr (Or.inr rfl)
      · exact (hw'.isBlank_or_isDigit hc).imp_right Or.inl

end WarehouseSchema
