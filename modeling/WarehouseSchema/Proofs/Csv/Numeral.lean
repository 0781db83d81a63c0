import WarehouseSchema.Inference
import WarehouseSchema.Proofs.Number.Magnitude
import WarehouseSchema.Proofs.Text.SameLetters

/-!
Numbers in the values of a sample. A decimal number is finite however large its power of ten is, for a
number that is too large is none; so infinite numbers come from the words for infinities only, and those
words hold no digit.
-/

namespace WarehouseSchema

open Text Number

namespace Text

theorem isDigit_iff {c : Char} : isDigit c = true ↔ 48 ≤ c.toNat ∧ c.toNat ≤ 57 := by
  simp only [isDigit, Bool.and_eq_true, decide_eq_true_eq, Char.le_def, UInt32.le_iff_toNat_le]
  rfl

def Digitless (cs : List Char) : Prop := ∀ c ∈ cs, isDigit c = false

instance (cs : List Char) : Decidable (Digitless cs) :=
  List.decidableBAll (fun c : Char => isDigit c = false) cs

/-- Letters are no digits in any case. -/
theorem SameLetters.digitless {cs ds : List Char} (h : SameLetters cs ds) (hds : Digitless ds) :
    Digitless cs := by
  intro c hc
  by_contra hdigit
  rw [Bool.not_eq_false] at hdigit
  have hmem : c.toLower ∈ cs.map Char.toLower := List.mem_map_of_mem hc
  rw [h] at hmem
  obtain ⟨d, hd, hlower⟩ := List.mem_map.mp hmem
  have hd' : ¬ (48 ≤ d.toNat ∧ d.toNat ≤ 57) := by
    rw [← isDigit_iff, hds d hd]
    exact Bool.false_ne_true
  rw [isDigit_iff] at hdigit
  rcases toLower_eq_or c with hc | ⟨_, _, _⟩ <;> rcases toLower_eq_or d with hd | ⟨hshift, _, _⟩
  · rw [hc, hd] at hlower
    rw [hlower] at hd'
    exact hd' hdigit
  · rw [hlower, hc] at hshift
    omega
  · omega
  · omega

end Text

namespace Number

theorem takeSign_suffix (cs : List Char) : (takeSign cs).2 <:+ cs := by
  unfold takeSign
  split
  · exact List.suffix_cons _ _
  · exact List.suffix_cons _ _
  · exact List.suffix_rfl

end Number

namespace Csv

/-! ## Decimal numbers -/

/-- What is taken behind a point are digits, as many as may still be counted. -/
theorem takeFraction_counted (count : Nat) (cs : List Char) :
    (takeFraction count cs).1.length ≤ countedDigits - count ∧
      ∀ c ∈ (takeFraction count cs).1, isDigit c = true ∧ c ∈ cs := by
  unfold takeFraction
  split
  · rename_i more
    refine ⟨List.length_take_le _ _, ?_⟩
    intro c hc
    have hdigits := List.mem_of_mem_take hc
    exact ⟨List.mem_takeWhile_imp hdigits,
      List.mem_cons_of_mem _ ((List.takeWhile_prefix isDigit).subset hdigits)⟩
  · simp

/-- A decimal number is made of digits of its text, few enough to be counted, and of a power of ten. -/
theorem exists_counted_of_decimalNumber {s : String} {x : Binary64} (h : decimalNumber? s = some x) :
    ∃ (counted : List Char) (negative : Bool) (power : Int), counted ≠ [] ∧
      counted.length ≤ countedDigits ∧ (∀ c ∈ counted, isDigit c = true ∧ c ∈ s.toList) ∧
      scaled (if negative then (counted.foldl withDigit (.zero false)).negate
        else counted.foldl withDigit (.zero false)) power = some x := by
  unfold decimalNumber? at h
  simp only [List.span_eq_takeWhile_dropWhile] at h
  have hsuffix : (takeSign (s.toList.dropWhile isNumberBlank)).2 <:+ s.toList :=
    (takeSign_suffix _).trans (List.dropWhile_suffix _)
  generalize takeSign (s.toList.dropWhile isNumberBlank) = signed at h hsuffix
  obtain ⟨negative, body⟩ := signed
  dsimp only at h hsuffix
  obtain ⟨hlength, hfraction⟩ := takeFraction_counted (body.takeWhile isDigit).length
    (body.dropWhile isDigit)
  generalize takeFraction (body.takeWhile isDigit).length (body.dropWhile isDigit) = taken at *
  obtain ⟨fraction, rest⟩ := taken
  dsimp only at h hlength hfraction
  split at h
  · exact absurd h (by simp)
  · rename_i hsome
    split at h
    · refine ⟨_, negative, _, ?_, ?_, ?_, h⟩
      · intro hnil
        obtain ⟨hwhole, rfl⟩ := List.append_eq_nil_iff.mp hnil
        have hempty : body.takeWhile isDigit = [] :=
          (List.take_eq_nil_iff.mp hwhole).resolve_left (by decide)
        simp [hempty] at hsome
      · rw [List.length_append, List.length_take]
        omega
      · intro c hc
        rcases List.mem_append.mp hc with hc | hc
        · have hdigits := List.mem_of_mem_take hc
          exact ⟨List.mem_takeWhile_imp hdigits,
            hsuffix.subset ((List.takeWhile_prefix isDigit).subset hdigits)⟩
        · obtain ⟨hdigit, hmem⟩ := hfraction c hc
          exact ⟨hdigit, hsuffix.subset ((List.dropWhile_suffix isDigit).subset hmem)⟩
    · exact absurd h (by simp)

theorem ofInt_below {n : Int} {k : Nat} (h : n.natAbs < 2 ^ k) (hk : k ≤ 1000) :
    (Binary64.ofInt n).Below (k + 1) := by
  have hmin : Binary64.minExponent = -1074 := rfl
  refine Binary64.ofRatio_below _ Nat.one_pos ?_ (by omega) (by omega)
  rw [Nat.cast_one, div_one, zpow_natCast]
  exact_mod_cast h

theorem withDigit_below {x : Binary64} {c : Char} {k : Int} (h : x.Below k) (hc : isDigit c = true)
    (hleast : 0 ≤ k) (hgreatest : k ≤ 900) : (withDigit x c).Below (k + 8) := by
  have hvalue : digitValue c < 2 ^ 4 := by
    rw [isDigit_iff] at hc
    rw [digitValue]
    omega
  have hten : (Binary64.ofInt 10).Below 5 := ofInt_below (k := 4) (by decide) (by omega)
  have hdigit : (Binary64.ofInt (digitValue c)).Below 5 := ofInt_below (k := 4) hvalue (by omega)
  have hproduct := Binary64.mul_below h hten (by omega) (by omega)
  exact (Binary64.add_below hproduct (hdigit.mono (by omega)) (by omega) (by omega)).mono (by omega)

/-- Each digit makes a number larger by eight powers of two at most. -/
theorem foldl_withDigit_below {x : Binary64} {counted : List Char} {k : Int} (h : x.Below k)
    (hdigits : ∀ c ∈ counted, isDigit c = true) (hleast : 0 ≤ k)
    (hgreatest : k + 8 * counted.length ≤ 900) :
    (counted.foldl withDigit x).Below (k + 8 * counted.length) := by
  induction counted generalizing x k with
  | nil => simpa using h
  | cons c counted ih =>
    rw [List.length_cons] at hgreatest ⊢
    push_cast at hgreatest ⊢
    have hstep := withDigit_below h (hdigits c List.mem_cons_self) hleast (by omega)
    have hrest := ih hstep (fun d hd => hdigits d (List.mem_cons_of_mem c hd)) (by omega) (by omega)
    exact hrest.mono (by omega)

theorem tenTo_atLeast (k : Nat) : (tenTo k).AtLeast (-1) := by
  unfold tenTo Binary64.ofDecimal
  rw [if_neg Nat.one_ne_zero]
  dsimp only
  split
  · trivial
  · rw [if_neg (by omega), if_pos (by omega)]
    refine Binary64.ofRatio_atLeast false Nat.one_pos ?_
    rw [Nat.one_mul, Nat.cast_one, div_one]
    exact_mod_cast Number.tenTo_pos _

theorem div_tenTo_below {x : Binary64} {k : Int} (h : x.Below k) (n : Nat) (hleast : 0 ≤ k)
    (hgreatest : k ≤ 990) : (x.div (tenTo n)).Below (k + 2) :=
  (Binary64.div_below h (tenTo_atLeast n) (by omega) (by omega)).mono (by omega)

theorem tenTo_finite {k : Nat} (h : k ≤ 308) : isFinite (tenTo k) = true := by
  have hall : ∀ k < 309, isFinite (tenTo k) = true := by decide +kernel
  exact hall k (by omega)

theorem isFinite_of_below {x : Binary64} {k : Int} (h : x.Below k) : isFinite x = true := by
  obtain ⟨negative, m, e, rfl, _⟩ := h.exists_finite
  rfl

/-- A product of finite numbers may be too large, but it is a number. -/
theorem mul_isFinite {x y : Binary64} (hx : isFinite x = true) (hy : isFinite y = true) :
    (∃ negative, x.mul y = .infinite negative) ∨ isFinite (x.mul y) = true := by
  cases x with
  | finite a m e =>
    cases y with
    | finite b n f =>
      have hnumber : (Binary64.finite a m e).mul (.finite b n f) ≠ .nan :=
        Binary64.ofRatio_ne_nan _ _ _
      cases hproduct : (Binary64.finite a m e).mul (.finite b n f) with
      | nan => exact absurd hproduct hnumber
      | infinite negative => exact Or.inl ⟨negative, rfl⟩
      | finite negative p g => exact Or.inr rfl
    | _ => exact absurd hy Bool.false_ne_true
  | _ => exact absurd hx Bool.false_ne_true

theorem scaled_isFinite {x y : Binary64} {power : Int} {k : Int} (h : scaled x power = some y)
    (hx : x.Below k) (hleast : 0 ≤ k) (hgreatest : k ≤ 900) : isFinite y = true := by
  unfold scaled at h
  split at h
  · exact absurd h (by simp)
  split at h
  · rename_i hmost hpositive
    rcases mul_isFinite (isFinite_of_below hx) (tenTo_finite (show power.toNat ≤ 308 by omega)) with
      ⟨negative, hinfinite⟩ | hfinite
    · rw [hinfinite] at h
      exact absurd h (by simp)
    · split at h
      · exact absurd h (by simp)
      · rwa [← Option.some.inj h]
  split at h
  · -- the power is divided away in two steps, of which the first may already give zero
    have hfirst := div_tenTo_below hx (-308 - power).toNat hleast (by omega)
    have hsecond := div_tenTo_below hfirst 308 (by omega) (by omega)
    rw [← Option.some.inj h]
    exact isFinite_of_below hsecond
  · have hquotient := div_tenTo_below hx (-power).toNat hleast (by omega)
    rw [← Option.some.inj h]
    exact isFinite_of_below hquotient

theorem decimalNumber_isFinite {s : String} {x : Binary64} (h : decimalNumber? s = some x) :
    isFinite x = true := by
  obtain ⟨counted, negative, power, _, hlength, hdigits, hscaled⟩ := exists_counted_of_decimalNumber h
  have hcounted : countedDigits = 17 := rfl
  have hsize := foldl_withDigit_below (Binary64.below_zero false 0) (fun c hc => (hdigits c hc).1)
    (by omega) (by omega)
  refine scaled_isFinite hscaled ?_ (show 0 ≤ 0 + 8 * (counted.length : Int) by omega) (by omega)
  split
  · exact hsize.negate
  · exact hsize

/-! ## Words for infinities -/

/-- The text is a word for an infinity in some letter case. -/
def NamesInfinity (s : String) : Prop := ∃ entry ∈ infinityWords, SameLetters s.toList entry.1.toList

instance (s : String) : Decidable (NamesInfinity s) :=
  inferInstanceAs (Decidable (∃ entry ∈ infinityWords, SameLetters s.toList entry.1.toList))

theorem infinityWords_lower :
    ∀ entry ∈ infinityWords, entry.1.toList.map Char.toLower = entry.1.toList := by decide

theorem infinityWords_digitless : ∀ entry ∈ infinityWords, Digitless entry.1.toList := by decide

/-- Words for infinities are found in any letter case. -/
theorem lookup_infinityWords_isSome_iff {s : String} :
    (infinityWords.lookup (String.ofList (s.toList.map Char.toLower))).isSome = true ↔
      NamesInfinity s := by
  rw [List.lookup_isSome_iff]
  refine exists_congr fun entry => and_congr_right fun hentry => ?_
  rw [beq_iff_eq, SameLetters, infinityWords_lower entry hentry, ← String.toList_inj,
    String.toList_ofList]

theorem NamesInfinity.digitless {s : String} (h : NamesInfinity s) : Digitless s.toList := by
  obtain ⟨entry, hentry, hsame⟩ := h
  exact hsame.digitless (infinityWords_digitless entry hentry)

theorem exists_digit_of_decimalNumber {s : String} {x : Binary64} (h : decimalNumber? s = some x) :
    ∃ c ∈ s.toList, isDigit c = true := by
  obtain ⟨counted, _, _, hne, _, hdigits, _⟩ := exists_counted_of_decimalNumber h
  obtain ⟨c, hc⟩ := List.exists_mem_of_ne_nil counted hne
  obtain ⟨hdigit, hmem⟩ := hdigits c hc
  exact ⟨c, hmem, hdigit⟩

/-- A number that a text writes is infinite just when the text is a word for it. -/
theorem isFinite_eq_false_iff {s : String} {x : Binary64} (h : floatNumber? s = some x) :
    isFinite x = false ↔ NamesInfinity s := by
  unfold floatNumber? at h
  cases hdecimal : decimalNumber? s with
  | some y =>
    rw [hdecimal, Option.some.injEq] at h
    rw [← h, decimalNumber_isFinite hdecimal]
    refine iff_of_false (by simp) fun hinfinity => ?_
    obtain ⟨c, hmem, hdigit⟩ := exists_digit_of_decimalNumber hdecimal
    rw [hinfinity.digitless c hmem] at hdigit
    cases hdigit
  | none =>
    rw [hdecimal] at h
    obtain ⟨negative, hlookup, rfl⟩ := Option.map_eq_some_iff.mp h
    refine iff_of_true rfl (lookup_infinityWords_isSome_iff.mp ?_)
    rw [hlookup]
    rfl

/-- A text without digits that is no word for an infinity is no number at all. -/
theorem floatNumber_of_digitless {s : String} (h : Digitless s.toList)
    (hinfinity : ¬ NamesInfinity s) : floatNumber? s = none := by
  unfold floatNumber?
  cases hdecimal : decimalNumber? s with
  | some x =>
    obtain ⟨c, hmem, hdigit⟩ := exists_digit_of_decimalNumber hdecimal
    rw [h c hmem] at hdigit
    cases hdigit
  | none =>
    rw [← lookup_infinityWords_isSome_iff, Bool.not_eq_true, Option.isSome_eq_false_iff,
      Option.isNone_iff_eq_none] at hinfinity
    rw [hinfinity]
    rfl

/-! ## Integers -/

theorem boundedNumber_le {limit n m : Nat} {cs rest : List Char} (hn : n ≤ limit)
    (h : boundedNumber limit n cs = .ok (m, rest)) : m ≤ limit := by
  induction cs generalizing n with
  | nil =>
    rw [boundedNumber, Except.ok.injEq, Prod.mk.injEq] at h
    omega
  | cons c cs ih =>
    rw [boundedNumber] at h
    dsimp only at h
    split at h
    · split at h
      · exact absurd h (by simp)
      · exact ih (by omega) h
    · rw [Except.ok.injEq, Prod.mk.injEq] at h
      omega

theorem boundedDigits_eq_ok {limit n : Nat} {cs : List Char} (h : boundedDigits limit cs = .ok n) :
    n ≤ limit ∧ ∃ c ∈ cs, isDigit c = true := by
  unfold boundedDigits at h
  cases cs with
  | nil => exact absurd h (by simp)
  | cons c cs =>
    dsimp only at h
    split at h
    · exact absurd h (by simp)
    · rename_i hdigit
      split at h
      · exact absurd h (by simp)
      · rename_i m rest hrun
        split at h
        · rw [← Except.ok.inj h]
          exact ⟨boundedNumber_le (Nat.zero_le limit) hrun, c, List.mem_cons_self, by simpa using hdigit⟩
        · exact absurd h (by simp)

theorem boundedDigits_of_digitless (limit : Nat) {cs : List Char} (h : Digitless cs) :
    boundedDigits limit cs = .error .malformed := by
  cases cs with
  | nil => rfl
  | cons c cs =>
    have hdigit := h c List.mem_cons_self
    simp [boundedDigits, hdigit]

/-- An integer is read from the digits behind a sign, with the bound for numbers of that sign. -/
theorem exists_boundedDigits (s : String) :
    ∃ (limit : Nat) (digits : List Char) (signed : Nat → Int), limit ≤ word ∧ digits <:+ s.toList ∧
      (∀ n, (signed n).natAbs = n) ∧ signedInteger s = (boundedDigits limit digits).map signed := by
  have hsuffix : s.toList.dropWhile isNumberBlank <:+ s.toList := List.dropWhile_suffix _
  unfold signedInteger
  split
  · rename_i digits hsigned
    rw [hsigned] at hsuffix
    exact ⟨word, digits, fun n => -(n : Int), le_rfl, (List.suffix_cons '-' digits).trans hsuffix,
      fun n => by rw [Int.natAbs_neg, Int.natAbs_natCast], rfl⟩
  · rename_i digits hsigned
    rw [hsigned] at hsuffix
    exact ⟨word - 1, digits, Int.ofNat, Nat.sub_le _ _, (List.suffix_cons '+' digits).trans hsuffix,
      fun n => rfl, rfl⟩
  · exact ⟨word - 1, _, Int.ofNat, Nat.sub_le _ _, hsuffix, fun n => rfl, rfl⟩

/-- An integer fits a word and is written with a digit. -/
theorem signedInteger_eq_ok {s : String} {n : Int} (h : signedInteger s = .ok n) :
    n.natAbs ≤ word ∧ ∃ c ∈ s.toList, isDigit c = true := by
  obtain ⟨limit, digits, signed, hlimit, hsuffix, habs, hread⟩ := exists_boundedDigits s
  rw [h] at hread
  cases hdigits : boundedDigits limit digits with
  | error fault =>
    rw [hdigits] at hread
    cases hread
  | ok m =>
    rw [hdigits] at hread
    obtain ⟨hle, c, hc, hdigit⟩ := boundedDigits_eq_ok hdigits
    rw [Except.ok.inj hread, habs]
    exact ⟨hle.trans hlimit, c, hsuffix.subset hc, hdigit⟩

/-- A text without digits is no integer. -/
theorem signedInteger_of_digitless {s : String} (h : Digitless s.toList) :
    signedInteger s = .error .malformed := by
  obtain ⟨limit, digits, signed, _, hsuffix, _, hread⟩ := exists_boundedDigits s
  rw [hread, boundedDigits_of_digitless limit fun c hc => h c (hsuffix.subset hc)]
  rfl

theorem ofInt_isFinite {n : Int} (h : n.natAbs ≤ word) : isFinite (.ofInt n) = true := by
  have hword : word < 2 ^ 64 := by decide
  exact isFinite_of_below (ofInt_below (lt_of_le_of_lt h hword) (by omega))

end Csv

end WarehouseSchema
