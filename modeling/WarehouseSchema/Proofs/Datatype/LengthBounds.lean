import WarehouseSchema.Proofs.Datatype.LengthGrammar
import WarehouseSchema.Proofs.Definition.Checks

/-!
Lengths within bounds. What a rule with bounds says about a text depends on the number alone that the text
writes, not on zeros before its digits or blanks around them. Main statement: checking a length and moving a
number into bounds go by the same bounds.
-/

namespace WarehouseSchema

open Text Number

/-! ## Texts of numbers -/

theorem digitsValue_replicate_zero (zeros : Nat) (cs : List Char) :
    digitsValue (List.replicate zeros '0' ++ cs) = digitsValue cs := by
  induction zeros with
  | zero => rfl
  | succ zeros ih =>
    have hzero : 10 * 0 + digitValue '0' = 0 := rfl
    rw [← ih, List.replicate_succ, List.cons_append, digitsValue, List.foldl_cons, hzero]
    rfl

/-- Blanks, zeros, the digits of a number, and blanks again. -/
def padded (before : List Char) (zeros n : Nat) (after : List Char) : List Char :=
  before ++ ((List.replicate zeros '0' ++ (natText n).toList) ++ after)

section
variable {before after : List Char} (hb : ∀ c ∈ before, isBlank c = true)
  (ha : ∀ c ∈ after, isBlank c = true)
include hb ha

theorem writes_padded (zeros n : Nat) : Writes (padded before zeros n after) n := by
  refine ⟨before, List.replicate zeros '0' ++ (natText n).toList, after, rfl, hb, ha, ?_, ?_, ?_⟩
  · intro hnil
    have hdigits := (List.append_eq_nil_iff.mp hnil).2
    exact natText_ne_empty n (String.toList_eq_nil_iff.mp hdigits)
  · intro c hc
    rcases List.mem_append.mp hc with hc | hc
    · rw [List.eq_of_mem_replicate hc]
      rfl
    · exact isDigit_of_mem_natText hc
  · rw [digitsValue_replicate_zero, digitsValue_natText]

/-- Only the digits between the blanks count against the limit. -/
theorem not_longNumber_padded {zeros n : Nat} (hshort : zeros + (natText n).length ≤ digitLimit) :
    ¬ LongNumber (padded before zeros n after) := by
  rintro ⟨before', digits, after', heq, hb', ha', hd, hlong⟩
  have hzeros : ∀ c ∈ List.replicate zeros '0' ++ (natText n).toList, isBlank c = false := by
    intro c hc
    rcases List.mem_append.mp hc with hc | hc
    · rw [List.eq_of_mem_replicate hc]
      rfl
    · exact isBlank_of_isDigit (isDigit_of_mem_natText hc)
  have hdigits : ∀ c ∈ digits, isBlank c = false := fun c hc => isBlank_of_isDigit (hd c hc)
  have htrim := congrArg trimChars heq
  rw [padded, trimChars_append hb ha (bare_of_forall hzeros),
    trimChars_append hb' ha' (bare_of_forall hdigits)] at htrim
  have hlength := congrArg List.length htrim
  rw [List.length_append, List.length_replicate, String.length_toList] at hlength
  omega

end

theorem padded_nil (n : Nat) : padded [] 0 n [] = (natText n).toList := by simp [padded]

theorem writes_natText (n : Nat) : Writes (natText n).toList n := by
  rw [← padded_nil]
  exact writes_padded (by simp) (by simp) 0 n

theorem not_longNumber_natText {n : Nat} (hshort : (natText n).length ≤ digitLimit) :
    ¬ LongNumber (natText n).toList := by
  rw [← padded_nil]
  apply not_longNumber_padded (by simp) (by simp)
  omega

theorem longNumber_natText {n : Nat} (h : digitLimit < (natText n).length) :
    LongNumber (natText n).toList := by
  refine ⟨[], (natText n).toList, [], by simp, by simp, by simp, ?_, ?_⟩
  · intro c hc
    exact isDigit_of_mem_natText hc
  · rwa [String.length_toList]

/-! ## Rules with bounds -/

section
variable {lo hi : Int}

/-- A rule with bounds looks at the number only. -/
theorem faultOf_of_writes {s : String} {n : Nat} (hw : Writes s.toList n)
    (hshort : ¬ LongNumber s.toList) : (LengthRule.integer lo hi).faultOf s =
      .ok (if lo ≤ n ∧ n ≤ hi then none else some (.outside lo hi)) := by
  unfold LengthRule.faultOf
  rw [readNatural_of_writes hshort hw]
  rfl

/-- A rule takes the text of a number within its bounds. -/
theorem faultOf_natText {n : Nat} (hlo : lo ≤ n) (hhi : n ≤ hi)
    (hshort : (natText n).length ≤ digitLimit) :
    (LengthRule.integer lo hi).faultOf (natText n) = .ok none := by
  rw [faultOf_of_writes (writes_natText n) (not_longNumber_natText hshort), if_pos ⟨hlo, hhi⟩]

theorem faultOf_padded {before after : List Char} (hb : ∀ c ∈ before, isBlank c = true)
    (ha : ∀ c ∈ after, isBlank c = true) {zeros n : Nat}
    (hshort : zeros + (natText n).length ≤ digitLimit) :
    (LengthRule.integer lo hi).faultOf (String.ofList (padded before zeros n after)) =
      (LengthRule.integer lo hi).faultOf (natText n) := by
  have hplain : (natText n).length ≤ digitLimit := by omega
  rw [faultOf_of_writes (writes_natText n) (not_longNumber_natText hplain)]
  apply faultOf_of_writes
  · rw [String.toList_ofList]
    exact writes_padded hb ha zeros n
  · rw [String.toList_ofList]
    exact not_longNumber_padded hb ha hshort

/-- The minus sign of a negative number is no digit. -/
theorem faultOf_negative {n : Int} (hneg : n < 0) :
    (LengthRule.integer lo hi).faultOf (intText n) = .ok (some .notInteger) := by
  obtain ⟨m, rfl⟩ := Int.eq_negSucc_of_lt_zero hneg
  have hsign : ¬ (intText (.negSucc m)).toList.all isDigit = true := by
    simp [intText, isDigit]
  have hread : readNatural (intText (.negSucc m)).toList = .ok none := by
    unfold readNatural
    rw [trimChars_of_bare (bare_intText _), if_neg fun h => hsign h.2]
    rfl
  unfold LengthRule.faultOf
  rw [hread]
  rfl

theorem faultOf_intText_eq_none_iff (h0 : 0 ≤ lo) {n : Int}
    (hshort : (natText n.natAbs).length ≤ digitLimit) :
    (LengthRule.integer lo hi).faultOf (intText n) = .ok none ↔ lo ≤ n ∧ n ≤ hi := by
  cases n with
  | ofNat n =>
    rw [intText, faultOf_of_writes (writes_natText n) (not_longNumber_natText hshort)]
    simp
  | negSucc n =>
    rw [faultOf_negative (Int.negSucc_lt_zero n)]
    simp
    omega

namespace LengthRule

theorem clamp_eq_self_iff (hle : lo ≤ hi) {n : Int} : clamp lo hi n = n ↔ lo ≤ n ∧ n ≤ hi := by
  unfold clamp
  omega

theorem clamp_bounds (hle : lo ≤ hi) (n : Int) : lo ≤ clamp lo hi n ∧ clamp lo hi n ≤ hi := by
  unfold clamp
  omega

theorem clamp_eq_or (n : Int) : clamp lo hi n = lo ∨ clamp lo hi n = hi ∨ clamp lo hi n = n := by
  unfold clamp
  omega

theorem clamp_mono {m n : Int} (hmn : m ≤ n) : clamp lo hi m ≤ clamp lo hi n := by
  unfold clamp
  omega

theorem clamp_clamp (hle : lo ≤ hi) (n : Int) : clamp lo hi (clamp lo hi n) = clamp lo hi n :=
  (clamp_eq_self_iff hle).mpr (clamp_bounds hle n)

/-- A rule with bounds takes the numbers that stay where they are when moved into the bounds, and these are all
the numbers that are moved to. Zeros and blanks around the digits change nothing, nor the constraint that a
number does not meet. -/
theorem checkLength_iff_clamp_eq (h0 : 0 ≤ lo) (hle : lo ≤ hi)
    (hlo : (natText lo.natAbs).length ≤ digitLimit) (hhi : (natText hi.natAbs).length ≤ digitLimit)
    (type : String) :
    (∀ n : Int, (natText n.natAbs).length ≤ digitLimit →
      (checkLength (.integer lo hi) type (some (intText n)) = .ok () ↔ clamp lo hi n = n) ∧
        checkLength (.integer lo hi) type (some (intText (clamp lo hi n))) = .ok ()) ∧
      (∀ n, clamp lo hi (clamp lo hi n) = clamp lo hi n) ∧
      (∀ m n, m ≤ n → clamp lo hi m ≤ clamp lo hi n) ∧
      ∀ (before after : List Char) (zeros n : Nat), (∀ c ∈ before, isBlank c = true) →
        (∀ c ∈ after, isBlank c = true) → zeros + (natText n).length ≤ digitLimit →
        let text := String.ofList (padded before zeros n after)
        (LengthRule.integer lo hi).faultOf text = (LengthRule.integer lo hi).faultOf (natText n) ∧
          (checkLength (.integer lo hi) type (some text) = .ok () ↔
            checkLength (.integer lo hi) type (some (natText n)) = .ok ()) := by
  have haccepts : ∀ s, checkLength (.integer lo hi) type (some s) = .ok () ↔
      (LengthRule.integer lo hi).faultOf s = .ok Option.none := by
    intro s
    rw [checkLength_eq_ok_iff]
    simp
  refine ⟨?_, clamp_clamp hle, fun _ _ => clamp_mono, ?_⟩
  · intro n hn
    have hclamped : (natText (clamp lo hi n).natAbs).length ≤ digitLimit := by
      rcases @clamp_eq_or lo hi n with h | h | h
      · rwa [h]
      · rwa [h]
      · rwa [h]
    constructor
    · rw [haccepts, faultOf_intText_eq_none_iff h0 hn, clamp_eq_self_iff hle]
    · rw [haccepts, faultOf_intText_eq_none_iff h0 hclamped]
      exact clamp_bounds hle n
  · intro before after zeros n hb ha hshort
    have hsame : (integer lo hi).faultOf (String.ofList (padded before zeros n after)) =
        (integer lo hi).faultOf (natText n) := faultOf_padded hb ha hshort
    refine ⟨hsame, ?_⟩
    rw [haccepts, haccepts, hsame]

/-- A number beyond the bounds, a negative one, and one with as many zeros before it as can be read. -/
theorem checkLength_iff_clamp_eq_wordLength :
    checkLength (.integer 1 65535) "VARCHAR" (some (intText 70000)) ≠ .ok () ∧
      checkLength (.integer 1 65535) "VARCHAR" (some (intText (-7))) ≠ .ok () ∧
      clamp 1 65535 70000 = 65535 ∧ checkLength (.integer 1 65535) "VARCHAR" (some "65535") = .ok () ∧
      checkLength (.integer 1 65535) "VARCHAR"
        (some (String.ofList (padded [' ', '\u3000'] 4298 42 ['\n']))) = .ok () := by
  have hshort : ∀ n ∈ [(1 : Int), -7, 42, 65535, 70000],
      (natText n.natAbs).length ≤ digitLimit := by
    decide +kernel
  have htop : intText (clamp 1 65535 70000) = "65535" := by decide +kernel
  obtain ⟨hnumbers, _, _, hpadded⟩ := @checkLength_iff_clamp_eq 1 65535 (by decide)
    (by decide) (hshort 1 (by simp)) (hshort 65535 (by simp)) "VARCHAR"
  refine ⟨?_, ?_, rfl, ?_, ?_⟩
  · intro h
    exact absurd ((hnumbers 70000 (hshort 70000 (by simp))).1.mp h) (by decide)
  · intro h
    exact absurd ((hnumbers (-7) (hshort (-7) (by simp))).1.mp h) (by decide)
  · rw [← htop]
    exact (hnumbers 70000 (hshort 70000 (by simp))).2
  · have hbefore : ∀ c ∈ [' ', '\u3000'], isBlank c = true :=
      List.forall_mem_cons.mpr ⟨rfl, List.forall_mem_singleton.mpr rfl⟩
    have hafter : ∀ c ∈ ['\n'], isBlank c = true := List.forall_mem_singleton.mpr rfl
    apply (hpadded [' ', '\u3000'] ['\n'] 4298 42 hbefore hafter (by decide +kernel)).2.mpr
    exact (hnumbers 42 (hshort 42 (by simp))).1.mpr (by decide)

end LengthRule

end

end WarehouseSchema
