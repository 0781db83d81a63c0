import WarehouseSchema.Proofs.Outcome
import WarehouseSchema.Proofs.Text.Decimal

/-!
Integers that are written in base ten. Main statement: an integer is read from its digits, unless there
are too many of them.
-/

namespace WarehouseSchema.Number

open Text

/-- Digits, behind a minus if there is one. -/
def signed (negative : Bool) (digits : List Char) : List Char :=
  if negative then '-' :: digits else digits

/-- The text writes an integer with so many digits in base ten. -/
inductive WritesInt : List Char → Int → (count : Nat) → Prop where
  | mk (negative : Bool) {digits : List Char} (hne : digits ≠ [])
      (hdigits : ∀ c ∈ digits, isDigit c = true) :
      WritesInt (signed negative digits)
        (if negative then -(digitsValue digits : Int) else digitsValue digits) digits.length

theorem decimalValue?_of_isDigit {c : Char} (h : isDigit c = true) :
    decimalValue? c = some (digitValue c) := by
  simp only [isDigit, Bool.and_eq_true, decide_eq_true_eq, Char.le_def, UInt32.le_iff_toNat_le] at h
  have hleast : 48 ≤ c.toNat := h.1
  have hgreatest : c.toNat ≤ 57 := h.2
  have hrow : (48 ≤ c.toNat && c.toNat ≤ 48 + 9) = true := by
    simp only [Bool.and_eq_true, decide_eq_true_eq]
    omega
  simp only [decimalValue?, decimalZeros, List.find?_cons, hrow, Option.map_some, digitValue]

theorem takeDigits_of_digits (after : Bool) {digits : List Char}
    (h : ∀ c ∈ digits, isDigit c = true) :
    takeDigits after digits = some (digits.map digitValue, []) := by
  induction digits generalizing after with
  | nil => rfl
  | cons c digits ih =>
    rw [takeDigits, decimalValue?_of_isDigit (h c List.mem_cons_self),
      ih true fun d hd => h d (List.mem_cons_of_mem c hd)]
    rfl

theorem ofDigits_map (digits : List Char) : ofDigits (digits.map digitValue) = digitsValue digits := by
  rw [ofDigits, digitsValue, List.foldl_map]

theorem digitsValue_append_singleton (digits : List Char) (c : Char) :
    digitsValue (digits ++ [c]) = 10 * digitsValue digits + digitValue c := by
  rw [digitsValue, List.foldl_append]
  rfl

theorem not_isDigit_sign : isDigit '-' = false ∧ isDigit '+' = false := by decide

theorem takeSign_signed (negative : Bool) {digits : List Char} (hne : digits ≠ [])
    (h : ∀ c ∈ digits, isDigit c = true) : takeSign (signed negative digits) = (negative, digits) := by
  cases negative with
  | true => rfl
  | false =>
    cases digits with
    | nil => exact absurd rfl hne
    | cons c digits =>
      have hc := h c List.mem_cons_self
      unfold signed takeSign
      simp only [Bool.false_eq_true, if_false]
      split
      · rename_i heq
        obtain ⟨rfl, -⟩ := List.cons.inj heq
        rw [not_isDigit_sign.1] at hc
        cases hc
      · rename_i heq
        obtain ⟨rfl, -⟩ := List.cons.inj heq
        rw [not_isDigit_sign.2] at hc
        cases hc
      · rfl

theorem not_isBlank_of_mem_signed {negative : Bool} {digits : List Char}
    (h : ∀ c ∈ digits, isDigit c = true) : ∀ c ∈ signed negative digits, isBlank c = false := by
  intro c hc
  cases negative with
  | false => exact isBlank_of_isDigit (h c hc)
  | true =>
    rcases List.mem_cons.mp hc with rfl | hc
    · decide
    · exact isBlank_of_isDigit (h c hc)

theorem bare_signed {negative : Bool} {digits : List Char} (h : ∀ c ∈ digits, isDigit c = true) :
    Bare (signed negative digits) :=
  bare_of_forall (not_isBlank_of_mem_signed h)

/-- A text without blanks at its ends has none that may stand around a number. -/
theorem trimNumeral_of_bare {cs : List Char} (h : Bare cs) : trimNumeral cs = cs := by
  have hnumeral : ∀ c, isBlank c = false → isNumeralBlank c = false := by
    intro c hc
    rw [isNumeralBlank, hc, Bool.false_and]
  rw [trimNumeral, dropWhile_of_head fun c hc => hnumeral c (h.1 c hc),
    dropEndWhile_of_getLast fun c hc => hnumeral c (h.2 c hc)]

theorem readInt_of_signed {s : String} {negative : Bool} {digits : List Char}
    (hs : s.toList = signed negative digits) (hne : digits ≠ [])
    (h : ∀ c ∈ digits, isDigit c = true) :
    readInt s = if digitLimit < digits.length then .error (.tooLongToRead digits.length)
      else .ok (if negative then -(digitsValue digits : Int) else digitsValue digits) := by
  have htrim : trimNumeral s.toList = signed negative digits := by
    rw [hs, trimNumeral_of_bare (bare_signed h)]
  have hmap : ∃ d ds, digits.map digitValue = d :: ds := by
    cases digits with
    | nil => exact absurd rfl hne
    | cons c digits => exact ⟨_, _, rfl⟩
  obtain ⟨d, ds, hds⟩ := hmap
  have hlength : (d :: ds).length = digits.length := by rw [← hds, List.length_map]
  unfold readInt
  rw [htrim, takeSign_signed negative hne h]
  simp only [takeDigits_of_digits false h, hds]
  rw [hlength, ← hds, ofDigits_map]
  rfl

theorem readInt_of_writesInt {s : String} {n : Int} {count : Nat} (h : WritesInt s.toList n count)
    (hcount : count ≤ digitLimit) : readInt s = .ok n := by
  generalize hs : s.toList = cs at h
  obtain ⟨negative, hne, hdigits⟩ := h
  rw [readInt_of_signed hs hne hdigits, if_neg (by omega)]

theorem WritesInt.bare {cs : List Char} {n : Int} {count : Nat} (h : WritesInt cs n count) :
    Bare cs := by
  obtain ⟨negative, hne, hdigits⟩ := h
  exact bare_signed hdigits

end WarehouseSchema.Number
