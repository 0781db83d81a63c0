import Mathlib.Algebra.Order.Field.Power
import Mathlib.Data.Nat.Cast.Order.Field
import Mathlib.Tactic.FieldSimp
import Mathlib.Tactic.Linarith
import Mathlib.Tactic.NormNum
import Mathlib.Tactic.Positivity
import Mathlib.Tactic.Ring
import WarehouseSchema.Number.Binary64

/-!
How large floating-point numbers get. A quotient below a power of two is rounded to a finite number below the
next power, as long as the power is far from the ends of the format; so sums, products and quotients of small
numbers stay finite.
-/

namespace WarehouseSchema.Number

theorem cast_twoTo (n : Nat) : ((twoTo n : Nat) : ℚ) = 2 ^ (n : Int) := by
  rw [twoTo, zpow_natCast]
  exact Nat.cast_pow 2 n

theorem roundHalfEven_bounds (num den : Nat) :
    num / den ≤ roundHalfEven num den ∧ roundHalfEven num den ≤ num / den + 1 := by
  unfold roundHalfEven
  dsimp only
  split_ifs <;> omega

theorem scaleDown_pos (num : Nat) {den : Nat} (h : 0 < den) (e : Int) : 0 < (scaleDown num den e).2 := by
  unfold scaleDown
  split
  · exact Nat.mul_pos h (twoTo_pos _)
  · exact h

theorem scaleDown_ratio (num den : Nat) (e : Int) :
    ((scaleDown num den e).1 : ℚ) / (scaleDown num den e).2 = num / den * 2 ^ (-e) := by
  unfold scaleDown
  split
  · rename_i he
    rw [Nat.cast_mul, cast_twoTo, Int.toNat_of_nonneg he, zpow_neg, ← div_div, div_eq_mul_inv _ (2 ^ e)]
  · rename_i he
    rw [Nat.cast_mul, cast_twoTo, Int.toNat_of_nonneg (by omega), mul_div_right_comm]

/-- A quotient rounded to a whole multiple of a power of two is off by no more than one multiple. -/
theorem roundHalfEven_scaleDown (num : Nat) {den : Nat} (hden : 0 < den) (e : Int) :
    (num : ℚ) / den - 2 ^ e ≤ roundHalfEven (scaleDown num den e).1 (scaleDown num den e).2 * 2 ^ e ∧
      roundHalfEven (scaleDown num den e).1 (scaleDown num den e).2 * 2 ^ e ≤ (num : ℚ) / den + 2 ^ e := by
  have hpos := scaleDown_pos num hden e
  have hratio := scaleDown_ratio num den e
  generalize (scaleDown num den e).1 = n at *
  generalize (scaleDown num den e).2 = d at *
  obtain ⟨hleast, hgreatest⟩ := roundHalfEven_bounds n d
  have hback : (num : ℚ) / den = n / d * 2 ^ e := by
    rw [hratio, mul_assoc, ← zpow_add₀ two_ne_zero, neg_add_cancel, zpow_zero, mul_one]
  have hstep : (0 : ℚ) < 2 ^ e := by positivity
  constructor
  · have hfloor : (n : ℚ) / d ≤ roundHalfEven n d + 1 := by
      rw [div_le_iff₀ (Nat.cast_pos.mpr hpos)]
      have hlt : n < (roundHalfEven n d + 1) * d :=
        (Nat.div_lt_iff_lt_mul hpos).mp (Nat.lt_succ_of_le hleast)
      exact_mod_cast hlt.le
    rw [hback, sub_le_iff_le_add, ← add_one_mul]
    exact mul_le_mul_of_nonneg_right hfloor hstep.le
  · have hceiling : (roundHalfEven n d : ℚ) ≤ n / d + 1 := by
      calc (roundHalfEven n d : ℚ) ≤ ((n / d : Nat) : ℚ) + 1 := by exact_mod_cast hgreatest
        _ ≤ n / d + 1 := add_le_add_left Nat.cast_div_le 1
    rw [hback, ← add_one_mul]
    exact mul_le_mul_of_nonneg_right hceiling hstep.le

/-- The lengths in bits of numerator and denominator tell how large a quotient is at least. -/
theorem two_zpow_lt_ratio {num den : Nat} (hnum : num ≠ 0) (hden : 0 < den) :
    (2 : ℚ) ^ ((num.log2 : Int) - den.log2 - 1) < num / den := by
  have hleast : (2 : ℚ) ^ (num.log2 : Int) ≤ num := by
    rw [zpow_natCast]
    exact_mod_cast Nat.log2_self_le hnum
  have hgreatest : (den : ℚ) < 2 ^ ((den.log2 : Int) + 1) := by
    have hlt : den < 2 ^ (den.log2 + 1) := Nat.lt_log2_self
    exact_mod_cast hlt
  rw [lt_div_iff₀ (Nat.cast_pos.mpr hden)]
  calc (2 : ℚ) ^ ((num.log2 : Int) - den.log2 - 1) * den
      < 2 ^ ((num.log2 : Int) - den.log2 - 1) * 2 ^ ((den.log2 : Int) + 1) :=
        mul_lt_mul_of_pos_left hgreatest (by positivity)
    _ = 2 ^ (num.log2 : Int) := by rw [← zpow_add₀ two_ne_zero]; congr 1; omega
    _ ≤ num := hleast

namespace Binary64

/-- The number is finite and smaller in magnitude than a power of two. -/
def Below (k : Int) : Binary64 → Prop
  | .finite _ m e => (m : ℚ) * 2 ^ e < 2 ^ k
  | _ => False

theorem Below.mono {x : Binary64} {j k : Int} (h : x.Below j) (hjk : j ≤ k) : x.Below k := by
  cases x with
  | finite negative m e => exact lt_of_lt_of_le h (zpow_le_zpow_right₀ one_le_two hjk)
  | _ => exact h

theorem Below.exists_finite {x : Binary64} {k : Int} (h : x.Below k) :
    ∃ negative m e, x = .finite negative m e ∧ (m : ℚ) * 2 ^ e < 2 ^ k := by
  cases x with
  | finite negative m e => exact ⟨negative, m, e, rfl, h⟩
  | _ => exact absurd h id

theorem below_zero (negative : Bool) (k : Int) : (zero negative).Below k := by
  show ((0 : Nat) : ℚ) * 2 ^ minExponent < 2 ^ k
  rw [Nat.cast_zero, zero_mul]
  positivity

theorem Below.negate {x : Binary64} {k : Int} (h : x.Below k) : x.negate.Below k := by
  cases x with
  | finite negative m e => exact h
  | _ => exact absurd h id

/-- The quotient rounded to a whole multiple of a power of two. -/
def roundedAt (negative : Bool) (num den : Nat) (e : Int) : Binary64 :=
  let m := roundHalfEven (scaleDown num den e).1 (scaleDown num den e).2
  let (m, e) := if m = twoTo 53 then (twoTo 52, e + 1) else (m, e)
  if maxExponent < e then .infinite negative else .finite negative m e

theorem exists_roundedAt (negative : Bool) {num : Nat} (den : Nat) (hnum : num ≠ 0) :
    ∃ e ≤ max minExponent ((num.log2 : Int) - den.log2 - 52),
      ofRatio negative num den = roundedAt negative num den e := by
  unfold ofRatio
  rw [if_neg hnum]
  dsimp only
  split
  · exact ⟨_, by omega, rfl⟩
  · exact ⟨_, le_rfl, rfl⟩

theorem roundedAt_infinite_or_finite (negative : Bool) (num den : Nat) (e : Int) :
    (maxExponent ≤ e ∧ roundedAt negative num den e = .infinite negative) ∨
      ∃ m f, roundedAt negative num den e = .finite negative m f ∧ (m : ℚ) * 2 ^ f =
        roundHalfEven (scaleDown num den e).1 (scaleDown num den e).2 * 2 ^ e := by
  unfold roundedAt
  dsimp only
  by_cases hcarry : roundHalfEven (scaleDown num den e).1 (scaleDown num den e).2 = twoTo 53
  · rw [if_pos hcarry]
    dsimp only
    split
    · exact Or.inl ⟨by omega, rfl⟩
    · -- the carry halves the significand and moves the exponent up by one
      refine Or.inr ⟨_, _, rfl, ?_⟩
      rw [hcarry, twoTo_succ 52, Nat.cast_mul, mul_assoc, zpow_add_one₀ two_ne_zero, mul_comm (2 ^ e)]
      rfl
  · rw [if_neg hcarry]
    dsimp only
    split
    · exact Or.inl ⟨by omega, rfl⟩
    · exact Or.inr ⟨_, _, rfl, rfl⟩

theorem ofRatio_ne_nan (negative : Bool) (num den : Nat) : ofRatio negative num den ≠ .nan := by
  by_cases hnum : num = 0
  · rw [ofRatio, if_pos hnum]
    simp [zero]
  · obtain ⟨e, _, heq⟩ := exists_roundedAt negative den hnum
    rw [heq]
    rcases roundedAt_infinite_or_finite negative num den e with ⟨_, hinfinite⟩ | ⟨m, f, hfinite, _⟩
    · rw [hinfinite]
      simp
    · rw [hfinite]
      simp

theorem ofRatio_below (negative : Bool) {num den : Nat} {k : Int} (hden : 0 < den)
    (h : (num : ℚ) / den < 2 ^ k) (hleast : minExponent ≤ k) (hgreatest : k ≤ 1022) :
    (ofRatio negative num den).Below (k + 1) := by
  by_cases hnum : num = 0
  · rw [ofRatio, if_pos hnum]
    exact below_zero negative (k + 1)
  · obtain ⟨e, he, heq⟩ := exists_roundedAt negative den hnum
    -- the bits of numerator and denominator bound the exponent, so that one multiple is small too
    have hbits := (zpow_lt_zpow_iff_right₀ one_lt_two).mp ((two_zpow_lt_ratio hnum hden).trans h)
    have hmin : minExponent = -1074 := rfl
    have hmax : maxExponent = 971 := rfl
    rcases roundedAt_infinite_or_finite negative num den e with ⟨hlarge, _⟩ | ⟨m, f, hfinite, hvalue⟩
    · omega
    · rw [heq, hfinite]
      calc (m : ℚ) * 2 ^ f ≤ num / den + 2 ^ e := hvalue ▸ (roundHalfEven_scaleDown num hden e).2
        _ < 2 ^ k + 2 ^ k := add_lt_add_of_lt_of_le h (zpow_le_zpow_right₀ one_le_two (by omega))
        _ = 2 ^ (k + 1) := by rw [zpow_add_one₀ two_ne_zero, mul_two]

/-- The number is infinite, or finite and not smaller in magnitude than a power of two. -/
def AtLeast (k : Int) : Binary64 → Prop
  | .finite _ m e => (2 : ℚ) ^ k ≤ m * 2 ^ e
  | .infinite _ => True
  | .nan => False

theorem ofRatio_atLeast (negative : Bool) {num den : Nat} (hden : 0 < den) (h : (1 : ℚ) ≤ num / den) :
    (ofRatio negative num den).AtLeast (-1) := by
  have hnum : num ≠ 0 := by
    rintro rfl
    norm_num at h
  obtain ⟨e, he, heq⟩ := exists_roundedAt negative den hnum
  rw [heq]
  rcases roundedAt_infinite_or_finite negative num den e with ⟨_, hinfinite⟩ | ⟨m, f, hfinite, hvalue⟩
  · rw [hinfinite]
    trivial
  · have hmultiple : (2 : ℚ) ^ e * 2 ≤ num / den := by
      rw [← zpow_add_one₀ two_ne_zero]
      have hmin : minExponent = -1074 := rfl
      rcases le_max_iff.mp he with hsmall | hbits
      · calc (2 : ℚ) ^ (e + 1) ≤ 2 ^ (0 : Int) := zpow_le_zpow_right₀ one_le_two (by omega)
          _ = 1 := zpow_zero 2
          _ ≤ num / den := h
      · calc (2 : ℚ) ^ (e + 1) ≤ 2 ^ ((num.log2 : Int) - den.log2 - 1) :=
              zpow_le_zpow_right₀ one_le_two (by omega)
          _ ≤ num / den := (two_zpow_lt_ratio hnum hden).le
    have hleast := (roundHalfEven_scaleDown num hden e).1
    rw [hfinite]
    show (2 : ℚ) ^ (-1 : Int) ≤ m * 2 ^ f
    rw [hvalue, zpow_neg_one]
    linarith

theorem toRatio_pos (negative : Bool) (m : Nat) (e : Int) : 0 < (toRatio negative m e).2 := by
  unfold toRatio
  by_cases he : 0 ≤ e
  · rw [if_pos he]
    exact Nat.one_pos
  · rw [if_neg he]
    exact twoTo_pos _

theorem toRatio_ratio (negative : Bool) (m : Nat) (e : Int) :
    ((toRatio negative m e).1.natAbs : ℚ) / (toRatio negative m e).2 = m * 2 ^ e := by
  have hsign : ∀ n : Nat, (if negative then -(n : Int) else n).natAbs = n := by
    intro n
    split <;> omega
  unfold toRatio
  by_cases he : 0 ≤ e
  · rw [if_pos he]
    dsimp only
    rw [hsign, Nat.cast_mul, cast_twoTo, Int.toNat_of_nonneg he, Nat.cast_one, div_one]
  · rw [if_neg he]
    dsimp only
    rw [hsign, cast_twoTo, Int.toNat_of_nonneg (by omega), zpow_neg, div_inv_eq_mul]

theorem add_below {x y : Binary64} {k : Int} (hx : x.Below k) (hy : y.Below k) (hleast : 0 ≤ k)
    (hgreatest : k ≤ 1000) : (x.add y).Below (k + 2) := by
  obtain ⟨a, m, e, rfl, hm⟩ := hx.exists_finite
  obtain ⟨b, n, f, rfl, hn⟩ := hy.exists_finite
  rw [← toRatio_ratio a] at hm
  rw [← toRatio_ratio b] at hn
  have hc := toRatio_pos a m e
  have hd := toRatio_pos b n f
  rw [add]
  generalize toRatio a m e = p at *
  generalize toRatio b n f = q at *
  dsimp only
  split
  · exact below_zero _ _
  · have hle : ((p.1 * q.2 + q.1 * p.2).natAbs : ℚ) ≤ p.1.natAbs * q.2 + q.1.natAbs * p.2 := by
      have htriangle := Int.natAbs_add_le (p.1 * q.2) (q.1 * p.2)
      rw [Int.natAbs_mul, Int.natAbs_mul, Int.natAbs_natCast, Int.natAbs_natCast] at htriangle
      exact_mod_cast htriangle
    have hcpos : (0 : ℚ) < p.2 := Nat.cast_pos.mpr hc
    have hdpos : (0 : ℚ) < q.2 := Nat.cast_pos.mpr hd
    have hsum : ((p.1 * q.2 + q.1 * p.2).natAbs : ℚ) / ((p.2 * q.2 : Nat) : ℚ) < 2 ^ (k + 1) := by
      calc ((p.1 * q.2 + q.1 * p.2).natAbs : ℚ) / ((p.2 * q.2 : Nat) : ℚ)
          ≤ (p.1.natAbs * q.2 + q.1.natAbs * p.2) / (p.2 * q.2) := by rw [Nat.cast_mul]; gcongr
        _ = p.1.natAbs / p.2 + q.1.natAbs / q.2 := by field_simp
        _ < 2 ^ k + 2 ^ k := add_lt_add hm hn
        _ = 2 ^ (k + 1) := by rw [zpow_add_one₀ two_ne_zero, mul_two]
    have hmin : minExponent = -1074 := rfl
    have hrounded := ofRatio_below (decide (p.1 * q.2 + q.1 * p.2 < 0)) (Nat.mul_pos hc hd) hsum
      (by omega) (by omega)
    exact hrounded.mono (by omega)

theorem mul_below {x y : Binary64} {j k : Int} (hx : x.Below j) (hy : y.Below k) (hleast : 0 ≤ j + k)
    (hgreatest : j + k ≤ 1000) : (x.mul y).Below (j + k + 1) := by
  obtain ⟨a, m, e, rfl, hm⟩ := hx.exists_finite
  obtain ⟨b, n, f, rfl, hn⟩ := hy.exists_finite
  rw [← toRatio_ratio false] at hm hn
  have hc := toRatio_pos false m e
  have hd := toRatio_pos false n f
  rw [mul]
  generalize toRatio false m e = p at *
  generalize toRatio false n f = q at *
  have hproduct : ((p.1 * q.1).natAbs : ℚ) / ((p.2 * q.2 : Nat) : ℚ) < 2 ^ (j + k) := by
    calc ((p.1 * q.1).natAbs : ℚ) / ((p.2 * q.2 : Nat) : ℚ) =
          p.1.natAbs / p.2 * (q.1.natAbs / q.2) := by
          rw [Int.natAbs_mul, Nat.cast_mul, Nat.cast_mul, mul_div_mul_comm]
      _ < 2 ^ j * 2 ^ k := mul_lt_mul'' hm hn (by positivity) (by positivity)
      _ = 2 ^ (j + k) := (zpow_add₀ two_ne_zero j k).symm
  have hmin : minExponent = -1074 := rfl
  exact ofRatio_below (a != b) (Nat.mul_pos hc hd) hproduct (by omega) (by omega)

theorem div_below {x y : Binary64} {j k : Int} (hx : x.Below j) (hy : y.AtLeast k) (hleast : 0 ≤ j - k)
    (hgreatest : j - k ≤ 1000) : (x.div y).Below (j - k + 1) := by
  obtain ⟨a, m, e, rfl, hm⟩ := hx.exists_finite
  cases y with
  | nan => exact absurd hy id
  | infinite b => exact below_zero _ _
  | finite b n f =>
    have hpositive : (0 : ℚ) < n * 2 ^ f := lt_of_lt_of_le (by positivity) hy
    have hn : n ≠ 0 := by
      rintro rfl
      simp at hpositive
    have hquotient : (m : ℚ) * 2 ^ e / (n * 2 ^ f) < 2 ^ (j - k) := by
      rw [div_lt_iff₀ hpositive]
      calc (m : ℚ) * 2 ^ e < 2 ^ j := hm
        _ = 2 ^ (j - k) * 2 ^ k := by rw [← zpow_add₀ two_ne_zero, sub_add_cancel]
        _ ≤ 2 ^ (j - k) * (n * 2 ^ f) := mul_le_mul_of_nonneg_left hy (by positivity)
    rw [← toRatio_ratio false, ← toRatio_ratio false] at hquotient
    rw [← toRatio_ratio false] at hpositive
    have hc := toRatio_pos false m e
    simp only [div, if_neg hn]
    generalize toRatio false m e = p at *
    generalize toRatio false n f = q at *
    have hq : 0 < q.1.natAbs := by
      rcases Nat.eq_zero_or_pos q.1.natAbs with hzero | hpos
      · rw [hzero] at hpositive
        simp at hpositive
      · exact hpos
    have hratio : ((p.1.natAbs * q.2 : Nat) : ℚ) / ((q.1.natAbs * p.2 : Nat) : ℚ) < 2 ^ (j - k) := by
      rwa [div_div_div_eq, mul_comm (p.2 : ℚ), ← Nat.cast_mul, ← Nat.cast_mul] at hquotient
    have hmin : minExponent = -1074 := rfl
    exact ofRatio_below (a != b) (Nat.mul_pos hq hc) hratio (by omega) (by omega)

end Binary64

end WarehouseSchema.Number
