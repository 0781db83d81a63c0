import WarehouseSchema.Proofs.Csv.Numeral
import WarehouseSchema.Proofs.Outcome
import WarehouseSchema.Proofs.Text.LowerCase

/-!
What is known of the values of a column from their kind. Texts are kept as they are, truth values are all
spelled as words for them, and floating-point numbers are read from each value, so that one is infinite just
when a value is a word for an infinity. Main statements: the base type of a column is boolean exactly when the
values that are looked at read as truth values, and only columns of numbers with an infinite one, or of texts on
which the attempt to take them for moments breaks off, have none.
-/

namespace WarehouseSchema.Csv

open Text Number

theorem mapM_eq_some_iff {α β : Type} {f : α → Option β} {xs : List α} {ys : List β} :
    xs.mapM f = some ys ↔ List.Forall₂ (fun x y => f x = some y) xs ys := by
  induction xs generalizing ys with
  | nil => simp [eq_comm]
  | cons x xs ih =>
    rw [List.mapM_cons, List.forall₂_cons_left_iff]
    simp only [Option.bind_eq_bind, Option.bind_eq_some_iff, Option.pure_def, Option.some.injEq, ih]
    constructor
    · rintro ⟨y, hy, rest, hrest, rfl⟩
      exact ⟨y, rest, hy, hrest, rfl⟩
    · rintro ⟨y, rest, hy, hrest, rfl⟩
      exact ⟨y, hy, rest, hrest, rfl⟩

/-- What stands on one side of related lists stands on the other. -/
theorem exists_mem_iff_of_forall₂ {α β : Type} {R : α → β → Prop} {P : α → Prop} {Q : β → Prop}
    {xs : List α} {ys : List β} (h : List.Forall₂ R xs ys) (hiff : ∀ x y, R x y → (Q y ↔ P x)) :
    (∃ y ∈ ys, Q y) ↔ ∃ x ∈ xs, P x := by
  induction h with
  | nil => simp
  | cons hxy _ ih => simp only [List.exists_mem_cons_iff, hiff _ _ hxy, ih]

/-- The floating-point number that a value is, be it written as an integer. -/
inductive ReadsAs (s : String) : Binary64 → Prop where
  | integer {n : Int} : signedInteger s = .ok n → ReadsAs s (.ofInt n)
  | number {x : Binary64} : floatNumber? s = some x → ReadsAs s x

theorem ReadsAs.isFinite_eq_false_iff {s : String} {x : Binary64} (h : ReadsAs s x) :
    isFinite x = false ↔ NamesInfinity s := by
  cases h with
  | integer hn =>
    obtain ⟨hword, d, hd, hdigit⟩ := signedInteger_eq_ok hn
    rw [ofInt_isFinite hword]
    refine iff_of_false (by simp) fun hinfinity => ?_
    rw [hinfinity.digitless d hd] at hdigit
    cases hdigit
  | number hx => exact Csv.isFinite_eq_false_iff hx

namespace SampleColumn

/-- What the values of a column are when they are of a kind. -/
inductive OfKind (c : SampleColumn) : Kind → Prop where
  | truths : (∀ s ∈ c.present, s ∈ truthWords) → OfKind c .truths
  | integers : OfKind c .integers
  | floats {xs : List Binary64} : List.Forall₂ ReadsAs c.present xs → OfKind c (.floats xs)
  | texts : OfKind c (.texts c.present)

theorem ofKind_otherKind (c : SampleColumn) : c.OfKind (otherKind c.present) := by
  unfold otherKind
  cases hnumbers : c.present.mapM floatNumber? with
  | some xs => exact .floats ((mapM_eq_some_iff.mp hnumbers).imp fun _ _ hx => .number hx)
  | none =>
    dsimp only
    split
    · rename_i hwords
      exact .truths (by simpa using hwords)
    · exact .texts

theorem ofKind_kind (c : SampleColumn) : c.OfKind c.kind := by
  unfold kind
  cases hintegers : c.present.mapM signedInteger with
  | ok ns =>
    dsimp only
    split
    · refine .floats (List.forall₂_map_right_iff.mpr ?_)
      exact (mapM_eq_ok_iff.mp hintegers).imp fun _ _ hn => .integer hn
    · exact .integers
  | error fault =>
    cases fault with
    | malformed => exact c.ofKind_otherKind
    | tooLarge =>
      -- beyond the signed words the unsigned ones are tried, and a text that is neither decides
      dsimp only
      split
      · exact .integers
      · exact .texts
      · exact .texts
      · exact c.ofKind_otherKind

/-- A column of floating-point numbers of which a value is a word for an infinity. -/
def HoldsInfinity (c : SampleColumn) : Prop :=
  (∃ values, c.kind = .floats values) ∧ ∃ s ∈ c.present, NamesInfinity s

theorem holdsInfinity_iff {c : SampleColumn} {values : List Binary64} (h : c.kind = .floats values) :
    c.HoldsInfinity ↔ ∃ x ∈ values, isFinite x = false := by
  have hkind := c.ofKind_kind
  rw [h] at hkind
  cases hkind with
  | floats hread =>
    rw [exists_mem_iff_of_forall₂ hread fun s x hx => hx.isFinite_eq_false_iff]
    exact and_iff_right ⟨values, h⟩

theorem basetypeOfFloats_eq_error_iff {values : List Binary64} {fault : Fault} :
    basetypeOfFloats values = .error fault ↔
      (∃ x ∈ values, isFinite x = false) ∧ fault = .csv .infiniteToInteger := by
  unfold basetypeOfFloats
  split
  · rename_i hfinite
    refine iff_of_false (by simp) ?_
    rintro ⟨⟨x, hx, hinfinite⟩, _⟩
    rw [List.all_eq_true.mp hfinite x hx] at hinfinite
    cases hinfinite
  · rename_i hinfinite
    rw [Except.error.injEq, eq_comm, iff_and_self]
    intro _
    simpa using hinfinite

end SampleColumn

/-- The text is a word for a truth value in some letter case. -/
def ReadsTruth (s : String) : Prop := ∃ word ∈ ["true", "false"], SameLetters s.toList word.toList

instance (s : String) : Decidable (ReadsTruth s) :=
  inferInstanceAs (Decidable (∃ word ∈ ["true", "false"], SameLetters s.toList word.toList))

theorem namesTruth_iff {s : String} : namesTruth s = true ↔ ReadsTruth s := by
  have htrue : lower s = "true" ↔ SameLetters s.toList "true".toList :=
    lower_eq_iff (by decide) (by decide)
  have hfalse : lower s = "false" ↔ SameLetters s.toList "false".toList :=
    lower_eq_iff (by decide) (by decide)
  simp only [namesTruth, Bool.or_eq_true, decide_eq_true_eq, htrue, hfalse, ReadsTruth,
    List.mem_cons, List.not_mem_nil, or_false, exists_eq_or_imp, exists_eq_left]

theorem readsTruth_of_mem_truthWords : ∀ s ∈ truthWords, ReadsTruth s := by decide

/-- A word for a truth value is no number. -/
theorem ReadsTruth.not_number {s : String} (h : ReadsTruth s) :
    signedInteger s = .error .malformed ∧ floatNumber? s = none := by
  obtain ⟨word, hword, hsame⟩ := h
  have hletters : ∀ word ∈ ["true", "false"], Digitless word.toList := by decide
  have hdistinct : ∀ word ∈ ["true", "false"], ¬ NamesInfinity word := by decide
  have hdigits := hsame.digitless (hletters word hword)
  refine ⟨signedInteger_of_digitless hdigits, floatNumber_of_digitless hdigits ?_⟩
  rintro ⟨entry, hentry, hinfinity⟩
  exact hdistinct word hword ⟨entry, hentry, hsame.symm.trans hinfinity⟩

variable {probe : DateProbe}

theorem basetypeOfTexts_eq_boolean_iff {values : List String} :
    basetypeOfTexts probe values = .ok .boolean ↔
      ∀ s ∈ values.take truthSampleSize, ReadsTruth s := by
  unfold basetypeOfTexts
  simp only [List.all_eq_true, namesTruth_iff]
  split
  · rename_i hwords
    exact iff_of_true rfl hwords
  · rename_i hwords
    refine iff_of_false ?_ hwords
    split <;> simp

theorem basetypeOfTexts_eq_error_iff {values : List String} {fault : Fault} :
    basetypeOfTexts probe values = .error fault ↔
      (∃ s ∈ values.take truthSampleSize, ¬ ReadsTruth s) ∧ probe values = .broken fault := by
  unfold basetypeOfTexts
  simp only [List.all_eq_true, namesTruth_iff]
  split
  · rename_i hwords
    refine iff_of_false (by simp) ?_
    rintro ⟨⟨s, hs, hnot⟩, _⟩
    exact hnot (hwords s hs)
  · rename_i hwords
    rw [and_iff_right (by simpa using hwords)]
    cases probe values <;> simp

/-- A column that starts with a value that is no number is one of truth values or of texts. -/
theorem SampleColumn.kind_of_head {c : SampleColumn} {s : String} {rest : List String}
    (h : c.present = s :: rest) (hinteger : signedInteger s = .error .malformed)
    (hnumber : floatNumber? s = none) : c.kind = .truths ∨ c.kind = .texts c.present := by
  have hother : c.kind = otherKind c.present := by
    rw [kind, h, List.mapM_cons, hinteger]
    rfl
  have hnumbers : c.present.mapM floatNumber? = none := by
    rw [h, List.mapM_cons, hnumber]
    rfl
  rw [hother, otherKind, hnumbers]
  by_cases hwords : c.present.all truthWords.contains = true
  · exact Or.inl (if_pos hwords)
  · exact Or.inr (if_neg hwords)

/-- The base type of a column is boolean exactly when it has values and the first of them all read as truth
values. -/
theorem SampleColumn.basetype_eq_boolean_iff {c : SampleColumn} :
    c.basetype probe = .ok .boolean ↔
      c.present ≠ [] ∧ ∀ s ∈ c.present.take truthSampleSize, ReadsTruth s := by
  unfold basetype
  split
  · rename_i hnone
    exact iff_of_false (by simp) fun h => h.1 hnone
  · rename_i hsome
    rw [and_iff_right hsome]
    constructor
    · intro h
      have hkind := c.ofKind_kind
      generalize c.kind = kind at h hkind
      cases hkind with
      | truths hwords =>
        exact fun s hs => readsTruth_of_mem_truthWords s (hwords s (List.mem_of_mem_take hs))
      | integers => cases h
      | floats =>
        dsimp only [basetypeOfFloats] at h
        split at h
        · split at h <;> cases h
        · cases h
      | texts => exact basetypeOfTexts_eq_boolean_iff.mp h
    · intro h
      obtain ⟨s, rest, hpresent⟩ := List.exists_cons_of_ne_nil hsome
      have hfirst : ReadsTruth s := h s (hpresent ▸ List.mem_cons_self)
      obtain ⟨hinteger, hnumber⟩ := hfirst.not_number
      rcases kind_of_head hpresent hinteger hnumber with hkind | hkind
      · rw [hkind]
      · rw [hkind]
        exact basetypeOfTexts_eq_boolean_iff.mpr h

/-- What ends the inference of a column: an infinite number, or texts that do not begin with truth values only
and on which the attempt to take them for moments breaks off. -/
inductive SampleColumn.Ends (c : SampleColumn) (probe : DateProbe) : Fault → Prop where
  | infinity : c.HoldsInfinity → Ends c probe (.csv .infiniteToInteger)
  | broken {fault : Fault} : c.kind = .texts c.present →
      (∃ s ∈ c.present.take 20, ¬ ReadsTruth s) → probe c.present = .broken fault →
        Ends c probe fault

/-- A column has no base type exactly when something ends its inference. -/
theorem SampleColumn.basetype_eq_error_iff {c : SampleColumn} {fault : Fault} :
    c.basetype probe = .error fault ↔ c.Ends probe fault := by
  have hends : c.Ends probe fault ↔ (c.HoldsInfinity ∧ fault = .csv .infiniteToInteger) ∨
      c.kind = .texts c.present ∧
        (∃ s ∈ c.present.take truthSampleSize, ¬ ReadsTruth s) ∧ probe c.present = .broken fault := by
    constructor
    · intro h
      cases h with
      | infinity hholds => exact Or.inl ⟨hholds, rfl⟩
      | broken hkind hother hbroken => exact Or.inr ⟨hkind, hother, hbroken⟩
    · rintro (⟨hholds, rfl⟩ | ⟨hkind, hother, hbroken⟩)
      · exact .infinity hholds
      · exact .broken hkind hother hbroken
  rw [hends]
  unfold basetype
  split
  · rename_i hnone
    refine iff_of_false (by simp) ?_
    rintro (⟨⟨_, s, hs, _⟩, _⟩ | ⟨_, ⟨s, hs, _⟩, _⟩)
    · rw [hnone] at hs
      cases hs
    · rw [hnone] at hs
      cases hs
  · have hkind := c.ofKind_kind
    cases h : c.kind with
    | floats values =>
      rw [holdsInfinity_iff h]
      simpa using basetypeOfFloats_eq_error_iff
    | texts values =>
      rw [h] at hkind
      cases hkind
      simpa [HoldsInfinity, h] using basetypeOfTexts_eq_error_iff
    | _ => simp [HoldsInfinity, h]

end WarehouseSchema.Csv
