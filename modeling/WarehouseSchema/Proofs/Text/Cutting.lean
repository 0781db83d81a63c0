import Mathlib.Data.List.DropRight
import WarehouseSchema.Text.Basic
import WarehouseSchema.Text.Blank

/-!
Trimming and splitting. A bare text has no blank at its ends: trimming leaves a bare text, and takes
a bare text back from any blanks put around it. Splitting at a separator takes apart what was put
together from texts without it.
-/

namespace WarehouseSchema.Text

theorem dropEndWhile_eq_rdropWhile (p : Char → Bool) (cs : List Char) :
    dropEndWhile p cs = cs.rdropWhile p := by
  induction cs using List.reverseRecOn with
  | nil => rfl
  | append_singleton cs c ih =>
    cases h : p c with
    | true => rw [dropEndWhile_append_of_pos p cs h, List.rdropWhile_concat_pos p cs c h, ih]
    | false =>
      rw [dropEndWhile_append_of_neg p cs h, List.rdropWhile_concat_neg p cs c (by simp [h])]

theorem dropEndWhile_append_all {p : Char → Bool} (cs : List Char) {after : List Char}
    (h : ∀ c ∈ after, p c = true) : dropEndWhile p (cs ++ after) = dropEndWhile p cs := by
  induction after using List.reverseRecOn with
  | nil => simp
  | append_singleton after c ih =>
    rw [← List.append_assoc, dropEndWhile_append_of_pos p _ (h c (by simp))]
    exact ih fun d hd => h d (by simp [hd])

theorem exists_append_dropEndWhile (p : Char → Bool) (cs : List Char) :
    ∃ after, (∀ c ∈ after, p c = true) ∧ dropEndWhile p cs ++ after = cs := by
  rw [dropEndWhile_eq_rdropWhile]
  exact ⟨cs.rtakeWhile p, fun c hc => List.mem_rtakeWhile_imp hc, List.rdropWhile_append_rtakeWhile⟩

theorem head?_dropEndWhile {p : Char → Bool} {c : Char} (cs : List Char) (h : p c = false) :
    (dropEndWhile p (c :: cs)).head? = some c := by
  rw [dropEndWhile]
  split
  · rw [h]
    rfl
  · rfl

/-- A text with no blank at either end. -/
def Bare (cs : List Char) : Prop :=
  (∀ c ∈ cs.head?, isBlank c = false) ∧ ∀ c ∈ cs.getLast?, isBlank c = false

instance (cs : List Char) : Decidable (Bare cs) :=
  decidable_of_iff ((cs.head?.all fun c => !isBlank c) = true ∧
    (cs.getLast?.all fun c => !isBlank c) = true) (by simp [Bare, Option.all_eq_true])

theorem bare_of_forall {cs : List Char} (h : ∀ c ∈ cs, isBlank c = false) : Bare cs :=
  ⟨fun c hc => h c (List.mem_of_mem_head? hc), fun c hc => h c (List.mem_of_mem_getLast? hc)⟩

theorem dropEndWhile_of_getLast {p : Char → Bool} {cs : List Char}
    (h : ∀ c ∈ cs.getLast?, p c = false) : dropEndWhile p cs = cs := by
  rw [dropEndWhile_eq_rdropWhile]
  apply (List.rdropWhile_eq_self_iff (p := p)).mpr
  intro hne
  simp [h _ (List.getLast?_eq_some_getLast hne)]

theorem dropWhile_of_head {p : Char → Bool} {cs : List Char}
    (h : ∀ c ∈ cs.head?, p c = false) : cs.dropWhile p = cs := by
  cases cs with
  | nil => rfl
  | cons c cs => simp [h c rfl]

theorem trimChars_of_bare {cs : List Char} (h : Bare cs) : trimChars cs = cs := by
  rw [trimChars, dropWhile_of_head h.1, dropEndWhile_of_getLast h.2]

theorem trimChars_append {before body after : List Char} (hb : ∀ c ∈ before, isBlank c = true)
    (ha : ∀ c ∈ after, isBlank c = true) (h : Bare body) :
    trimChars (before ++ (body ++ after)) = body := by
  rw [trimChars, List.dropWhile_append_of_pos hb]
  cases body with
  | nil =>
    rw [List.nil_append, List.dropWhile_eq_nil_iff.mpr ha]
    rfl
  | cons c body =>
    rw [dropWhile_of_head (by simpa using h.1), dropEndWhile_append_all _ ha,
      dropEndWhile_of_getLast h.2]

theorem exists_trimChars (cs : List Char) :
    ∃ before after, (∀ c ∈ before, isBlank c = true) ∧ (∀ c ∈ after, isBlank c = true) ∧
      cs = before ++ (trimChars cs ++ after) := by
  obtain ⟨after, ha, he⟩ := exists_append_dropEndWhile isBlank (cs.dropWhile isBlank)
  refine ⟨cs.takeWhile isBlank, after, fun c hc => List.mem_takeWhile_imp hc, ha, ?_⟩
  rw [trimChars, he, List.takeWhile_append_dropWhile]

theorem bare_trimChars (cs : List Char) : Bare (trimChars cs) := by
  constructor
  · intro c hc
    obtain ⟨after, _, he⟩ := exists_append_dropEndWhile isBlank (cs.dropWhile isBlank)
    have hd : (cs.dropWhile isBlank).head? = some c := by
      rw [trimChars] at hc
      rw [← he, List.head?_append, Option.mem_def.mp hc, Option.some_or]
    have hn := List.head?_dropWhile_not isBlank cs
    rw [hd] at hn
    simpa using hn
  · intro c hc
    unfold trimChars at hc
    rw [dropEndWhile_eq_rdropWhile] at hc
    obtain ⟨hne, rfl⟩ := List.mem_getLast?_eq_getLast hc
    simpa using List.rdropWhile_last_not isBlank _ hne

theorem trim_of_bare {s : String} (h : Bare s.toList) : trim s = s := by
  rw [trim, trimChars_of_bare h, String.ofList_toList]

theorem splitOn_of_not_mem {sep : Char} {cs : List Char} (h : sep ∉ cs) : splitOn sep cs = [cs] := by
  induction cs with
  | nil => rfl
  | cons c cs ih =>
    have hc : c ≠ sep := fun e => h (by simp [e])
    rw [splitOn, if_neg hc, ih fun hs => h (List.mem_cons_of_mem c hs)]

theorem splitOn_append_sep (sep : Char) (cs rest : List Char) :
    splitOn sep (cs ++ sep :: rest) = splitOn sep cs ++ splitOn sep rest := by
  induction cs with
  | nil => simp [splitOn]
  | cons c cs ih =>
    rw [List.cons_append, splitOn, splitOn, ih]
    by_cases hc : c = sep
    · rw [if_pos hc, if_pos hc, List.cons_append]
    · rw [if_neg hc, if_neg hc]
      cases hparts : splitOn sep cs with
      | nil => exact absurd hparts (splitOn_ne_nil sep cs)
      | cons part parts => rfl

theorem splitOn_append_cons {sep : Char} {cs : List Char} (rest : List Char) (h : sep ∉ cs) :
    splitOn sep (cs ++ sep :: rest) = cs :: splitOn sep rest := by
  rw [splitOn_append_sep, splitOn_of_not_mem h, List.singleton_append]

/-- No part holds the separator. -/
theorem not_mem_of_mem_splitOn {sep : Char} {cs part : List Char} (h : part ∈ splitOn sep cs) :
    sep ∉ part := by
  induction cs generalizing part with
  | nil =>
    obtain rfl := List.mem_singleton.mp h
    simp
  | cons c cs ih =>
    rw [splitOn] at h
    split at h
    · rcases List.mem_cons.mp h with rfl | h
      · simp
      · exact ih h
    · rename_i hc
      split at h
      · obtain rfl := List.mem_singleton.mp h
        simp [Ne.symm hc]
      · rename_i first rest hsplit
        rcases List.mem_cons.mp h with rfl | h
        · have hfirst := ih (hsplit ▸ List.mem_cons_self)
          simp [Ne.symm hc, hfirst]
        · exact ih (hsplit ▸ List.mem_cons_of_mem first h)

theorem eq_of_splitOn_singleton {sep : Char} {cs part : List Char} (h : splitOn sep cs = [part]) :
    cs = part := by
  rw [← intercalate_splitOn sep cs, h]
  simp

theorem eq_of_splitOn_pair {sep : Char} {cs part rest : List Char}
    (h : splitOn sep cs = [part, rest]) : cs = part ++ sep :: rest := by
  rw [← intercalate_splitOn sep cs, h]
  simp [List.intercalate, List.intersperse]

end WarehouseSchema.Text
