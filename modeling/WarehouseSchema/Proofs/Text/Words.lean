import WarehouseSchema.Proofs.Text.Cutting

/-!
Words with blanks between them. Main statement: the words of which a text is made are those into which it
is cut.
-/

namespace WarehouseSchema.Text

def IsWord (w : List Char) : Prop := w ≠ [] ∧ ∀ c ∈ w, isBlank c = false

instance (w : List Char) : Decidable (IsWord w) :=
  @instDecidableAnd _ _ _ (List.decidableBAll (fun c => isBlank c = false) w)

/-- The text is made of these words, with blanks between them and any blanks around them. -/
inductive MadeOf : List Char → List (List Char) → Prop where
  | nil : MadeOf [] []
  | blank {c : Char} {cs : List Char} {ws : List (List Char)} (hc : isBlank c = true)
      (h : MadeOf cs ws) : MadeOf (c :: cs) ws
  | last {w : List Char} (hw : IsWord w) : MadeOf w [w]
  | word {w : List Char} {c : Char} {cs : List Char} {ws : List (List Char)} (hw : IsWord w)
      (hc : isBlank c = true) (h : MadeOf cs ws) : MadeOf (w ++ c :: cs) (w :: ws)

theorem wordsChars_of_blank {c : Char} (cs : List Char) (h : isBlank c = true) :
    wordsChars (c :: cs) = wordsChars cs := by
  rw [wordsChars, if_pos h]

theorem wordsChars_append {w rest : List Char} (hw : IsWord w)
    (hrest : (rest.head?.map isBlank).getD true = true) :
    wordsChars (w ++ rest) = w :: wordsChars rest := by
  obtain ⟨hne, hw⟩ := hw
  induction w with
  | nil => exact absurd rfl hne
  | cons c w ih =>
    have hc := hw c List.mem_cons_self
    cases w with
    | nil =>
      rw [List.singleton_append, wordsChars, hc, if_neg (by simp), if_pos hrest]
    | cons d w =>
      have hd := hw d (List.mem_cons_of_mem c List.mem_cons_self)
      have hwords := ih (by simp) fun e he => hw e (List.mem_cons_of_mem c he)
      rw [List.cons_append, wordsChars, hc, if_neg (by simp), hwords]
      simp [hd]

theorem MadeOf.wordsChars_eq {cs : List Char} {ws : List (List Char)} (h : MadeOf cs ws) :
    wordsChars cs = ws := by
  induction h with
  | nil => rfl
  | blank hc _ ih => rw [wordsChars_of_blank _ hc, ih]
  | @last w hw =>
    have hwords : wordsChars (w ++ []) = w :: wordsChars [] := wordsChars_append hw rfl
    rwa [List.append_nil] at hwords
  | word hw hc _ ih =>
    rw [wordsChars_append hw (by simp [hc]), wordsChars_of_blank _ hc, ih]

theorem wordsChars_of_blanks {cs : List Char} (h : ∀ c ∈ cs, isBlank c = true) : wordsChars cs = [] := by
  induction cs with
  | nil => rfl
  | cons c cs ih =>
    rw [wordsChars_of_blank cs (h c List.mem_cons_self),
      ih fun d hd => h d (List.mem_cons_of_mem c hd)]

/-- Blanks at the end of a text are not in its words. -/
theorem wordsChars_append_blanks (cs : List Char) {after : List Char}
    (h : ∀ c ∈ after, isBlank c = true) : wordsChars (cs ++ after) = wordsChars cs := by
  induction cs with
  | nil => exact wordsChars_of_blanks h
  | cons c cs ih =>
    have hhead : ((cs ++ after).head?.map isBlank).getD true = (cs.head?.map isBlank).getD true := by
      cases cs with
      | nil =>
        cases after with
        | nil => rfl
        | cons d after => exact h d List.mem_cons_self
      | cons d cs => rfl
    rw [List.cons_append, wordsChars, wordsChars, ih, hhead]

end WarehouseSchema.Text
