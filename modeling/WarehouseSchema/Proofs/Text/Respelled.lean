import Mathlib
import WarehouseSchema.Proofs.Text.SameLetters
import WarehouseSchema.Proofs.Text.Words

/-!
Texts of the same words, in any case of their ASCII letters and with any blanks between them. Main
statement: an ASCII text and a text that respells it are the same in upper case, once their blanks are
squeezed.
-/

namespace WarehouseSchema.Text

/-- The texts are made of the same words, in any case of their ASCII letters. -/
def Respells (cs ds : List Char) : Prop :=
  ∃ ws vs, MadeOf cs ws ∧ MadeOf ds vs ∧ List.Forall₂ SameLetters ws vs

theorem SameLetters.append {cs cs' ds ds' : List Char} (h : SameLetters cs ds)
    (h' : SameLetters cs' ds') : SameLetters (cs ++ cs') (ds ++ ds') := by
  unfold SameLetters at h h' ⊢
  rw [List.map_append, List.map_append, h, h']

theorem SameLetters.intercalate (sep : List Char) {ws vs : List (List Char)}
    (h : List.Forall₂ SameLetters ws vs) : SameLetters (sep.intercalate ws) (sep.intercalate vs) := by
  induction h with
  | nil => rfl
  | @cons w v ws vs hw hrest ih =>
    cases hrest with
    | nil => simpa using hw
    | cons hw' hrest' =>
      rw [List.intercalate_cons_cons, List.intercalate_cons_cons]
      exact (hw.append rfl).append ih

theorem Respells.sameLetters {cs ds : List Char} (h : Respells cs ds) :
    SameLetters (squeezeChars cs) (squeezeChars ds) := by
  obtain ⟨ws, vs, hcs, hds, hwords⟩ := h
  rw [squeezeChars, squeezeChars, hcs.wordsChars_eq, hds.wordsChars_eq]
  exact .intercalate [' '] hwords

theorem SameLetters.map_toUpper {cs ds : List Char} (h : SameLetters cs ds) :
    cs.map Char.toUpper = ds.map Char.toUpper := by
  have hlower : ∀ es : List Char, (es.map Char.toLower).map Char.toUpper = es.map Char.toUpper := by
    intro es
    rw [List.map_map]
    exact List.map_congr_left fun c _ => Char.toUpper_toLower_eq_toUpper c
  rw [← hlower cs, h, hlower ds]

/-- An ASCII text has the upper case of every text that differs from it in letter case only. -/
theorem SameLetters.upper_eq {s t : String} (h : SameLetters s.toList t.toList)
    (hascii : IsAscii t.toList) : upper s = upper t := by
  rw [upper, upper, upperChars_of_ascii (h.isAscii hascii), upperChars_of_ascii hascii, h.map_toUpper]

theorem Respells.upper_squeeze_eq {s t : String} (h : Respells s.toList t.toList)
    (hascii : IsAscii (squeezeChars t.toList)) : upper (squeeze s) = upper (squeeze t) := by
  apply SameLetters.upper_eq
  · rw [squeeze, squeeze, String.toList_ofList, String.toList_ofList]
    exact h.sameLetters
  · rwa [squeeze, String.toList_ofList]

end WarehouseSchema.Text
