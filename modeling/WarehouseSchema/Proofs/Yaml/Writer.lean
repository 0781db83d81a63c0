import Mathlib.Data.List.DropRight
import WarehouseSchema.Proofs.Text.Decimal
import WarehouseSchema.Yaml.Writer

/-!
The characters of written documents. Main statement: a document is written with visible characters of
ASCII, spaces and line feeds only, so that other line ends do not occur in it.
-/

namespace WarehouseSchema.Yaml

open Text Number

/-- All characters can stand in a document as they are. -/
def Direct (cs : List Char) : Prop := ∀ c ∈ cs, isDirect c = true

instance (cs : List Char) : Decidable (Direct cs) :=
  List.decidableBAll _ cs

section
variable {a b cs : List Char} {c : Char}

@[simp] theorem direct_nil : Direct [] := by simp [Direct]

@[simp] theorem direct_cons : Direct (c :: cs) ↔ isDirect c = true ∧ Direct cs := by simp [Direct]

@[simp] theorem direct_append : Direct (a ++ b) ↔ Direct a ∧ Direct b := by
  simp only [Direct, List.mem_append]
  exact ⟨fun h => ⟨fun c hc => h c (.inl hc), fun c hc => h c (.inr hc)⟩,
    fun h c hc => hc.elim (h.1 c) (h.2 c)⟩

theorem Direct.of_subset (h : Direct b) (hab : a ⊆ b) : Direct a := fun c hc => h c (hab hc)

theorem direct_replicate (n : Nat) (hc : isDirect c = true) : Direct (List.replicate n c) :=
  fun _ hd => List.eq_of_mem_replicate hd ▸ hc

@[simp] theorem direct_spaces (n : Nat) : Direct (spaces n) := direct_replicate n (by decide)

@[simp] theorem isDirect_feed : isDirect '\n' = true := by decide

@[simp] theorem isDirect_space : isDirect ' ' = true := by decide

end

/-! ## Numbers -/

theorem isDirect_of_isDigit {c : Char} (h : isDigit c = true) : isDirect c = true := by
  simp only [isDigit, Bool.and_eq_true, decide_eq_true_eq] at h
  simp only [isDirect, Bool.or_eq_true, Bool.and_eq_true, decide_eq_true_eq]
  exact .inr ⟨Char.le_trans (by decide) h.1, Char.le_trans h.2 (by decide)⟩

theorem direct_natText (n : Nat) : Direct (natText n).toList :=
  fun _ hc => isDirect_of_isDigit (isDigit_of_mem_natText hc)

theorem direct_intText (n : Int) : Direct (intText n).toList := by
  cases n with
  | ofNat n => exact direct_natText n
  | negSucc n =>
    have hminus : Direct "-".toList := by decide +kernel
    rw [intText, String.toList_append, direct_append]
    exact ⟨hminus, direct_natText (n + 1)⟩

theorem digit_lt_of_mem_digitList {n d : Nat} (h : d ∈ digitList n) : d < 10 := by
  obtain ⟨c, hc, rfl⟩ := List.mem_map.mp h
  have hdigit := isDigit_of_mem_natText hc
  simp only [isDigit, Bool.and_eq_true, decide_eq_true_eq, Char.le_def,
    UInt32.le_iff_toNat_le] at hdigit
  have h9 : '9'.val.toNat = 57 := rfl
  have hn : c.toNat = c.val.toNat := rfl
  unfold digitValue
  omega

theorem digit_lt_of_mem_shortest {m d : Nat} {e : Int} (h : d ∈ (shortest m e).digits) :
    d < 10 := by
  unfold shortest at h
  simp only at h
  split at h
  · rename_i n k _
    have hsub : dropTrailingZeros (digitList n) <+: digitList n := by
      unfold dropTrailingZeros
      exact List.rdropWhile_prefix _ _
    exact digit_lt_of_mem_digitList (hsub.subset h)
  · rw [List.mem_singleton.mp h]
    decide

theorem direct_digitsText {ds : List Nat} (h : ∀ d ∈ ds, d < 10) :
    Direct (digitsText ds).toList := by
  have hall : ∀ k : Fin 10, isDirect (digitChar k) = true := by decide
  intro c hc
  rw [digitsText, String.toList_ofList] at hc
  obtain ⟨d, hd, rfl⟩ := List.mem_map.mp hc
  exact hall ⟨d, h d hd⟩

theorem direct_paddedNat (width n : Nat) : Direct (paddedNat width n).toList := by
  unfold paddedNat
  rw [String.toList_append, direct_append, String.toList_ofList]
  exact ⟨direct_replicate _ (by decide), direct_natText n⟩

theorem direct_scientific {d : Decimal} (h : ∀ k ∈ d.digits, k < 10) :
    Direct (scientific d).toList := by
  have hpart : ∀ ds, ds ⊆ d.digits → Direct (digitsText ds).toList :=
    fun ds hds => direct_digitsText fun k hk => h k (hds hk)
  unfold scientific
  simp only [String.toList_append, direct_append]
  refine ⟨⟨⟨⟨hpart _ (List.take_subset _ _), ?_⟩, by decide +kernel⟩, ?_⟩, direct_paddedNat _ _⟩
  · split
    · decide +kernel
    · rw [String.toList_append, direct_append]
      exact ⟨by decide +kernel, hpart _ (List.drop_subset _ _)⟩
  · split
    · decide +kernel
    · decide +kernel

theorem direct_repeatedZero (n : Nat) : Direct (positional.repeatedZero n).toList := by
  unfold positional.repeatedZero
  rw [String.toList_ofList]
  exact direct_replicate n (by decide)

theorem direct_positional {d : Decimal} (h : ∀ k ∈ d.digits, k < 10) :
    Direct (positional ".0" d).toList := by
  have hpart : ∀ ds, ds ⊆ d.digits → Direct (digitsText ds).toList :=
    fun ds hds => direct_digitsText fun k hk => h k (hds hk)
  unfold positional
  split
  · simp only [String.toList_append, direct_append]
    exact ⟨⟨by decide +kernel, direct_repeatedZero _⟩, direct_digitsText h⟩
  · simp only [String.toList_append, direct_append]
    refine ⟨⟨hpart _ (List.take_subset _ _), direct_repeatedZero _⟩, ?_⟩
    split
    · decide +kernel
    · rw [String.toList_append, direct_append]
      exact ⟨by decide +kernel, hpart _ (List.drop_subset _ _)⟩

theorem direct_signText (negative : Bool) : Direct (signText negative).toList := by
  cases negative <;> decide +kernel

theorem direct_text (x : Binary64) : Direct x.text.toList := by
  cases x with
  | nan => decide +kernel
  | infinite negative => cases negative <;> decide +kernel
  | finite negative m e =>
    have hdigits : ∀ k ∈ (shortest m e).digits, k < 10 := fun k hk => digit_lt_of_mem_shortest hk
    unfold Binary64.text
    simp only
    split
    · rw [String.toList_append, direct_append]
      exact ⟨direct_signText negative, by decide +kernel⟩
    · rw [String.toList_append, direct_append]
      refine ⟨direct_signText negative, ?_⟩
      split
      · exact direct_positional hdigits
      · exact direct_scientific hdigits

theorem direct_floatText (x : Binary64) : Direct (floatText x).toList := by
  unfold floatText
  split
  · decide +kernel
  · split <;> decide +kernel
  · simp only
    split
    · exact direct_text x
    · rw [String.toList_ofList]
      simp only [direct_append, direct_cons, direct_nil]
      exact ⟨⟨(direct_text x).of_subset (List.takeWhile_prefix _).subset, by decide⟩,
        (direct_text x).of_subset (List.dropWhile_suffix _).subset⟩

/-! ## Texts -/

theorem direct_foldPlain {cs : List Char} (h : Direct cs) (indent column : Nat)
    (afterSpace : Bool) : Direct (foldPlain indent column afterSpace cs) := by
  induction cs generalizing column afterSpace with
  | nil => simp [foldPlain]
  | cons c cs ih =>
    rw [direct_cons] at h
    rw [foldPlain]
    split
    · simp [ih h.2]
    · simp [ih h.2, h.1]

theorem direct_foldSingle {cs : List Char} (h : Direct cs) (indent column : Nat) (split_ : Bool)
    (before : Option Char) : Direct (foldSingle indent split_ column before cs) := by
  have hlead : ∀ before : Option Char, Direct (if before = some '\n' then spaces indent else []) := by
    intro before
    split <;> simp
  induction cs generalizing column before with
  | nil => exact hlead before
  | cons c cs ih =>
    have hc : isDirect c = true := (direct_cons.mp h).1
    have hrest : ∀ column before, Direct (foldSingle indent split_ column before cs) :=
      ih (direct_cons.mp h).2
    rw [foldSingle]
    split
    · rw [direct_append]
      exact ⟨by split <;> simp, hrest _ _⟩
    · have hbefore := hlead before
      simp only
      generalize (if before = some '\n' then spaces indent else []) = lead at hbefore
      generalize (if before = some '\n' then indent else column) = column
      split
      · simp [hbefore, hrest]
      · split
        · simp [hbefore, hrest, (by decide : isDirect '\'' = true)]
        · simp [hbefore, hrest, hc]

theorem direct_upperHex (width n : Nat) : Direct (upperHex width n) := by
  have hall : ∀ k : Fin 16, isDirect (hexDigit k).toUpper = true := by decide
  unfold upperHex
  induction width generalizing n with
  | zero => simp [hexDigits]
  | succ width ih =>
    rw [hexDigits, List.map_append, List.map_singleton, direct_append, direct_cons]
    exact ⟨ih _, hall ⟨n % 16, Nat.mod_lt _ (by decide)⟩, direct_nil⟩

/-- What stands for a character in double quotes is direct, be it an escape or the character. -/
theorem direct_escape (c : Char) : Direct ((escape? c).getD [c]) := by
  have hletters : ∀ e ∈ escapeLetters, isDirect e.2 = true := by decide
  have hmark : isDirect '\\' = true := by decide
  unfold escape?
  simp only
  split
  · rename_i h
    simp only [Bool.and_eq_true, decide_eq_true_eq] at h
    simpa [isDirect] using .inr ⟨h.1.1.1, h.1.1.2⟩
  · split
    · rename_i letter hletter
      obtain ⟨before, after, he, _⟩ := List.lookup_eq_some_iff.mp hletter
      simp [hmark, hletters (c.toNat, letter) (by simp [he])]
    · split
      · simpa [hmark, direct_upperHex] using (by decide : isDirect 'x' = true)
      · split
        · simpa [hmark, direct_upperHex] using (by decide : isDirect 'u' = true)
        · simpa [hmark, direct_upperHex] using (by decide : isDirect 'U' = true)

theorem direct_foldMark (indent : Nat) (next : Option Char) : Direct (foldMark indent next) := by
  have hmark : isDirect '\\' = true := by decide
  unfold foldMark
  split <;> simp [hmark]

theorem direct_foldDouble (cs : List Char) (indent column held : Nat) (split_ first : Bool) :
    Direct (foldDouble indent split_ column held first cs) := by
  induction cs generalizing column held first with
  | nil => simp [foldDouble]
  | cons c cs ih =>
    have hc := direct_escape c
    rw [foldDouble]
    simp only
    split
    · rename_i mark hmark
      rw [hmark, Option.getD_some] at hc
      split
      · simp [hc, direct_foldMark, ih]
      · simp [hc, ih]
    · rename_i hnone
      rw [hnone, Option.getD_none, direct_cons] at hc
      split
      · simp [hc.1, direct_foldMark, ih]
      · simp [hc.1, ih]

theorem direct_writeText (isKey : Bool) (indent column : Nat) (s : String) :
    Direct (writeText isKey indent column s) := by
  unfold writeText
  simp only
  split
  · rename_i hplain
    have hdirect : Direct s.toList := by
      unfold canStandPlain at hplain
      split at hplain
      · exact absurd hplain (by simp)
      · simp only [Bool.and_eq_true, List.all_eq_true] at hplain
        exact fun d hd => (hplain.1.1.1.1.1 d hd).1
    split
    · exact hdirect
    · exact direct_foldPlain hdirect _ _ _
  · split
    · rename_i hsingle
      simp only [Bool.and_eq_true, canStandSingle] at hsingle
      have hdirect : Direct s.toList := List.all_eq_true.mp hsingle.1.1.1
      simp [direct_foldSingle hdirect, (by decide : isDirect '\'' = true)]
    · simp [direct_foldDouble, (by decide : isDirect '"' = true)]

/-! ## Documents -/

theorem direct_writeInline (indent column : Nat) (p : Plain) :
    Direct ((writeInline? indent column p).getD []) := by
  unfold writeInline?
  split
  · decide +kernel
  · split <;> decide +kernel
  · exact direct_intText _
  · exact direct_floatText _
  · exact direct_writeText _ _ _ _
  · decide
  · decide
  · exact direct_nil
  · exact direct_nil

mutual

theorem direct_writeMarked : ∀ (p : Plain) (indent : Nat), Direct (writeMarked indent p)
  | .list (p :: ps), indent => by simp [writeMarked, direct_writeItems (p :: ps)]
  | .map (e :: es), indent => by simp [writeMarked, direct_writeEntries (e :: es)]
  | .null, indent | .bool _, indent | .int _, indent | .float _, indent | .text _, indent
  | .list [], indent | .map [], indent => by
    simp [writeMarked, direct_writeInline]

theorem direct_writeItems :
    ∀ (ps : List Plain) (indent : Nat) (first : Bool), Direct (writeItems indent first ps)
  | [], indent, first => by simp [writeItems]
  | p :: ps, indent, first => by
    have hmark : isDirect '-' = true := by decide
    have hlead : Direct (if first = true then [] else '\n' :: spaces indent) := by split <;> simp
    simp only [writeItems, direct_append, direct_cons]
    exact ⟨⟨hlead, hmark, direct_writeMarked p _⟩, direct_writeItems ps _ _⟩

theorem direct_writeEntries : ∀ (es : List (String × Plain)) (indent : Nat) (first : Bool),
    Direct (writeEntries indent first es)
  | [], indent, first => by simp [writeEntries]
  | (key, p) :: es, indent, first => by
    have hcolon : isDirect ':' = true := by decide
    have hmark : isDirect '?' = true := by decide
    have hlead : Direct (if first = true then [] else '\n' :: spaces indent) := by split <;> simp
    simp only [writeEntries, direct_append]
    refine ⟨⟨hlead, ?_⟩, direct_writeEntries es _ _⟩
    split
    · simp [hcolon, direct_writeText, direct_writeUnder p]
    · simp [hcolon, hmark, direct_writeText, direct_writeMarked p]

theorem direct_writeUnder : ∀ (p : Plain) (indent column : Nat), Direct (writeUnder indent column p)
  | .list (p :: ps), indent, column => by simp [writeUnder, direct_writeItems (p :: ps)]
  | .map (e :: es), indent, column => by simp [writeUnder, direct_writeEntries (e :: es)]
  | .null, indent, column | .bool _, indent, column | .int _, indent, column
  | .float _, indent, column | .text _, indent, column | .list [], indent, column
  | .map [], indent, column => by
    simp [writeUnder, direct_writeInline]

end

/-- A document is written with visible characters of ASCII, spaces and line feeds. -/
theorem direct_write (p : Plain) : Direct (write p).toList := by
  unfold write
  simp only [String.toList_ofList, direct_append, direct_cons]
  refine ⟨?_, isDirect_feed, ?_⟩
  · split
    · exact direct_writeItems _ _ _
    · exact direct_writeEntries _ _ _
    · exact direct_writeInline _ _ _
  · split
    · decide +kernel
    · exact direct_nil

/-! ## Line ends -/

theorem unifyLinesChars_of_not_mem {cs : List Char} (h : '\r' ∉ cs) : unifyLinesChars cs = cs := by
  induction cs with
  | nil => rfl
  | cons c cs ih =>
    have hc : c ≠ '\r' := fun he => h (by simp [he])
    have hrest := ih fun hm => h (List.mem_cons_of_mem c hm)
    rw [unifyLinesChars]
    · rw [if_neg hc, hrest]
    · rintro rest rfl
      exact absurd rfl hc

/-- The line ends of a document that was written are line feeds already. -/
theorem unifyLines_write (p : Plain) : unifyLines (write p) = write p := by
  have hfeed : '\r' ∉ (write p).toList := fun hm => absurd (direct_write p _ hm) (by decide)
  rw [unifyLines, unifyLinesChars_of_not_mem hfeed, String.ofList_toList]

end WarehouseSchema.Yaml
