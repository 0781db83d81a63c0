import WarehouseSchema.Column.Catalog
import WarehouseSchema.Proofs.Definition.Canonical

/-!
Types as Snowflake describes them. Main statements: a text is read as a described type exactly if it shows
one, and a canonical definition's type and length are read back from its rendered type, unless a line feed
stands in the length.
-/

namespace WarehouseSchema.Catalog

open Text

/-- A text that may be the name of a type; it may end with spaces. -/
structure IsName (cs : List Char) : Prop where
  head : ∃ c ∈ cs.head?, isNameStart c = true
  chars : ∀ c ∈ cs, isNameChar c = true

/-- The text shows a type of this name and, in parentheses, this length. Between the parts of it stand any
blanks, some of which may count as the name's own. -/
inductive ShowsType : List Char → List Char → Option (List Char) → Prop where
  | bare {before name after : List Char} (hbefore : ∀ c ∈ before, isBlank c = true)
      (hname : IsName name) (hafter : ∀ c ∈ after, isBlank c = true) :
      ShowsType (before ++ (name ++ after)) name none
  | sized {before name between length after : List Char} (hbefore : ∀ c ∈ before, isBlank c = true)
      (hname : IsName name) (hbetween : ∀ c ∈ between, isBlank c = true) (hlength : '\n' ∉ length)
      (hafter : ∀ c ∈ after, isBlank c = true) :
      ShowsType (before ++ (name ++ (between ++ '(' :: (length ++ ')' :: after)))) name (some length)

/-! ## Names -/

theorem isBlank_of_isNameStart {c : Char} (h : isNameStart c = true) : isBlank c = false := by
  simp only [isNameStart, Bool.or_eq_true, Bool.and_eq_true, decide_eq_true_eq, beq_iff_eq,
    Char.le_def, UInt32.le_iff_toNat_le] at h
  have hA : 'A'.val.toNat = 65 := rfl
  have hZ : 'Z'.val.toNat = 90 := rfl
  have ha : 'a'.val.toNat = 97 := rfl
  have hz : 'z'.val.toNat = 122 := rfl
  have hn : c.toNat = c.val.toNat := rfl
  rcases h with (h | h) | rfl
  · simp only [isBlank, Bool.or_eq_false_iff, Bool.and_eq_false_iff, decide_eq_false_iff_not,
      beq_eq_false_iff_ne]
    omega
  · simp only [isBlank, Bool.or_eq_false_iff, Bool.and_eq_false_iff, decide_eq_false_iff_not,
      beq_eq_false_iff_ne]
    omega
  · decide

/-- The space is the only blank in names. -/
theorem eq_space_of_isNameChar {c : Char} (hname : isNameChar c = true) (hblank : isBlank c = true) :
    (c == ' ') = true := by
  rw [isNameChar, Bool.or_eq_true, Bool.or_eq_true] at hname
  rcases hname with (hstart | hdigit) | hspace
  · rw [isBlank_of_isNameStart hstart] at hblank
    cases hblank
  · rw [isBlank_of_isDigit hdigit] at hblank
    cases hblank
  · exact hspace

theorem isBlank_of_eq_space {c : Char} (h : (c == ' ') = true) : isBlank c = true := by
  rw [beq_iff_eq.mp h]
  exact isBlank_space

theorem isName_of_mem {type : String} (h : type ∈ Engine.snowflake.types) :
    IsName type.toList ∧ ∀ c ∈ type.toList.getLast?, (c == ' ') = false := by
  have hall : ∀ type ∈ Engine.snowflake.types,
      (type.toList.head?.any isNameStart) = true ∧ type.toList.all isNameChar = true ∧
        (type.toList.getLast?.all fun c => !c == ' ') = true := by
    decide +kernel
  obtain ⟨hhead, hchars, hlast⟩ := hall type h
  refine ⟨⟨(Option.any_eq_true _ _).mp hhead, List.all_eq_true.mp hchars⟩, ?_⟩
  intro c hc
  simpa using (Option.all_eq_true _ _).mp hlast c hc

/-- The name goes on into the blanks behind it, but with spaces only. -/
theorem exists_spaces {between rest : List Char} (hbetween : ∀ c ∈ between, isBlank c = true)
    (hrest : ∀ c ∈ rest.head?, isNameChar c = false) : ∃ spaces,
      (between ++ rest).takeWhile isNameChar = spaces ∧ ∀ c ∈ spaces, (c == ' ') = true := by
  induction between with
  | nil =>
    refine ⟨[], ?_, by simp⟩
    cases rest with
    | nil => rfl
    | cons d rest => simp [hrest d rfl]
  | cons c between ih =>
    cases hc : isNameChar c with
    | false => exact ⟨[], by simp [hc], by simp⟩
    | true =>
      obtain ⟨spaces, htake, hspaces⟩ := ih fun d hd => hbetween d (List.mem_cons_of_mem c hd)
      refine ⟨c :: spaces, by simp [hc, htake], ?_⟩
      intro d hd
      rcases List.mem_cons.mp hd with rfl | hd
      · exact eq_space_of_isNameChar hc (hbetween d List.mem_cons_self)
      · exact hspaces d hd

/-- A name is read up to what cannot go on with it, and without the spaces at its end. -/
theorem ofChars?_spaced {before name between rest : List Char}
    (hbefore : ∀ c ∈ before, isBlank c = true) (hname : IsName name)
    (hbetween : ∀ c ∈ between, isBlank c = true)
    (hrest : ∀ c ∈ rest.head?, isNameChar c = false ∧ isBlank c = false) :
    DescribedType.ofChars? (before ++ (name ++ (between ++ rest))) =
      match rest with
      | [] => some ⟨dropEndWhile (· == ' ') name, none⟩
      | rest => (parenthesized? rest).map fun length =>
          ⟨dropEndWhile (· == ' ') name, some length⟩ := by
  obtain ⟨spaces, htake, hspaces⟩ := exists_spaces hbetween fun c hc => (hrest c hc).1
  obtain ⟨trail, htrail, hsplit⟩ := exists_append_dropEndWhile (· == ' ') name
  obtain ⟨c, hc, hstart⟩ := hname.head
  obtain ⟨tail, hcons⟩ := List.head?_eq_some_iff.mp hc
  have hbody : (before ++ (name ++ (between ++ rest))).dropWhile isBlank =
      name ++ (between ++ rest) := by
    rw [List.dropWhile_append_of_pos hbefore]
    apply dropWhile_of_head
    intro d hd
    rw [hcons] at hd
    obtain rfl := Option.some.inj hd
    exact isBlank_of_isNameStart hstart
  have hread : dropEndWhile (· == ' ') ((name ++ (between ++ rest)).takeWhile isNameChar) =
      dropEndWhile (· == ' ') name := by
    rw [List.takeWhile_append_of_pos hname.chars, htake, dropEndWhile_append_all _ hspaces]
  have hdrop : ((name ++ (between ++ rest)).drop (dropEndWhile (· == ' ') name).length).dropWhile
      isBlank = rest := by
    have hleft : name ++ (between ++ rest) =
        dropEndWhile (· == ' ') name ++ (trail ++ (between ++ rest)) := by
      rw [← List.append_assoc (dropEndWhile _ name), hsplit]
    rw [hleft, List.drop_left,
      List.dropWhile_append_of_pos fun d hd => isBlank_of_eq_space (htrail d hd),
      List.dropWhile_append_of_pos hbetween, dropWhile_of_head fun d hd => (hrest d hd).2]
  unfold DescribedType.ofChars?
  dsimp only
  rw [hbody, hread, hdrop]
  rw [hcons, List.cons_append]
  dsimp only
  rw [if_pos hstart]
  cases rest <;> rfl

/-! ## Lengths -/

theorem parenthesized?_eq_some_iff {cs length : List Char} : parenthesized? cs = some length ↔
    '\n' ∉ length ∧ ∃ after, (∀ c ∈ after, isBlank c = true) ∧
      cs = '(' :: (length ++ ')' :: after) := by
  constructor
  · intro h
    unfold parenthesized? at h
    split at h
    · rename_i body
      obtain ⟨after, hafter, hbody⟩ := exists_append_dropEndWhile isBlank body
      split at h
      · rename_i inner hinner
        split at h
        · cases h
        · rename_i hfeed
          obtain rfl := Option.some.inj h
          have hclosed : dropEndWhile isBlank body = inner.reverse ++ [')'] := by
            rw [← List.reverse_reverse (dropEndWhile isBlank body), hinner, List.reverse_cons]
          refine ⟨by simpa using hfeed, after, hafter, ?_⟩
          rw [← hbody, hclosed, List.append_assoc, List.singleton_append]
      · cases h
    · cases h
  · rintro ⟨hfeed, after, hafter, rfl⟩
    have hclosed : dropEndWhile isBlank (length ++ ')' :: after) = length ++ [')'] := by
      have hsplit : length ++ ')' :: after = (length ++ [')']) ++ after := by simp
      rw [hsplit, dropEndWhile_append_all _ hafter]
      exact dropEndWhile_of_getLast (by simp; decide)
    simp [parenthesized?, hclosed, hfeed]

/-! ## Described types -/

theorem ofChars?_of_shows {cs name : List Char} {length : Option (List Char)}
    (h : ShowsType cs name length) :
    DescribedType.ofChars? cs = some ⟨dropEndWhile (· == ' ') name, length⟩ := by
  cases h with
  | @bare before name after hbefore hname hafter =>
    have hread : DescribedType.ofChars? (before ++ (name ++ (after ++ []))) =
        some ⟨dropEndWhile (· == ' ') name, none⟩ := ofChars?_spaced hbefore hname hafter (by simp)
    rwa [List.append_nil] at hread
  | @sized before name between length after hbefore hname hbetween hlength hafter =>
    have hopen : ∀ c ∈ ('(' :: (length ++ ')' :: after)).head?,
        isNameChar c = false ∧ isBlank c = false := by
      rintro c hc
      obtain rfl := Option.some.inj hc
      decide
    rw [ofChars?_spaced hbefore hname hbetween hopen]
    dsimp only
    rw [parenthesized?_eq_some_iff.mpr ⟨hlength, after, hafter, rfl⟩]
    rfl

/-- What is read as a name is one, and stands at the beginning of the text. -/
theorem isName_of_read {c : Char} (tail : List Char) (hstart : isNameStart c = true) :
    IsName (dropEndWhile (· == ' ') ((c :: tail).takeWhile isNameChar)) ∧
      ∃ behind, c :: tail = dropEndWhile (· == ' ') ((c :: tail).takeWhile isNameChar) ++ behind := by
  have hchar : isNameChar c = true := by rw [isNameChar, hstart, Bool.true_or, Bool.true_or]
  have hspace : (c == ' ') = false := by
    rw [Bool.eq_false_iff]
    intro hspace
    have hblank := isBlank_of_eq_space hspace
    rw [isBlank_of_isNameStart hstart] at hblank
    cases hblank
  obtain ⟨spaces, -, hsplit⟩ := exists_append_dropEndWhile (· == ' ') ((c :: tail).takeWhile isNameChar)
  refine ⟨⟨⟨c, ?_, hstart⟩, ?_⟩, spaces ++ (c :: tail).dropWhile isNameChar, ?_⟩
  · rw [List.takeWhile_cons, if_pos hchar]
    exact head?_dropEndWhile _ hspace
  · intro d hd
    apply List.mem_takeWhile_imp (l := c :: tail)
    rw [← hsplit]
    exact List.mem_append_left _ hd
  · rw [← List.append_assoc, hsplit, List.takeWhile_append_dropWhile]

theorem shows_of_ofChars? {cs : List Char} {t : DescribedType}
    (h : DescribedType.ofChars? cs = some t) : ShowsType cs t.name t.length := by
  have hsplit : cs.takeWhile isBlank ++ cs.dropWhile isBlank = cs := List.takeWhile_append_dropWhile
  have hbefore : ∀ c ∈ cs.takeWhile isBlank, isBlank c = true := fun c hc => List.mem_takeWhile_imp hc
  rw [← hsplit]
  unfold DescribedType.ofChars? at h
  dsimp only at h
  generalize cs.takeWhile isBlank = before at hbefore ⊢
  generalize cs.dropWhile isBlank = body at h ⊢
  split at h
  · cases h
  · rename_i c tail
    split at h
    · rename_i hstart
      obtain ⟨hname, behind, hbody⟩ := isName_of_read tail hstart
      generalize dropEndWhile (· == ' ') ((c :: tail).takeWhile isNameChar) = name at h hname hbody
      have hbetween : ∀ d ∈ behind.takeWhile isBlank, isBlank d = true :=
        fun d hd => List.mem_takeWhile_imp hd
      have hbehind : behind.takeWhile isBlank ++ behind.dropWhile isBlank = behind :=
        List.takeWhile_append_dropWhile
      rw [hbody, List.drop_left] at h
      rw [hbody, ← hbehind]
      split at h
      · rename_i hrest
        obtain rfl := Option.some.inj h
        rw [hrest, List.append_nil]
        exact .bare hbefore hname hbetween
      · obtain ⟨length, hlength, rfl⟩ := Option.map_eq_some_iff.mp h
        obtain ⟨hfeed, after, hafter, hrest⟩ := parenthesized?_eq_some_iff.mp hlength
        rw [hrest]
        exact .sized hbefore hname hbetween hfeed hafter
    · cases h

theorem ofChars?_typeSql {d : Definition} (h : d.Canonical) (he : d.engine = .snowflake)
    (hl : ∀ s ∈ d.length, '\n' ∉ s.toList) : DescribedType.ofChars? d.typeSql.toList =
      some ⟨d.type.toList, d.length.map String.toList⟩ := by
  obtain ⟨hname, hlast⟩ := isName_of_mem (he ▸ h.type_mem)
  have hshows : ShowsType d.typeSql.toList d.type.toList (d.length.map String.toList) := by
    cases hlen : d.length with
    | none =>
      have ht : d.typeSql.toList = [] ++ (d.type.toList ++ []) := by simp [Definition.typeSql, hlen]
      rw [ht]
      exact .bare (by simp) hname (by simp)
    | some s =>
      have ht : d.typeSql.toList =
          [] ++ (d.type.toList ++ ([] ++ '(' :: (s.toList ++ ')' :: []))) := by
        simp [Definition.typeSql, hlen]
      rw [ht]
      exact .sized (by simp) hname (by simp) (hl s hlen) (by simp)
  rw [ofChars?_of_shows hshows, dropEndWhile_of_getLast hlast]

end WarehouseSchema.Catalog
