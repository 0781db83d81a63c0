import WarehouseSchema.Quoting

/-!
Texts that can be told apart from what follows them. A way of writing is framed when what was written
and what comes behind it are both determined by the whole, as long as what comes behind is such that
it cannot be taken for a part of what was written. Texts made of framed parts are framed.
-/

namespace WarehouseSchema.Text

variable {α : Type} {P : α → Prop} {Next : List Char → Prop} {write : α → List Char}

def Framed (P : α → Prop) (Next : List Char → Prop) (write : α → List Char) : Prop :=
  ∀ ⦃a b x y⦄, P a → P b → Next x → Next y → write a ++ x = write b ++ y → a = b ∧ x = y

/-- The text begins with one of these. -/
def Starts (starts : List (List Char)) (cs : List Char) : Prop := ∃ p ∈ starts, p <+: cs

instance (starts : List (List Char)) (cs : List Char) : Decidable (Starts starts cs) :=
  inferInstanceAs (Decidable (∃ p ∈ starts, p <+: cs))

theorem Starts.append {starts : List (List Char)} {cs : List Char} (h : Starts starts cs)
    (rest : List Char) : Starts starts (cs ++ rest) := by
  obtain ⟨p, hp, hc⟩ := h
  exact ⟨p, hp, hc.trans (List.prefix_append cs rest)⟩

theorem Starts.mono {starts more : List (List Char)} {cs : List Char} (h : Starts starts cs)
    (hs : starts ⊆ more) : Starts more cs := by
  obtain ⟨p, hp, hc⟩ := h
  exact ⟨p, hs hp, hc⟩

theorem Starts.not_lead {starts : List (List Char)} {cs lead : List Char} (h : Starts starts cs)
    (hl : ∀ p ∈ starts, ¬ p <+: lead ∧ ¬ lead <+: p) : ¬ lead <+: cs := by
  intro hc
  obtain ⟨p, hp, hpc⟩ := h
  rcases List.prefix_or_prefix_of_prefix hpc hc with hpl | hlp
  · exact (hl p hp).1 hpl
  · exact (hl p hp).2 hlp

/-- Words are framed when none goes on as another one and what may follow that. -/
theorem framed_of_words {words : List α} {starts : List (List Char)}
    (h : ∀ a ∈ words, ∀ b ∈ words, write a <+: write b → a = b ∨ ∀ p ∈ starts,
      ¬ p <+: (write b).drop (write a).length ∧ ¬ (write b).drop (write a).length <+: p) :
    Framed (· ∈ words) (Starts starts) write := by
  have hstep : ∀ a ∈ words, ∀ b ∈ words, ∀ x y, Starts starts x →
      write a ++ x = write b ++ y → write a <+: write b → a = b := by
    intro a ha b hb x y hx he hpre
    rcases h a ha b hb hpre with hab | hrest
    · exact hab
    · obtain ⟨rest, hr⟩ := hpre
      -- What follows the shorter word would have to begin like the rest of the longer one.
      rw [← hr, List.drop_left] at hrest
      rw [← hr, List.append_assoc] at he
      exact absurd ⟨y, (List.append_cancel_left he).symm⟩ (hx.not_lead hrest)
  intro a b x y ha hb hx hy he
  have hab : a = b := by
    rcases List.prefix_or_prefix_of_prefix ⟨x, he⟩ (List.prefix_append (write b) y) with hw | hw
    · exact hstep a ha b hb x y hx he hw
    · exact (hstep b hb a ha y x hy he.symm hw).symm
  subst b
  exact ⟨rfl, List.append_cancel_left he⟩

/-- A text up to its first mark is framed by the mark. -/
theorem framed_mark (mark : Char) :
    Framed (fun cs : List Char => mark ∉ cs) (fun _ => True) fun cs => cs ++ [mark] := by
  intro a
  induction a with
  | nil =>
    intro b x y _ hb _ _ he
    cases b with
    | nil => exact ⟨rfl, by simpa using he⟩
    | cons c b =>
      have hc : mark = c := by simpa using congrArg List.head? he
      exact absurd (List.mem_cons.mpr (Or.inl hc)) hb
  | cons d a ih =>
    intro b x y ha hb hx hy he
    cases b with
    | nil =>
      have hd : d = mark := by simpa using congrArg List.head? he
      exact absurd (List.mem_cons.mpr (Or.inl hd.symm)) ha
    | cons c b =>
      simp only [List.cons_append, List.cons.injEq] at he
      obtain ⟨rfl, he⟩ := he
      have ha' : mark ∉ a := fun hm => ha (List.mem_cons_of_mem d hm)
      have hb' : mark ∉ b := fun hm => hb (List.mem_cons_of_mem d hm)
      obtain ⟨rfl, hxy⟩ := ih ha' hb' hx hy he
      exact ⟨rfl, hxy⟩

/-- A quoted text is framed by its quotes as long as no quote follows. -/
theorem framed_quoted (q : Char) :
    Framed (fun _ : List Char => True) (fun x => x.head? ≠ some q) (Quoting.quoteChars [q]) := by
  intro a b x y _ _ hx hy he
  simp only [Quoting.quoteChars_single, List.cons_append, List.append_assoc, List.nil_append,
    List.cons.injEq, true_and] at he
  have hscan := congrArg (Quoting.scan q) he
  rw [Quoting.scan_double q a x hx, Quoting.scan_double q b y hy] at hscan
  simpa using hscan

namespace Framed

theorem of_injective {β : Type} {f : β → α} (h : Framed P Next write) (hf : Function.Injective f) :
    Framed (fun b => P (f b)) Next fun b => write (f b) := by
  intro a b x y ha hb hx hy he
  obtain ⟨hab, hxy⟩ := h ha hb hx hy he
  exact ⟨hf hab, hxy⟩

theorem lead (h : Framed P Next write) (lead : List Char) :
    Framed P Next fun a => lead ++ write a := by
  intro a b x y ha hb hx hy he
  rw [List.append_assoc, List.append_assoc] at he
  exact h ha hb hx hy (List.append_cancel_left he)

/-- Parts that may be left out are framed when nothing else begins with their lead. -/
theorem option (h : Framed P Next write) {lead : List Char}
    (hlead : ∀ x, Next x → ¬ lead <+: x) :
    Framed (fun o : Option α => ∀ a ∈ o, P a) Next
      fun o => o.elim [] fun a => lead ++ write a := by
  intro a b x y ha hb hx hy he
  cases a with
  | none =>
    cases b with
    | none => exact ⟨rfl, he⟩
    | some b => exact absurd ⟨write b ++ y, by simpa using he.symm⟩ (hlead x hx)
  | some a =>
    cases b with
    | none => exact absurd ⟨write a ++ x, by simpa using he⟩ (hlead y hy)
    | some b =>
      obtain ⟨rfl, hxy⟩ := h.lead lead (ha a rfl) (hb b rfl) hx hy he
      exact ⟨rfl, hxy⟩

/-- Parts with separators between them are framed when nothing else begins with the separator. -/
theorem join (h : Framed P Next write) {sep : List Char} (hsep : ∀ x, Next (sep ++ x)) :
    Framed (fun as => as ≠ [] ∧ ∀ a ∈ as, P a) (fun x => Next x ∧ ¬ sep <+: x)
      fun as => sep.intercalate (as.map write) := by
  intro as
  induction as with
  | nil => exact fun _ _ _ ha => absurd rfl ha.1
  | cons a as ih =>
    intro bs x y ha hb hx hy he
    have hPa := ha.2 a (by simp)
    cases bs with
    | nil => exact absurd rfl hb.1
    | cons b bs =>
      have hPb := hb.2 b (by simp)
      cases as with
      | nil =>
        cases bs with
        | nil =>
          simp only [List.map_cons, List.map_nil, List.intercalate_singleton] at he
          obtain ⟨rfl, hxy⟩ := h hPa hPb hx.1 hy.1 he
          exact ⟨rfl, hxy⟩
        | cons b' bs =>
          -- A separator stands where the first list has ended.
          simp only [List.map_cons, List.map_nil, List.intercalate_singleton,
            List.intercalate_cons_cons, List.append_assoc] at he
          obtain ⟨_, hxy⟩ := h hPa hPb hx.1 (hsep _) he
          exact absurd ⟨_, hxy.symm⟩ hx.2
      | cons a' as =>
        cases bs with
        | nil =>
          simp only [List.map_cons, List.map_nil, List.intercalate_singleton,
            List.intercalate_cons_cons, List.append_assoc] at he
          obtain ⟨_, hxy⟩ := h hPa hPb (hsep _) hy.1 he
          exact absurd ⟨_, hxy⟩ hy.2
        | cons b' bs =>
          simp only [List.map_cons, List.intercalate_cons_cons, List.append_assoc] at he
          obtain ⟨rfl, hrest⟩ := h hPa hPb (hsep _) (hsep _) he
          have ha' : a' :: as ≠ [] ∧ ∀ c ∈ a' :: as, P c :=
            ⟨by simp, fun c hc => ha.2 c (List.mem_cons_of_mem a hc)⟩
          have hb' : b' :: bs ≠ [] ∧ ∀ c ∈ b' :: bs, P c :=
            ⟨by simp, fun c hc => hb.2 c (List.mem_cons_of_mem a hc)⟩
          obtain ⟨hbs, hxy⟩ := ih ha' hb' hx hy (by simpa using List.append_cancel_left hrest)
          exact ⟨by rw [hbs], hxy⟩

end Framed

end WarehouseSchema.Text
