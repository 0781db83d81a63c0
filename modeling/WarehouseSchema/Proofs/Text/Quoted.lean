import Mathlib.Logic.Function.Basic
import WarehouseSchema.Proofs.Text.Framing

/-!
Quoted names. A name between quotes is read back up to its closing quote, whatever stands behind it, if only
that does not go on with a quote. Main statement: lists of quoted names are determined by their texts, and so
are pairs, unless the quote is the mark that stands between them.
-/

namespace WarehouseSchema

open Text

namespace Quoting

/-- Behind its first character, what was quoted is read back, and with it all that follows. -/
def ReadsBack (q : Char) (quote : String → String) : Prop :=
  ∀ (s : String) (rest : List Char), rest.head? ≠ some q →
    ∃ body, (quote s).toList = q :: body ∧ scan q (body ++ rest) = some (s.toList, rest)

end Quoting

theorem toList_quoteIdentifiersWith (quote : String) (names : List String) :
    (quoteIdentifiersWith quote names).toList =
      [','].intercalate (names.map fun name => (quoteIdentifierWith quote name).toList) := by
  rw [quoteIdentifiersWith, String.toList_intercalate, List.map_map]
  rfl

theorem toList_quoteQualifiedWith (quote schema object : String) :
    (quoteQualifiedWith quote schema object).toList =
      (quoteIdentifierWith quote schema).toList ++ '.' :: (quoteIdentifierWith quote object).toList := by
  simp [quoteQualifiedWith]

section
variable {quote : String} {q : Char} (hquote : quote.toList = [q])
include hquote

theorem toList_quoteIdentifierWith (name : String) :
    (quoteIdentifierWith quote name).toList = Quoting.quoteChars [q] name.toList := by
  rw [quoteIdentifierWith, String.toList_ofList, hquote]

theorem readsBack_quoteIdentifierWith : Quoting.ReadsBack q (quoteIdentifierWith quote) := by
  intro s rest hrest
  refine ⟨Quoting.double q s.toList ++ [q], ?_, ?_⟩
  · rw [toList_quoteIdentifierWith hquote, Quoting.quoteChars_single, List.cons_append]
  · rw [List.append_assoc]
    exact Quoting.scan_double q s.toList rest hrest

theorem framed_quoteIdentifierWith :
    Framed (fun _ => True) (fun x => x.head? ≠ some q)
      fun name => (quoteIdentifierWith quote name).toList := by
  simp only [toList_quoteIdentifierWith hquote]
  exact (framed_quoted q).of_injective fun _ _ => String.toList_inj.mp

/-- What follows a quoted name can be told from it, unless it begins with a quote. -/
theorem quoteIdentifierWith_cancel {name name' x y : String} (hx : x.toList.head? ≠ some q)
    (hy : y.toList.head? ≠ some q)
    (h : quoteIdentifierWith quote name ++ x = quoteIdentifierWith quote name' ++ y) :
    name = name' ∧ x = y := by
  have hchars := congrArg String.toList h
  rw [String.toList_append, String.toList_append] at hchars
  obtain ⟨hname, hrest⟩ := framed_quoteIdentifierWith hquote trivial trivial hx hy hchars
  exact ⟨hname, String.toList_inj.mp hrest⟩

theorem quoteIdentifierWith_injective : Function.Injective (quoteIdentifierWith quote) := by
  intro name name' h
  have hend : "".toList.head? ≠ some q := by simp
  exact (quoteIdentifierWith_cancel hquote hend hend (congrArg (· ++ "") h)).1

/-- What follows a pair of quoted names can be told from it, unless it begins with a quote. -/
theorem quoteQualifiedWith_cancel (hdot : q ≠ '.') {schema schema' object object' : String}
    {x y : List Char} (hx : x.head? ≠ some q) (hy : y.head? ≠ some q)
    (h : (quoteQualifiedWith quote schema object).toList ++ x =
      (quoteQualifiedWith quote schema' object').toList ++ y) :
    schema = schema' ∧ object = object' ∧ x = y := by
  have hmark : ∀ cs, ('.' :: cs).head? ≠ some q := by
    intro cs
    simpa using hdot.symm
  simp only [toList_quoteQualifiedWith, List.append_assoc, List.cons_append] at h
  obtain ⟨hschema, hrest⟩ :=
    framed_quoteIdentifierWith hquote trivial trivial (hmark _) (hmark _) h
  obtain ⟨hobject, hxy⟩ :=
    framed_quoteIdentifierWith hquote trivial trivial hx hy (List.cons.inj hrest).2
  exact ⟨hschema, hobject, hxy⟩

theorem quoteQualifiedWith_injective (hdot : q ≠ '.') :
    Function.Injective2 (quoteQualifiedWith quote) := by
  intro schema schema' object object' h
  have hend : ([] : List Char).head? ≠ some q := by simp
  obtain ⟨hschema, hobject, _⟩ := quoteQualifiedWith_cancel hquote hdot hend hend
    (congrArg (fun text => text.toList ++ []) h)
  exact ⟨hschema, hobject⟩

theorem quoteIdentifiersWith_injective (hcomma : q ≠ ',') :
    Function.Injective (quoteIdentifiersWith quote) := by
  have hfull : ∀ name names, (quoteIdentifiersWith quote (name :: names)).toList ≠ [] := by
    intro name names
    rw [toList_quoteIdentifiersWith, List.map_cons, toList_quoteIdentifierWith hquote]
    cases names <;> simp [Quoting.quoteChars]
  have hsep : ∀ x, ([','] ++ x).head? ≠ some q := by
    intro x
    simpa using hcomma.symm
  intro names names' h
  have hchars := congrArg String.toList h
  cases names with
  | nil =>
    cases names' with
    | nil => rfl
    | cons name' names' => exact absurd hchars.symm (hfull name' names')
  | cons name names =>
    cases names' with
    | nil => exact absurd hchars (hfull name names)
    | cons name' names' =>
      have hend : ([] : List Char).head? ≠ some q ∧ ¬ [','] <+: ([] : List Char) := by simp
      have hany : ∀ a ∈ name :: names, True := fun _ _ => trivial
      have hany' : ∀ a ∈ name' :: names', True := fun _ _ => trivial
      rw [toList_quoteIdentifiersWith, toList_quoteIdentifiersWith] at hchars
      have hjoined := (framed_quoteIdentifierWith hquote).join hsep ⟨by simp, hany⟩
        ⟨by simp, hany'⟩ hend hend (congrArg (· ++ []) hchars)
      exact hjoined.1

end

theorem quoteIdentifier_injective : Function.Injective quoteIdentifier :=
  quoteIdentifierWith_injective rfl

theorem quoteLiteral_injective : Function.Injective quoteLiteral :=
  quoteIdentifierWith_injective rfl

theorem quoteQualified_injective : Function.Injective2 quoteQualified :=
  quoteQualifiedWith_injective rfl (by decide)

namespace Quoting

/-- Quoting is undone by reading, for identifiers and literals and with every other quote. Texts that are
put together from quoted names keep the names apart. -/
theorem readsBack_and_injective (q : Char) :
    ReadsBack q (quoteIdentifierWith (.singleton q)) ∧ ReadsBack '"' quoteIdentifier ∧
      ReadsBack '\'' quoteLiteral ∧
      (q ≠ ',' → Function.Injective (quoteIdentifiersWith (.singleton q))) ∧
      (q ≠ '.' → Function.Injective2 (quoteQualifiedWith (.singleton q))) := by
  have hquote : (String.singleton q).toList = [q] := String.toList_singleton q
  refine ⟨readsBack_quoteIdentifierWith hquote, readsBack_quoteIdentifierWith rfl,
    readsBack_quoteIdentifierWith rfl, ?_, ?_⟩
  · exact quoteIdentifiersWith_injective hquote
  · exact quoteQualifiedWith_injective hquote

/-- Names of apostrophes, separators and what looks like a closing quote. -/
theorem readsBack_and_injective_apostrophe :
    [','].head? ≠ some '\'' ∧ '\'' ≠ ',' ∧ '\'' ≠ '.' ∧
      (∃ body, (quoteLiteral "it's, '").toList = '\'' :: body ∧
        scan '\'' (body ++ [',']) = some ("it's, '".toList, [','])) ∧
      quoteIdentifiersWith "'" ["','"] ≠ quoteIdentifiersWith "'" ["", ""] ∧
      quoteQualifiedWith "'" "a'.'b" "c" ≠ quoteQualifiedWith "'" "a" "b'.'c" := by
  obtain ⟨_, _, hliteral, hnames, hpairs⟩ := readsBack_and_injective '\''
  have hrest : [','].head? ≠ some '\'' := by decide
  have hcomma : '\'' ≠ ',' := by decide
  have hdot : '\'' ≠ '.' := by decide
  refine ⟨hrest, hcomma, hdot, hliteral _ _ hrest, ?_, ?_⟩
  · intro h
    exact absurd (hnames hcomma h) (by decide)
  · intro h
    exact absurd (hpairs hdot h).1 (by decide)

end Quoting

end WarehouseSchema
