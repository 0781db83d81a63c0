import WarehouseSchema.Proofs.Statement.Unambiguous

/-!
The parentheses of a CREATE. They open with the first parenthesis that ends a line outside quoted names, and
close with the last one that begins a line: defaults are written as they are, and may hold anything. Main
statement: the items of a CREATE stand between its parentheses, whatever its names and defaults hold.
-/

namespace WarehouseSchema

namespace Statement

/-- What stands behind the first parenthesis that opens at the end of a line, outside quotes. -/
def behindOpening (quoted : Bool) : List Char → Option (List Char)
  | [] => none
  | c :: cs =>
    if c = '"' then behindOpening (!quoted) cs
    else if quoted = false ∧ ['(', '\n'] <+: c :: cs then some cs.tail
    else behindOpening quoted cs

/-- What stands before the last parenthesis that closes at the beginning of a line. -/
def beforeClosing : List Char → Option (List Char)
  | [] => none
  | c :: cs =>
    match beforeClosing cs with
    | some body => some (c :: body)
    | none => if ['\n', ')'] <+: c :: cs then some [] else none

def parenthesized? (sql : String) : Option String :=
  ((behindOpening false sql.toList).bind beforeClosing).map String.ofList

theorem behindOpening_append {before : List Char} (h : '"' ∉ before ∧ '(' ∉ before)
    (rest : List Char) : behindOpening false (before ++ rest) = behindOpening false rest := by
  induction before with
  | nil => rfl
  | cons c before ih =>
    obtain ⟨hquote, hopen⟩ := h
    rw [List.mem_cons, not_or] at hquote hopen
    have hnot : ¬ ['(', '\n'] <+: c :: (before ++ rest) := by
      rw [List.cons_prefix_cons]
      exact fun hprefix => hopen.1 hprefix.1
    rw [List.cons_append, behindOpening, if_neg (Ne.symm hquote.1), if_neg fun hprefix => hnot hprefix.2]
    exact ih ⟨hquote.2, hopen.2⟩

/-- Between quotes nothing opens: a quote that is written twice leaves the name and comes back to it. -/
theorem behindOpening_double (cs rest : List Char) :
    behindOpening true (Quoting.double '"' cs ++ rest) = behindOpening true rest := by
  induction cs with
  | nil => rfl
  | cons c cs ih =>
    by_cases hc : c = '"'
    · have hdouble : Quoting.double '"' (c :: cs) = '"' :: '"' :: Quoting.double '"' cs := by
        simp [Quoting.double, hc]
      rw [hdouble, List.cons_append, List.cons_append, behindOpening, if_pos rfl, behindOpening,
        if_pos rfl]
      exact ih
    · have hdouble : Quoting.double '"' (c :: cs) = c :: Quoting.double '"' cs := by
        simp [Quoting.double, hc]
      rw [hdouble, List.cons_append, behindOpening, if_neg hc, if_neg (by simp)]
      exact ih

theorem behindOpening_quoteIdentifier (name : String) (rest : List Char) :
    behindOpening false ((quoteIdentifier name).toList ++ rest) = behindOpening false rest := by
  have hchars : (quoteIdentifier name).toList = Quoting.quoteChars ['"'] name.toList :=
    toList_quoteIdentifierWith rfl name
  rw [hchars, Quoting.quoteChars_single, List.cons_append, List.cons_append, List.append_assoc,
    List.singleton_append, behindOpening, if_pos rfl, Bool.not_false, behindOpening_double, behindOpening,
    if_pos rfl, Bool.not_true]

theorem behindOpening_quoteQualified (schema object : String) (rest : List Char) :
    behindOpening false ((quoteQualified schema object).toList ++ rest) = behindOpening false rest := by
  have hquoted : (quoteQualified schema object).toList =
      (quoteIdentifier schema).toList ++ '.' :: (quoteIdentifier object).toList :=
    toList_quoteQualifiedWith _ _ _
  rw [hquoted, List.append_assoc, behindOpening_quoteIdentifier, List.cons_append,
    behindOpening, if_neg (by decide), if_neg (by simp), behindOpening_quoteIdentifier]

theorem behindOpening_createdName (e : Engine) (schema table : String) (temporary : Bool)
    (rest : List Char) : behindOpening false ((createdName e schema table temporary).toList ++ rest) =
      behindOpening false rest := by
  unfold createdName
  split
  · exact behindOpening_quoteIdentifier table rest
  all_goals exact behindOpening_quoteQualified schema table rest

/-- The parenthesis before the items is the first one that opens. -/
theorem behindOpening_create (e : Engine) (schema table : String) (temporary : Bool)
    (columns : List Column) (keys : List String) :
    behindOpening false ((create schema table temporary columns keys).render e).toList =
      some ((",\n".intercalate (createItems columns keys)).toList ++
        "\n)".toList ++ (createTail e temporary).toList) := by
  have hlead : ∀ e ∈ Engine.all, ∀ f ∈ Form.all,
      '"' ∉ (Form.lead e f).toList ∧ '(' ∉ (Form.lead e f).toList := by
    decide +kernel
  have hoptions : '"' ∉ (createdOptions e temporary).toList ∧ '(' ∉ (createdOptions e temporary).toList := by
    cases e <;> cases temporary <;> decide
  have hopening : ∀ rest, behindOpening false ("\n(\n".toList ++ rest) = some rest := by
    intro rest
    simp [behindOpening]
  rw [render_eq]
  simp only [body, String.toList_append]
  rw [behindOpening_append (hlead e (Engine.mem_all e) _ (Form.mem_all _)), behindOpening_createdName,
    behindOpening_append hoptions, hopening, List.append_assoc]

theorem beforeClosing_append {tail : List Char} (h : beforeClosing (')' :: tail) = none)
    (inside : List Char) : beforeClosing (inside ++ '\n' :: ')' :: tail) = some inside := by
  induction inside with
  | nil => rw [List.nil_append, beforeClosing, h, if_pos (by simp)]
  | cons c inside ih => rw [List.cons_append, beforeClosing, ih]

/-- The items of a CREATE stand between its parentheses. -/
theorem parenthesized?_create (e : Engine) (schema table : String) (temporary : Bool)
    (columns : List Column) (keys : List String) :
    parenthesized? ((create schema table temporary columns keys).render e) =
      some (",\n".intercalate (createItems columns keys)) := by
  have htail : beforeClosing (')' :: (createTail e temporary).toList) = none := by
    cases e <;> cases temporary <;> decide
  have hsplit : ∀ inside : List Char, inside ++ "\n)".toList ++ (createTail e temporary).toList =
      inside ++ '\n' :: ')' :: (createTail e temporary).toList := by
    intro inside
    simp
  rw [parenthesized?, behindOpening_create, Option.bind_some, hsplit, beforeClosing_append htail,
    Option.map_some, String.ofList_toList]

end Statement

end WarehouseSchema
