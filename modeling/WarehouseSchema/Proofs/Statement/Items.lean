import WarehouseSchema.Proofs.Statement.Clause

/-!
The items in the parentheses of a CREATE: clauses of columns, then the keys. Main statement: an item is
determined by its text, and columns and keys are determined by the items.
-/

namespace WarehouseSchema

open Text

namespace Statement

/-- An item in the parentheses of a CREATE. -/
inductive Item where
  | column (c : Column)
  | keys (names : List String)

namespace Item

def text : Item → String
  | column c => c.clause
  | keys names => "PRIMARY KEY (" ++ quoteIdentifiers names ++ ")"

/-- The items of a warehouse's CREATE: columns without defaults, and keys if there are any. -/
def Proper (e : Engine) : Item → Prop
  | column c => c.WithoutDefault e
  | keys names => names ≠ []

def columns : List Item → List Column
  | [] => []
  | column c :: items => c :: columns items
  | keys _ :: items => columns items

def names : List Item → List String
  | [] => []
  | column _ :: items => names items
  | keys ns :: items => ns ++ names items

def of (columns : List Column) (keys : List String) : List Item :=
  columns.map column ++ if keys.isEmpty then [] else [.keys keys]

theorem map_text_of (columns : List Column) (keys : List String) :
    (of columns keys).map text = createItems columns keys := by
  have hc : columns.map (text ∘ column) = columns.map Column.clause := rfl
  rw [of, createItems, List.map_append, List.map_map, hc]
  split <;> rfl

theorem columns_of (cs : List Column) (ks : List String) : columns (of cs ks) = cs := by
  induction cs with
  | nil => cases ks <;> rfl
  | cons c cs ih => exact congrArg (c :: ·) ih

theorem names_of (cs : List Column) (ks : List String) : names (of cs ks) = ks := by
  induction cs with
  | nil =>
    cases ks with
    | nil => rfl
    | cons k ks => exact List.append_nil (k :: ks)
  | cons c cs ih => exact ih

theorem toList_text_keys (names : List String) : (text (keys names)).toList =
    "PRIMARY KEY (".toList ++
      ([','].intercalate (names.map fun name => (quoteIdentifier name).toList) ++ [')']) := by
  rw [text, quoteIdentifiers, String.toList_append, String.toList_append, toList_quoteIdentifiersWith,
    List.append_assoc]
  rfl

theorem framed_keys : Framed (· ≠ []) (fun _ => True)
    fun names => (text (keys names)).toList := by
  have hsep : ∀ x, ([','] ++ x).head? ≠ some '"' := by simp
  intro a b x y ha hb _ _ he
  simp only [toList_text_keys, List.append_assoc] at he
  obtain ⟨rfl, hrest⟩ := framed_quoteIdentifier.join hsep ⟨ha, fun _ _ => trivial⟩ ⟨hb, fun _ _ => trivial⟩
    ⟨by simp, by simp⟩ ⟨by simp, by simp⟩ (List.append_cancel_left he)
  exact ⟨rfl, List.append_cancel_left hrest⟩

/-- A column clause begins with a quote, the keys do not. -/
theorem clause_ne_keys (c : Column) (names : List String) (x y : List Char) :
    c.clause.toList ++ x ≠ (text (keys names)).toList ++ y := by
  intro he
  have hhead := congrArg List.head? he
  rw [toList_text_keys] at hhead
  simp [Column.clause, quoteIdentifier, quoteIdentifierWith, Quoting.quoteChars] at hhead

theorem framed_text (e : Engine) :
    Framed (Proper e) (Starts clauseEnds) fun i => i.text.toList := by
  intro a b x y ha hb hx hy he
  cases a with
  | column c =>
    cases b with
    | column d =>
      obtain ⟨rfl, hxy⟩ := framed_clause e ha hb hx hy he
      exact ⟨rfl, hxy⟩
    | keys names => exact absurd he (clause_ne_keys c names x y)
  | keys names =>
    cases b with
    | column d => exact absurd he.symm (clause_ne_keys d names y x)
    | keys names' =>
      obtain ⟨rfl, hxy⟩ := framed_keys ha hb trivial trivial he
      exact ⟨rfl, hxy⟩

end Item

/-- Columns without defaults and keys are determined by the items of their CREATE. -/
theorem framed_createItems (e : Engine) :
    Framed (fun p : List Column × List String => p.1 ≠ [] ∧ ∀ c ∈ p.1, c.WithoutDefault e)
      (fun x => Starts clauseEnds x ∧ ¬ [',', '\n'] <+: x)
      fun p => (",\n".intercalate (createItems p.1 p.2)).toList := by
  have hsep : ∀ x, Starts clauseEnds ([',', '\n'] ++ x) := fun x => ⟨[','], by decide, by simp⟩
  have hproper : ∀ cs ks, (cs ≠ [] ∧ ∀ c ∈ cs, c.WithoutDefault e) →
      Item.of cs ks ≠ [] ∧ ∀ i ∈ Item.of cs ks, i.Proper e := by
    intro cs ks h
    refine ⟨fun hn => h.1 (by simpa [Item.of] using (List.append_eq_nil_iff.mp hn).1), ?_⟩
    intro i hi
    rcases List.mem_append.mp hi with hi | hi
    · obtain ⟨c, hc, rfl⟩ := List.mem_map.mp hi
      exact h.2 c hc
    · cases ks with
      | nil => exact absurd hi (by simp)
      | cons k ks =>
        rw [List.mem_singleton.mp hi]
        exact List.cons_ne_nil k ks
  rintro ⟨cs, ks⟩ ⟨cs', ks'⟩ x y h h' hx hy he
  simp only [← Item.map_text_of, String.toList_intercalate, List.map_map] at he
  obtain ⟨hitems, hxy⟩ := (Item.framed_text e).join hsep (hproper cs ks h) (hproper cs' ks' h')
    hx hy he
  have hcs := congrArg Item.columns hitems
  have hks := congrArg Item.names hitems
  rw [Item.columns_of, Item.columns_of] at hcs
  rw [Item.names_of, Item.names_of] at hks
  exact ⟨by rw [hcs, hks], hxy⟩

end Statement

end WarehouseSchema
