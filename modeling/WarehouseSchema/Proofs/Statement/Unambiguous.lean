import WarehouseSchema.Proofs.Statement.Items

/-!
Statements are determined by their texts. Each form of statement begins with words of its own, and
behind them every argument is framed. Main statement: two statements of a warehouse have the same text
only when they are the same, apart from the schema of a temporary Redshift table, which is not
written.
-/

namespace WarehouseSchema

open Text

theorem quoteQualified_cancel {schema schema' object object' : String} {x y : List Char}
    (hx : x.head? ≠ some '"') (hy : y.head? ≠ some '"')
    (h : (quoteQualified schema object).toList ++ x =
      (quoteQualified schema' object').toList ++ y) :
    schema = schema' ∧ object = object' ∧ x = y :=
  quoteQualifiedWith_cancel rfl (by decide) hx hy h

namespace Statement

/-- What a statement asks for, without its arguments. -/
inductive Form where
  | create (temporary : Bool)
  | rename
  | truncate
  | drop
  deriving DecidableEq

namespace Form

def all : List Form := [create false, create true, rename, truncate, drop]

theorem mem_all (f : Form) : f ∈ all := by
  cases f with
  | create temporary => cases temporary <;> decide
  | rename => decide
  | truncate => decide
  | drop => decide

/-- The words with which a statement of this form begins. -/
def lead (e : Engine) : Form → String
  | create false =>
    match e with
    | .teradata => "CREATE MULTISET TABLE "
    | .redshift | .snowflake => "CREATE TABLE "
  | create true =>
    match e with
    | .teradata => "CREATE MULTISET VOLATILE TABLE "
    | .redshift | .snowflake => "CREATE TEMPORARY TABLE "
  | rename =>
    match e with
    | .teradata => "RENAME TABLE "
    | .redshift | .snowflake => "ALTER TABLE "
  | truncate =>
    match e with
    | .teradata => "DELETE FROM "
    | .redshift | .snowflake => "TRUNCATE TABLE "
  | drop => "DROP TABLE "

theorem framed_lead (e : Engine) :
    Framed (fun _ => True) (fun _ => True) fun f : Form => (f.lead e).toList := by
  have hall : ∀ e ∈ Engine.all, ∀ f ∈ all, ∀ g ∈ all,
      (f.lead e).toList <+: (g.lead e).toList → f = g ∨ ∀ p ∈ [([] : List Char)],
        ¬ p <+: (g.lead e).toList.drop (f.lead e).toList.length ∧
        ¬ (g.lead e).toList.drop (f.lead e).toList.length <+: p := by
    decide +kernel
  have hstarts : ∀ x : List Char, Starts [[]] x := fun x => ⟨[], by simp, x.nil_prefix⟩
  intro f g x y _ _ _ _
  exact framed_of_words (hall e (Engine.mem_all e)) f.mem_all g.mem_all (hstarts x) (hstarts y)

end Form

def form : Statement → Form
  | create _ _ temporary _ _ => .create temporary
  | rename _ _ _ => .rename
  | truncate _ _ => .truncate
  | drop _ _ => .drop

def createdName (e : Engine) (schema table : String) (temporary : Bool) : String :=
  match e, temporary with
  | .redshift, true => quoteIdentifier table
  | .redshift, false | .snowflake, _ | .teradata, _ => quoteQualified schema table

/-- What stands between the name of the table and the parentheses of a CREATE. -/
def createdOptions (e : Engine) (temporary : Bool) : String :=
  match e, temporary with
  | .redshift, _ | .snowflake, _ => ""
  | .teradata, true => ", NO LOG"
  | .teradata, false => ", FALLBACK"

/-- What stands behind the old name in a statement that renames. -/
def renamedTo (e : Engine) (schema new : String) : String :=
  match e with
  | .redshift => " RENAME TO " ++ quoteIdentifier new
  | .snowflake => " RENAME TO " ++ quoteQualified schema new
  | .teradata => " TO " ++ quoteQualified schema new

/-- What stands behind the name of the table in a statement that empties it. -/
def truncateTail : Engine → String
  | .redshift | .snowflake => ""
  | .teradata => " ALL"

/-- What stands behind the words with which a statement begins. -/
def body (e : Engine) : Statement → String
  | create schema table temporary columns keys =>
    createdName e schema table temporary ++ (createdOptions e temporary ++ ("\n(\n" ++
      (",\n".intercalate (createItems columns keys) ++ ("\n)" ++ createTail e temporary))))
  | rename schema old new => quoteQualified schema old ++ renamedTo e schema new
  | truncate schema table => quoteQualified schema table ++ truncateTail e
  | drop schema table => quoteQualified schema table

theorem render_eq (e : Engine) (s : Statement) : s.render e = s.form.lead e ++ s.body e := by
  cases s with
  | create schema table temporary columns keys =>
    unfold render createHead form Form.lead body createdName createdOptions
    cases e <;> cases temporary <;> simp only [String.append_assoc, String.empty_append]
  | rename schema old new =>
    unfold render form Form.lead body renamedTo
    cases e <;> simp only [String.append_assoc]
  | truncate schema table =>
    unfold render form Form.lead body truncateTail
    cases e <;> simp only [String.append_assoc, String.append_empty]
  | drop schema table => rfl

/-- Statements with the same text have the same form, and the same text behind its words. -/
theorem form_eq_of_render_eq {e : Engine} {s s' : Statement} (h : s.render e = s'.render e) :
    s.form = s'.form ∧ (s.body e).toList = (s'.body e).toList := by
  rw [render_eq, render_eq] at h
  have he := congrArg String.toList h
  rw [String.toList_append, String.toList_append] at he
  exact Form.framed_lead e trivial trivial trivial trivial he

theorem createdName_cancel {e : Engine} {schema schema' table table' : String} {temporary : Bool}
    {x y : List Char} (hx : x.head? ≠ some '"') (hy : y.head? ≠ some '"')
    (h : (createdName e schema table temporary).toList ++ x =
      (createdName e schema' table' temporary).toList ++ y) :
    table = table' ∧ (schema = schema' ∨ e = .redshift ∧ temporary = true) ∧ x = y := by
  by_cases hs : e = .redshift ∧ temporary = true
  · obtain ⟨rfl, rfl⟩ := hs
    obtain ⟨rfl, hxy⟩ := framed_quoteIdentifier trivial trivial hx hy h
    exact ⟨rfl, Or.inr ⟨rfl, rfl⟩, hxy⟩
  · have hq : ∀ s t, createdName e s t temporary = quoteQualified s t := by
      intro s t
      unfold createdName
      split
      · exact absurd ⟨rfl, rfl⟩ hs
      all_goals rfl
    rw [hq, hq] at h
    obtain ⟨hschema, htable, hxy⟩ := quoteQualified_cancel hx hy h
    exact ⟨htable, Or.inl hschema, hxy⟩

theorem head?_createdOptions (e : Engine) (temporary : Bool) (x : List Char) :
    ((createdOptions e temporary).toList ++ ("\n(\n".toList ++ x)).head? ≠ some '"' := by
  unfold createdOptions
  cases e <;> cases temporary <;> simp

theorem head?_renamedTo (e : Engine) (schema new : String) :
    (renamedTo e schema new).toList.head? ≠ some '"' := by
  unfold renamedTo
  cases e <;> simp

theorem head?_truncateTail (e : Engine) : (truncateTail e).toList.head? ≠ some '"' := by
  cases e <;> simp [truncateTail]

theorem renamedTo_injective {e : Engine} {schema new new' : String}
    (h : (renamedTo e schema new).toList = (renamedTo e schema new').toList) : new = new' := by
  have hend : ([] : List Char).head? ≠ some '"' := by simp
  rw [← List.append_nil (renamedTo e schema new).toList,
    ← List.append_nil (renamedTo e schema new').toList] at h
  unfold renamedTo at h
  cases e with
  | redshift =>
    simp only [String.toList_append, List.append_assoc] at h
    exact (framed_quoteIdentifier trivial trivial hend hend (List.append_cancel_left h)).1
  | snowflake =>
    simp only [String.toList_append, List.append_assoc] at h
    exact (quoteQualified_cancel hend hend (List.append_cancel_left h)).2.1
  | teradata =>
    simp only [String.toList_append, List.append_assoc] at h
    exact (quoteQualified_cancel hend hend (List.append_cancel_left h)).2.1

/-- What a generator of a warehouse is asked for: there are columns, all of the warehouse and without
defaults. -/
def Proper (e : Engine) : Statement → Prop
  | create _ _ _ columns _ => columns ≠ [] ∧ ∀ c ∈ columns, c.WithoutDefault e
  | rename _ _ _ | truncate _ _ | drop _ _ => True

/-- Statements that are the same but for the schema of a temporary Redshift table, which lives in a
schema of the session. -/
inductive Agree : Engine → Statement → Statement → Prop where
  | same (e : Engine) (s : Statement) : Agree e s s
  | session (schema schema' table : String) (columns : List Column) (keys : List String) :
      Agree .redshift (create schema table true columns keys)
        (create schema' table true columns keys)

theorem Agree.render_eq {e : Engine} {s s' : Statement} (h : Agree e s s') :
    s.render e = s'.render e := by
  cases h with
  | same => rfl
  | session => rfl

theorem agree_create {e : Engine} {schema schema' table table' : String} {temporary : Bool}
    {columns columns' : List Column} {keys keys' : List String}
    (hs : Proper e (create schema table temporary columns keys))
    (hs' : Proper e (create schema' table' temporary columns' keys'))
    (h : (body e (create schema table temporary columns keys)).toList =
      (body e (create schema' table' temporary columns' keys')).toList) :
    Agree e (create schema table temporary columns keys)
      (create schema' table' temporary columns' keys') := by
  simp only [body, String.toList_append] at h
  obtain ⟨htable, hschema, h⟩ := createdName_cancel (head?_createdOptions _ _ _)
    (head?_createdOptions _ _ _) h
  have hend : ∀ x, Starts clauseEnds ("\n)".toList ++ x) ∧ ¬ [',', '\n'] <+: "\n)".toList ++ x :=
    fun x => ⟨⟨['\n'], by decide, by simp⟩, by simp⟩
  have hitems := @framed_createItems e (columns, keys) (columns', keys') _ _ hs hs'
    (hend _) (hend _) (List.append_cancel_left (List.append_cancel_left h))
  obtain ⟨rfl, rfl⟩ := Prod.mk.inj hitems.1
  subst htable
  rcases hschema with rfl | ⟨rfl, rfl⟩
  · exact .same _ _
  · exact .session _ _ _ _ _

/-- Statements of a warehouse with the same text agree. -/
theorem agree_of_render_eq {e : Engine} {s s' : Statement} (hs : s.Proper e) (hs' : s'.Proper e)
    (h : s.render e = s'.render e) : Agree e s s' := by
  obtain ⟨hform, hbody⟩ := form_eq_of_render_eq h
  have hend : ([] : List Char).head? ≠ some '"' := by simp
  cases s with
  | create schema table temporary columns keys =>
    cases s' with
    | create schema' table' temporary' columns' keys' =>
      obtain rfl : temporary = temporary' := by simpa [form] using hform
      exact agree_create hs hs' hbody
    | rename | truncate | drop => simp [form] at hform
  | rename schema old new =>
    cases s' with
    | rename schema' old' new' =>
      simp only [body, String.toList_append] at hbody
      obtain ⟨hschema, hold, hnew⟩ := quoteQualified_cancel (head?_renamedTo _ _ _)
        (head?_renamedTo _ _ _) hbody
      subst hschema hold
      rw [renamedTo_injective hnew]
      exact .same _ _
    | create | truncate | drop => simp [form] at hform
  | truncate schema table =>
    cases s' with
    | truncate schema' table' =>
      simp only [body, String.toList_append] at hbody
      obtain ⟨rfl, rfl, _⟩ := quoteQualified_cancel (head?_truncateTail e) (head?_truncateTail e) hbody
      exact .same _ _
    | create | rename | drop => simp [form] at hform
  | drop schema table =>
    cases s' with
    | drop schema' table' =>
      rw [body, body, ← List.append_nil (quoteQualified schema table).toList,
        ← List.append_nil (quoteQualified schema' table').toList] at hbody
      obtain ⟨rfl, rfl, _⟩ := quoteQualified_cancel hend hend hbody
      exact .same _ _
    | create | rename | truncate => simp [form] at hform

/-- Two statements of a warehouse have the same text exactly when they agree. -/
theorem render_eq_iff_agree {e : Engine} {s s' : Statement} (hs : s.Proper e)
    (hs' : s'.Proper e) : s.render e = s'.render e ↔ Agree e s s' :=
  ⟨agree_of_render_eq hs hs', Agree.render_eq⟩

/-- Quotes, comma and line feed in a name are not taken for the end of a clause. -/
theorem render_comma_in_name :
    let d : Definition := ⟨.redshift, "VARCHAR", some "10", false, none, some "ZSTD"⟩
    let one := create "s" "t" true [⟨"a\",\n\"b", d, by decide⟩] ["k"]
    let two := create "s" "t" true [⟨"a", d, by decide⟩, ⟨"b", d, by decide⟩] ["k"]
    one.Proper .redshift ∧ two.Proper .redshift ∧ one.render .redshift ≠ two.render .redshift := by
  intro d one two
  have hd : d.MadeFor .redshift := ⟨.text "VARCHAR", d.optionRecord, rfl⟩
  have hone : one.Proper .redshift := by
    refine ⟨by simp, ?_⟩
    intro c hc
    rw [List.mem_singleton.mp hc]
    exact ⟨hd, rfl⟩
  have htwo : two.Proper .redshift := by
    refine ⟨by simp, ?_⟩
    intro c hc
    rcases List.mem_cons.mp hc with rfl | hc
    · exact ⟨hd, rfl⟩
    · rw [List.mem_singleton.mp hc]
      exact ⟨hd, rfl⟩
  have hcolumns : ∀ cs cs', Agree .redshift (create "s" "t" true cs ["k"])
      (create "s" "t" true cs' ["k"]) → cs = cs' := by
    intro cs cs' h
    cases h <;> rfl
  refine ⟨hone, htwo, fun h => ?_⟩
  have hsame := hcolumns _ _ ((render_eq_iff_agree hone htwo).mp h)
  exact absurd (congrArg List.length hsame) (by decide)

end Statement

end WarehouseSchema
