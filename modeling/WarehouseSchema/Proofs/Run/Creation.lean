import WarehouseSchema.Proofs.Run.Replacement

/-!
Creations in runs. Behind the CREATE of a table there are only questions, so that the CREATE statements of
a run are those of its tables. A run without a fault can be cut at each of its tables.
-/

namespace WarehouseSchema

open Text Reflection

/-- A statement that creates some table. -/
def IsCreate (e : Engine) (sql : String) : Prop :=
  ∃ schema table temporary columns keys,
    sql = (Statement.create schema table temporary columns keys).render e

theorem CatalogQuery.not_isCreate {e e' : Engine} (q : CatalogQuery) :
    ¬ IsCreate e (q.render e') := by
  rintro ⟨schema, table, temporary, columns, keys, h⟩
  have hcreate : "CREATE ".toList <+: (q.render e').toList := by
    have hlead : ∀ e ∈ Engine.all, ∀ temporary : Bool,
        "CREATE ".toList <+: ((Statement.Form.create temporary).lead e).toList := by decide +kernel
    rw [h, Statement.render_eq, String.toList_append]
    exact (hlead e (Engine.mem_all e) temporary).trans (List.prefix_append _ _)
  exact (q.starts_render e').not_lead (by decide +kernel) hcreate

/-- The table of a CREATE can be told from its text, apart from the schema of a temporary Redshift
table. -/
theorem Statement.names_of_render_eq {e : Engine} {schema schema' table table' : String}
    {temporary temporary' : Bool} {columns columns' : List Column} {keys keys' : List String}
    (h : (create schema table temporary columns keys).render e =
      (create schema' table' temporary' columns' keys').render e) :
    temporary = temporary' ∧ table = table' ∧
      (schema = schema' ∨ e = .redshift ∧ temporary = true) := by
  obtain ⟨hform, hbody⟩ := form_eq_of_render_eq h
  obtain rfl : temporary = temporary' := by simpa [form] using hform
  simp only [body, String.toList_append] at hbody
  obtain ⟨htable, hschema, _⟩ := createdName_cancel (head?_createdOptions _ _ _)
    (head?_createdOptions _ _ _) hbody
  exact ⟨rfl, htable, hschema⟩

namespace Plan

variable {p : Plan} {b : Backend} {t u : Table} {tables before later : List Table}
  {earlier asked : List String} {fs after : Files} {r : Except Fault Unit} {folder : String}

theorem isCreate_creating (p : Plan) (t : Table) : IsCreate p.engine (p.creating t) :=
  ⟨_, _, _, _, _, rfl⟩

theorem not_isCreate_dropping (p : Plan) (t : Table) : ¬ IsCreate p.engine (p.dropping t) := by
  rintro ⟨schema, table, temporary, columns, keys, h⟩
  have hdrop : (Statement.drop t.schema t.name).render p.engine =
    (Statement.create schema table temporary columns keys).render p.engine := h
  have hform := (Statement.form_eq_of_render_eq hdrop).1
  simp [Statement.form] at hform

theorem Verification.exists_query (h : Verification p b t earlier asked r) :
    ∀ sql ∈ asked, ∃ q : CatalogQuery, sql = q.render p.engine := by
  have hboth : ∀ sql ∈ [p.describing t, p.keyListing t],
      ∃ q : CatalogQuery, sql = q.render p.engine := by
    intro sql hsql
    simp only [List.mem_cons, List.not_mem_nil, or_false] at hsql
    rcases hsql with rfl | rfl
    · exact ⟨_, rfl⟩
    · exact ⟨_, rfl⟩
  intro sql hsql
  apply hboth
  cases h <;> simp_all

/-- Behind the CREATE of a table there are only questions. -/
theorem Creation.exists_queries (h : Creation p b t earlier fs asked r after) :
    ∃ more, asked = p.creating t :: more ∧
      ∀ sql ∈ more, ∃ q : CatalogQuery, sql = q.render p.engine := by
  cases h with
  | refused | unexported | unverified => exact ⟨[], rfl, by simp⟩
  | verified _ _ _ _ hverified => exact ⟨_, rfl, hverified.exists_query⟩

theorem Creation.eq_creating (h : Creation p b t earlier fs asked r after) :
    ∀ sql ∈ asked, IsCreate p.engine sql → sql = p.creating t := by
  obtain ⟨more, rfl, hmore⟩ := h.exists_queries
  intro sql hsql hcreate
  rcases List.mem_cons.mp hsql with rfl | hsql
  · rfl
  · obtain ⟨q, rfl⟩ := hmore sql hsql
    exact absurd hcreate q.not_isCreate

/-- The only CREATE of a block is that of its table. -/
theorem Block.eq_creating (h : Block p b t earlier fs asked r after) :
    ∀ sql ∈ asked, IsCreate p.engine sql → sql = p.creating t := by
  have hlisting : ¬ IsCreate p.engine (p.listing t) := CatalogQuery.not_isCreate _
  have hdropping := p.not_isCreate_dropping t
  intro sql hsql hcreate
  cases h with
  | temporary _ hcreation => exact hcreation.eq_creating sql hsql hcreate
  | unlisted | skipped =>
    obtain rfl := List.mem_singleton.mp hsql
    exact absurd hcreate hlisting
  | undropped =>
    simp only [List.mem_cons, List.not_mem_nil, or_false] at hsql
    rcases hsql with rfl | rfl
    · exact absurd hcreate hlisting
    · exact absurd hcreate hdropping
  | replaced _ _ _ _ _ hcreation =>
    simp only [List.mem_cons] at hsql
    rcases hsql with rfl | rfl | hsql
    · exact absurd hcreate hlisting
    · exact absurd hcreate hdropping
    · exact hcreation.eq_creating sql hsql hcreate
  | new _ _ _ hcreation =>
    rcases List.mem_cons.mp hsql with rfl | hsql
    · exact absurd hcreate hlisting
    · exact hcreation.eq_creating sql hsql hcreate

theorem Course.exists_creating (h : Course p b earlier fs tables asked r after) :
    ∀ sql ∈ asked, IsCreate p.engine sql → ∃ t ∈ tables, sql = p.creating t := by
  induction h with
  | done => simp
  | cut hblock =>
    intro sql hsql hcreate
    exact ⟨_, List.mem_cons_self, hblock.eq_creating sql hsql hcreate⟩
  | next hblock _ ih =>
    intro sql hsql hcreate
    rcases List.mem_append.mp hsql with hsql | hsql
    · exact ⟨_, List.mem_cons_self, hblock.eq_creating sql hsql hcreate⟩
    · obtain ⟨t, ht, heq⟩ := ih sql hsql hcreate
      exact ⟨t, List.mem_cons_of_mem _ ht, heq⟩

/-- A run that went well up to its end can be cut at each of its tables. -/
theorem Course.exists_block (h : Course p b earlier fs (before ++ t :: later) asked (.ok ()) after) :
    ∃ first block last fs₁ fs₂, asked = first ++ (block ++ last) ∧
      Course p b earlier fs before first (.ok ()) fs₁ ∧
      Block p b t (earlier ++ first) fs₁ block (.ok ()) fs₂ ∧
      Course p b (earlier ++ first ++ block) fs₂ later last (.ok ()) after := by
  induction before generalizing earlier fs asked with
  | nil =>
    cases h with
    | next hblock hrest =>
      rename_i block last fs'
      refine ⟨[], block, last, fs, fs', rfl, .done _ _, ?_, ?_⟩
      · rwa [List.append_nil]
      · rwa [List.append_nil]
  | cons x before ih =>
    cases h with
    | next hblock hrest =>
      rename_i front _ _
      obtain ⟨first, block, last, fs₁, fs₂, rfl, hfirst, hmiddle, hlast⟩ := ih hrest
      refine ⟨front ++ first, block, last, fs₁, fs₂, by rw [List.append_assoc],
        .next hblock hfirst, ?_, ?_⟩
      · rw [← List.append_assoc]
        exact hmiddle
      · rw [← List.append_assoc]
        exact hlast

end Plan

end WarehouseSchema
