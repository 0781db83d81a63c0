import WarehouseSchema.Proofs.Run.Course
import WarehouseSchema.Proofs.Statement.Unambiguous

/-!
Replacement of tables. Main statement: a run drops a table only when it is to be replaced and was just
listed, and creates it right after that, unless the warehouse refuses to drop it.
-/

namespace WarehouseSchema

open Text Reflection

/-- A statement that drops some table. -/
def IsDrop (e : Engine) (sql : String) : Prop :=
  ∃ schema table, sql = (Statement.drop schema table).render e

/-- The letters with which questions to a catalog begin. -/
def CatalogQuery.leads : List (List Char) := [['S', 'E'], ['S', 'H'], ['D', 'E'], ['H', 'E']]

theorem CatalogQuery.starts_render (e : Engine) (q : CatalogQuery) :
    Starts leads (q.render e).toList := by
  unfold render redshiftTables teradataTables
  cases q <;> cases e <;> simp only [String.toList_append, List.append_assoc]
  all_goals first
    | exact Starts.append (by decide +kernel) _
    | decide +kernel

theorem CatalogQuery.not_isDrop {e e' : Engine} (q : CatalogQuery) : ¬ IsDrop e (q.render e') := by
  rintro ⟨schema, table, h⟩
  have hdrop : "DROP TABLE ".toList <+: (q.render e').toList := by
    rw [h, Statement.render_eq, String.toList_append]
    exact ⟨_, rfl⟩
  exact (q.starts_render e').not_lead (by decide +kernel) hdrop

theorem Plan.not_isDrop_creating (p : Plan) (t : Table) : ¬ IsDrop p.engine (p.creating t) := by
  rintro ⟨schema, table, h⟩
  have hform := (Statement.form_eq_of_render_eq h).1
  simp [Statement.form] at hform

/-- The only item of a kind is found where it stands. -/
theorem eq_of_append_cons_eq {α : Type} {P : α → Prop} {a a' : α} {pre pre' post post' : List α}
    (hpre : ∀ x ∈ pre, ¬ P x) (hpost : ∀ x ∈ post, ¬ P x) (ha : P a')
    (h : pre ++ a :: post = pre' ++ a' :: post') : pre = pre' ∧ a = a' ∧ post = post' := by
  induction pre generalizing pre' with
  | nil =>
    cases pre' with
    | nil => simpa using h
    | cons x pre' =>
      have hmem : a' ∈ post := by
        simp only [List.nil_append, List.cons_append, List.cons.injEq] at h
        simp [h.2]
      exact absurd ha (hpost a' hmem)
  | cons y pre ih =>
    cases pre' with
    | nil =>
      simp only [List.nil_append, List.cons_append, List.cons.injEq] at h
      exact absurd (h.1 ▸ ha) (hpre y (by simp))
    | cons x pre' =>
      simp only [List.cons_append, List.cons.injEq] at h
      obtain ⟨rfl, hrest⟩ := h
      obtain ⟨rfl, rest⟩ := ih (fun x hx => hpre x (List.mem_cons_of_mem y hx)) hrest
      exact ⟨rfl, rest⟩

namespace Plan

variable {p : Plan} {b : Backend} {t : Table} {earlier asked : List String} {fs after : Files}
  {r : Except Fault Unit}

theorem Verification.not_isDrop (h : Verification p b t earlier asked r) :
    ∀ sql ∈ asked, ¬ IsDrop p.engine sql := by
  have hall : ∀ sql ∈ [p.describing t, p.keyListing t], ¬ IsDrop p.engine sql := by
    intro sql hsql
    simp only [List.mem_cons, List.not_mem_nil, or_false] at hsql
    rcases hsql with rfl | rfl
    · exact CatalogQuery.not_isDrop _
    · exact CatalogQuery.not_isDrop _
  intro sql hsql
  apply hall
  cases h <;> simp_all

theorem Creation.asked_eq (h : Creation p b t earlier fs asked r after) :
    ∃ more, asked = p.creating t :: more ∧ ∀ sql ∈ more, ¬ IsDrop p.engine sql := by
  cases h with
  | refused | unexported | unverified => exact ⟨[], rfl, by simp⟩
  | verified _ _ _ _ hverified => exact ⟨_, rfl, hverified.not_isDrop⟩

theorem Creation.not_isDrop (h : Creation p b t earlier fs asked r after) :
    ∀ sql ∈ asked, ¬ IsDrop p.engine sql := by
  obtain ⟨more, rfl, hmore⟩ := h.asked_eq
  intro sql hsql
  rcases List.mem_cons.mp hsql with rfl | hsql
  · exact p.not_isDrop_creating t
  · exact hmore sql hsql

/-- A DROP between other statements is in its place: it drops a lasting table that was just listed and is
to be replaced, and the table is created next, if the DROP is not refused. -/
structure Replaces (p : Plan) (b : Backend) (t : Table) (earlier before : List String)
    (sql : String) (next : List String) : Prop where
  dropped : sql = p.dropping t
  lasting : t.temporary = false
  replacing : p.replaces = true
  listed : ∃ names front, before = front ++ [p.listing t] ∧
    b.read (earlier ++ front) (p.listing t) (listedNames p.engine) = .ok names ∧ t.name ∈ names
  created : (∃ more, next = p.creating t :: more) ∨
    next = [] ∧ ∃ failure, b.answer (earlier ++ before) sql = .error failure

theorem Block.replaces (h : Block p b t earlier fs asked r after) {before next : List String}
    {sql : String} (hasked : asked = before ++ sql :: next) (hsql : IsDrop p.engine sql) :
    Replaces p b t earlier before sql next ∧ (next = [] → ∃ fault, r = .error fault) := by
  have hnone : (∀ x ∈ asked, ¬ IsDrop p.engine x) → False :=
    fun hall => hall sql (by simp [hasked]) hsql
  have hlisting : ¬ IsDrop p.engine (p.listing t) := CatalogQuery.not_isDrop _
  cases h with
  | temporary _ hcreation => exact (hnone hcreation.not_isDrop).elim
  | unlisted | skipped => exact (hnone (by simpa using hlisting)).elim
  | new _ _ _ hcreation =>
    refine (hnone ?_).elim
    intro x hx
    rcases List.mem_cons.mp hx with rfl | hx
    · exact hlisting
    · exact hcreation.not_isDrop x hx
  | undropped hlasting hnames hmem hreplaces hanswer =>
    rename_i names failure
    have hpre : ∀ x ∈ [p.listing t], ¬ IsDrop p.engine x := by simpa using hlisting
    have hpost : ∀ x ∈ ([] : List String), ¬ IsDrop p.engine x := by simp
    obtain ⟨rfl, rfl, rfl⟩ := eq_of_append_cons_eq hpre hpost hsql hasked
    refine ⟨⟨rfl, hlasting, hreplaces, ⟨names, [], rfl, ?_, hmem⟩, Or.inr ⟨rfl, failure, hanswer⟩⟩,
      fun _ => ⟨_, rfl⟩⟩
    rw [List.append_nil]
    exact hnames
  | replaced hlasting hnames hmem hreplaces hanswer hcreation =>
    rename_i names rows asked
    have hpre : ∀ x ∈ [p.listing t], ¬ IsDrop p.engine x := by simpa using hlisting
    obtain ⟨rfl, rfl, rfl⟩ := eq_of_append_cons_eq hpre hcreation.not_isDrop hsql hasked
    obtain ⟨more, rfl, _⟩ := hcreation.asked_eq
    refine ⟨⟨rfl, hlasting, hreplaces, ⟨names, [], rfl, ?_, hmem⟩, Or.inl ⟨more, rfl⟩⟩, by simp⟩
    rw [List.append_nil]
    exact hnames

theorem Replaces.shift {before next front : List String} {sql : String}
    (h : Replaces p b t (earlier ++ front) before sql next) :
    Replaces p b t earlier (front ++ before) sql next := by
  obtain ⟨names, front', rfl, hnames, hmem⟩ := h.listed
  refine ⟨h.dropped, h.lasting, h.replacing, ⟨names, front ++ front', ?_, ?_, hmem⟩, ?_⟩
  · rw [List.append_assoc]
  · rw [← List.append_assoc]
    exact hnames
  · refine h.created.imp_right ?_
    rintro ⟨hnext, failure, hanswer⟩
    refine ⟨hnext, failure, ?_⟩
    rw [← List.append_assoc]
    exact hanswer

theorem Replaces.extend {before next back : List String} {sql : String}
    (h : Replaces p b t earlier before sql next) (hne : next ≠ []) :
    Replaces p b t earlier before sql (next ++ back) := by
  refine ⟨h.dropped, h.lasting, h.replacing, h.listed, Or.inl ?_⟩
  rcases h.created with ⟨more, rfl⟩ | ⟨hnext, _⟩
  · exact ⟨more ++ back, rfl⟩
  · exact absurd hnext hne

/-- Every DROP of a run replaces a table of the run. -/
theorem Course.replaces {tables : List Table} (h : Course p b earlier fs tables asked r after)
    {before next : List String} {sql : String} (hasked : asked = before ++ sql :: next)
    (hsql : IsDrop p.engine sql) : ∃ t ∈ tables, Replaces p b t earlier before sql next := by
  induction h generalizing before next with
  | done => exact absurd hasked (by simp)
  | cut hblock => exact ⟨_, List.mem_cons_self, (hblock.replaces hasked hsql).1⟩
  | next hblock _ ih =>
    rcases List.append_eq_append_iff.mp hasked with ⟨front, hbefore, hmore⟩ | ⟨front, hfront, hnext⟩
    · obtain ⟨t, ht, hreplaces⟩ := ih hmore
      rw [hbefore]
      exact ⟨t, List.mem_cons_of_mem _ ht, hreplaces.shift⟩
    · cases front with
      | nil =>
        obtain ⟨t, ht, hreplaces⟩ := @ih [] next hnext.symm
        have hshift := hreplaces.shift
        rw [hfront, List.append_nil, List.append_nil] at hshift
        exact ⟨t, List.mem_cons_of_mem _ ht, hshift⟩
      | cons x front =>
        obtain ⟨rfl, rfl⟩ := List.cons.inj hnext
        obtain ⟨hreplaces, hlast⟩ := hblock.replaces hfront hsql
        -- A DROP that ends its block was refused, but this block went well.
        have hne : front ≠ [] := by
          intro hnil
          obtain ⟨fault, hr⟩ := hlast hnil
          exact absurd hr (by simp)
        exact ⟨_, List.mem_cons_self, hreplaces.extend hne⟩

end Plan

end WarehouseSchema
