import Mathlib.Data.Set.Insert
import WarehouseSchema.Proofs.Run.Creation

/-!
Runs over a warehouse that keeps tables. Such a warehouse lists the tables that it holds, refuses to
create a lasting table twice, and to drop one that it does not hold. Main statement: a run is refused
neither, and when it ends without a fault the warehouse holds the lasting tables of the plan besides those
that it held.
-/

namespace WarehouseSchema

open Text Reflection

def Table.address (t : Table) : String × String := (t.schema, t.name)

/-- The statement creates a lasting table with this schema and name. -/
def Creates (e : Engine) (sql : String) (table : String × String) : Prop :=
  ∃ columns keys, sql = (Statement.create table.1 table.2 false columns keys).render e

/-- The statement drops the table with this schema and name. -/
def Drops (e : Engine) (sql : String) (table : String × String) : Prop :=
  sql = (Statement.drop table.1 table.2).render e

/-- The tables that a warehouse holds after a statement. -/
def tablesAfter (e : Engine) (tables : Set (String × String)) (sql : String) :
    Set (String × String) :=
  {table | (table ∈ tables ∨ Creates e sql table) ∧ ¬ Drops e sql table}

/-- The tables that a warehouse holds after statements. -/
def held (e : Engine) (initial : Set (String × String)) (statements : List String) :
    Set (String × String) :=
  statements.foldl (tablesAfter e) initial

/-- The rows list the names of the tables in a schema. -/
structure Lists (e : Engine) (tables : Set (String × String)) (schema : String)
    (rows : List Record) : Prop where
  sound : ∀ row ∈ rows, ∃ name, (schema, name) ∈ tables ∧
    row.findAnyCase? (listingField e) = some (.text name)
  complete : ∀ name, (schema, name) ∈ tables →
    ∃ row ∈ rows, row.findAnyCase? (listingField e) = some (.text name)

/-- The backend is a warehouse that holds the tables in `initial` at first. Its other answers are
arbitrary. -/
structure Simulates (b : Backend) (e : Engine) (initial : Set (String × String)) : Prop where
  lists : ∀ earlier schema, ∃ rows,
    b.answer earlier ((CatalogQuery.tables schema).render e) = .ok rows ∧
      Lists e (held e initial earlier) schema rows
  creates : ∀ earlier schema table columns keys,
    (∃ failure, b.answer earlier ((Statement.create schema table false columns keys).render e) =
      .error failure) ↔ (schema, table) ∈ held e initial earlier
  drops : ∀ earlier schema table,
    (∃ failure, b.answer earlier ((Statement.drop schema table).render e) = .error failure) ↔
      (schema, table) ∉ held e initial earlier

/-! ## Tables after statements -/

theorem Statement.eq_of_render_drop_eq {e : Engine} {schema schema' table table' : String}
    (h : (drop schema table).render e = (drop schema' table').render e) :
    schema = schema' ∧ table = table' := by
  obtain ⟨_, hbody⟩ := form_eq_of_render_eq h
  have hend : ([] : List Char).head? ≠ some '"' := by simp
  rw [body, body, ← List.append_nil (quoteQualified schema table).toList,
    ← List.append_nil (quoteQualified schema' table').toList] at hbody
  obtain ⟨hschema, htable, _⟩ := quoteQualified_cancel hend hend hbody
  exact ⟨hschema, htable⟩

section
variable {e : Engine} {table : String × String}

theorem creates_create {schema name : String} {temporary : Bool} {columns : List Column}
    {keys : List String} :
    Creates e ((Statement.create schema name temporary columns keys).render e) table ↔
      temporary = false ∧ table = (schema, name) := by
  constructor
  · rintro ⟨columns', keys', h⟩
    obtain ⟨rfl, hname, hschema⟩ := Statement.names_of_render_eq h
    refine ⟨rfl, Prod.ext ?_ hname.symm⟩
    rcases hschema with hschema | ⟨_, htemporary⟩
    · exact hschema.symm
    · simp at htemporary
  · rintro ⟨rfl, rfl⟩
    exact ⟨columns, keys, rfl⟩

theorem Creates.isCreate {sql : String} (h : Creates e sql table) : IsCreate e sql := by
  obtain ⟨columns, keys, rfl⟩ := h
  exact ⟨_, _, _, _, _, rfl⟩

theorem Drops.isDrop {sql : String} (h : Drops e sql table) : IsDrop e sql := ⟨_, _, h⟩

theorem not_drops_create {schema name : String} {temporary : Bool} {columns : List Column}
    {keys : List String} :
    ¬ Drops e ((Statement.create schema name temporary columns keys).render e) table := by
  intro h
  have hform := (Statement.form_eq_of_render_eq h).1
  simp [Statement.form] at hform

theorem drops_drop {schema name : String} :
    Drops e ((Statement.drop schema name).render e) table ↔ table = (schema, name) := by
  constructor
  · intro h
    obtain ⟨hschema, hname⟩ := Statement.eq_of_render_drop_eq h
    exact Prod.ext hschema.symm hname.symm
  · rintro rfl
    rfl

theorem not_creates_drop {schema name : String} :
    ¬ Creates e ((Statement.drop schema name).render e) table := by
  rintro ⟨columns, keys, h⟩
  have hform := (Statement.form_eq_of_render_eq h).1
  simp [Statement.form] at hform

end

section
variable {e : Engine} {tables : Set (String × String)}

theorem tablesAfter_query (q : CatalogQuery) : tablesAfter e tables (q.render e) = tables := by
  ext table
  have hcreates : ¬ Creates e (q.render e) table := fun h => q.not_isCreate h.isCreate
  have hdrops : ¬ Drops e (q.render e) table := fun h => q.not_isDrop h.isDrop
  simp [tablesAfter, hcreates, hdrops]

theorem tablesAfter_create (schema name : String) (temporary : Bool) (columns : List Column)
    (keys : List String) :
    tablesAfter e tables ((Statement.create schema name temporary columns keys).render e) =
      tables ∪ {table | temporary = false ∧ table = (schema, name)} := by
  ext table
  simp only [tablesAfter, creates_create, not_drops_create, not_false_eq_true, and_true]
  rfl

theorem tablesAfter_drop (schema name : String) :
    tablesAfter e tables ((Statement.drop schema name).render e) = tables \ {(schema, name)} := by
  ext table
  simp only [tablesAfter, not_creates_drop, drops_drop, or_false]
  rfl

end

theorem held_append (e : Engine) (initial : Set (String × String)) (first last : List String) :
    held e initial (first ++ last) = held e (held e initial first) last :=
  List.foldl_append

/-! ## Statements that are not refused -/

/-- No statement creates a table that is held, or drops one that is not. -/
def Unrefused (e : Engine) : Set (String × String) → List String → Prop
  | _, [] => True
  | tables, sql :: rest =>
    (∀ table, Creates e sql table → table ∉ tables) ∧ (∀ table, Drops e sql table → table ∈ tables) ∧
      Unrefused e (tablesAfter e tables sql) rest

section
variable {e : Engine} {tables : Set (String × String)} {first last before next asked : List String}
  {sql : String}

theorem unrefused_append : Unrefused e tables (first ++ last) ↔
    Unrefused e tables first ∧ Unrefused e (held e tables first) last := by
  induction first generalizing tables with
  | nil => simp [Unrefused, held]
  | cons sql first ih =>
    rw [List.cons_append, Unrefused, Unrefused, ih]
    simp only [held, List.foldl_cons, and_assoc]

theorem Unrefused.at (h : Unrefused e tables asked) (hasked : asked = before ++ sql :: next) :
    (∀ table, Creates e sql table → table ∉ held e tables before) ∧
      ∀ table, Drops e sql table → table ∈ held e tables before := by
  rw [hasked, unrefused_append] at h
  exact ⟨h.2.1, h.2.2.1⟩

theorem unrefused_query {q : CatalogQuery} {rest : List String} :
    Unrefused e tables (q.render e :: rest) ↔ Unrefused e tables rest := by
  rw [Unrefused, tablesAfter_query]
  refine ⟨fun h => h.2.2, fun h => ⟨?_, ?_, h⟩⟩
  · intro table hcreates
    exact absurd hcreates.isCreate q.not_isCreate
  · intro table hdrops
    exact absurd hdrops.isDrop q.not_isDrop

theorem held_query {q : CatalogQuery} {rest : List String} :
    held e tables (q.render e :: rest) = held e tables rest := by
  rw [held, List.foldl_cons, tablesAfter_query]
  rfl

theorem unrefused_drop {schema name : String} {rest : List String} (h : (schema, name) ∈ tables)
    (hrest : Unrefused e (tables \ {(schema, name)}) rest) :
    Unrefused e tables ((Statement.drop schema name).render e :: rest) := by
  rw [Unrefused, tablesAfter_drop]
  refine ⟨?_, ?_, hrest⟩
  · intro table hcreates
    exact absurd hcreates not_creates_drop
  · intro table hdrops
    exact drops_drop.mp hdrops ▸ h

theorem held_drop {schema name : String} {rest : List String} :
    held e tables ((Statement.drop schema name).render e :: rest) =
      held e (tables \ {(schema, name)}) rest := by
  rw [held, List.foldl_cons, tablesAfter_drop]
  rfl

theorem unrefused_of_queries (h : ∀ sql ∈ asked, ∃ q : CatalogQuery, sql = q.render e) :
    Unrefused e tables asked ∧ held e tables asked = tables := by
  induction asked with
  | nil => exact ⟨trivial, rfl⟩
  | cons sql asked ih =>
    obtain ⟨q, rfl⟩ := h sql List.mem_cons_self
    rw [unrefused_query, held_query]
    exact ih fun sql hsql => h sql (List.mem_cons_of_mem _ hsql)

end

namespace Plan

/-- The addresses of the lasting ones among tables. -/
def lasting (tables : List Table) : Set (String × String) :=
  {address | ∃ t ∈ tables, t.temporary = false ∧ address = t.address}

variable {p : Plan} {b : Backend} {t : Table} {tables : List Table} {earlier asked : List String}
  {fs after : Files} {r : Except Fault Unit} {initial : Set (String × String)}

theorem lasting_cons (t : Table) (tables : List Table) :
    lasting (t :: tables) = {address | t.temporary = false ∧ address = t.address} ∪ lasting tables := by
  ext address
  simp [lasting]

/-- The names that a listing shows are those of the tables in the schema. -/
theorem exists_listedNames (hb : Simulates b p.engine initial)
    (hbare : ∀ table ∈ held p.engine initial earlier, Bare table.2.toList) :
    ∃ names, b.read earlier (p.listing t) (listedNames p.engine) = .ok names ∧
      ∀ name, name ∈ names ↔ (t.schema, name) ∈ held p.engine initial earlier := by
  obtain ⟨rows, hanswer, hrows⟩ := hb.lists earlier t.schema
  have hname : ∀ row name, (t.schema, name) ∈ held p.engine initial earlier →
      row.findAnyCase? (listingField p.engine) = some (.text name) →
        nameIn (listingField p.engine) row = .ok name := by
    intro row name hheld hrow
    have hget : row.getAnyCase (listingField p.engine) .null = .text name := by
      rw [Record.getAnyCase, hrow, Option.getD_some]
    have htext : Fault.ofText (Value.text name).display = .ok name := rfl
    rw [nameIn, hget, htext, ok_bind, trim_of_bare (hbare _ hheld)]
    rfl
  obtain ⟨names, hnames⟩ := exists_mapM_eq_ok fun row hrow => by
    obtain ⟨name, hheld, hfield⟩ := hrows.sound row hrow
    exact ⟨name, hname row name hheld hfield⟩
  refine ⟨names, (Backend.read_of_answer hanswer _).trans hnames, ?_⟩
  intro name
  constructor
  · intro hmem
    obtain ⟨row, hrow, heq⟩ := exists_of_mem_mapM hnames hmem
    obtain ⟨name', hheld, hfield⟩ := hrows.sound row hrow
    rw [hname row name' hheld hfield] at heq
    obtain rfl := Except.ok.inj heq
    exact hheld
  · intro hheld
    obtain ⟨row, hrow, hfield⟩ := hrows.complete name hheld
    exact mem_of_mapM hnames hrow (hname row name hheld hfield)

theorem Creation.unrefused (h : Creation p b t earlier fs asked r after)
    (held₀ : Set (String × String)) (hnew : t.temporary = false → t.address ∉ held₀) :
    Unrefused p.engine held₀ asked ∧ held p.engine held₀ asked =
      held₀ ∪ {address | t.temporary = false ∧ address = t.address} := by
  obtain ⟨more, rfl, hmore⟩ := h.exists_queries
  have hafter : tablesAfter p.engine held₀ (p.creating t) =
      held₀ ∪ {address | t.temporary = false ∧ address = t.address} := tablesAfter_create _ _ _ _ _
  obtain ⟨hunrefused, hheld⟩ : Unrefused p.engine (tablesAfter p.engine held₀ (p.creating t)) more ∧
    held p.engine (tablesAfter p.engine held₀ (p.creating t)) more =
      tablesAfter p.engine held₀ (p.creating t) := unrefused_of_queries hmore
  refine ⟨⟨?_, ?_, hunrefused⟩, hheld.trans hafter⟩
  · intro table hcreates
    obtain ⟨hlasting, rfl⟩ := creates_create.mp hcreates
    exact hnew hlasting
  · intro table hdrops
    exact absurd hdrops not_drops_create

theorem Block.unrefused (h : Block p b t earlier fs asked r after)
    (hb : Simulates b p.engine initial)
    (hbare : ∀ table ∈ held p.engine initial earlier, Bare table.2.toList) :
    Unrefused p.engine (held p.engine initial earlier) asked ∧
      (r = .ok () → held p.engine (held p.engine initial earlier) asked =
        held p.engine initial earlier ∪ {address | t.temporary = false ∧ address = t.address}) := by
  obtain ⟨names, hnames, hlisted⟩ := exists_listedNames (t := t) hb hbare
  have hmem : ∀ {names'}, b.read earlier (p.listing t) (listedNames p.engine) = .ok names' →
      (t.name ∈ names' ↔ t.address ∈ held p.engine initial earlier) := by
    intro names' h
    rw [hnames] at h
    obtain rfl := Except.ok.inj h
    exact hlisted t.name
  generalize held p.engine initial earlier = tables at hmem ⊢
  have hlisting : ∀ {rest}, Unrefused p.engine tables rest →
      Unrefused p.engine tables (p.listing t :: rest) := unrefused_query.mpr
  have hlisted : ∀ {rest}, held p.engine tables (p.listing t :: rest) =
      held p.engine tables rest := held_query
  -- What the listing shows decides about the statements behind it.
  cases h with
  | temporary htemporary hcreation =>
    obtain ⟨hunrefused, hheld⟩ := hcreation.unrefused tables (by simp [htemporary])
    exact ⟨hunrefused, fun _ => hheld⟩
  | unlisted => exact ⟨hlisting trivial, by simp⟩
  | skipped _ hnames hpresent _ =>
    have hthere : t.address ∈ tables := (hmem hnames).mp hpresent
    refine ⟨hlisting trivial, fun _ => ?_⟩
    rw [hlisted, eq_comm, held, List.foldl_nil, Set.union_eq_left]
    rintro address ⟨_, rfl⟩
    exact hthere
  | undropped _ hnames hpresent _ _ =>
    have hthere : t.address ∈ tables := (hmem hnames).mp hpresent
    exact ⟨hlisting (unrefused_drop hthere trivial), by simp⟩
  | replaced hlasting hnames hpresent _ _ hcreation =>
    have hthere : t.address ∈ tables := (hmem hnames).mp hpresent
    obtain ⟨hunrefused, hheld⟩ := hcreation.unrefused (tables \ {t.address}) (by simp)
    refine ⟨hlisting (unrefused_drop hthere hunrefused), fun _ => ?_⟩
    rw [hlisted]
    refine (held_drop.trans hheld).trans ?_
    ext address
    by_cases haddress : address = t.address <;> simp [haddress, hlasting, hthere]
  | new _ hnames habsent hcreation =>
    have hnew : t.address ∉ tables := fun hthere => habsent ((hmem hnames).mpr hthere)
    obtain ⟨hunrefused, hheld⟩ := hcreation.unrefused tables fun _ => hnew
    exact ⟨hlisting hunrefused, fun _ => hlisted.trans hheld⟩

theorem Block.bare_held (h : Block p b t earlier fs asked (.ok ()) after)
    (hb : Simulates b p.engine initial)
    (hbare : ∀ table ∈ held p.engine initial earlier, Bare table.2.toList)
    (ht : Bare t.name.toList) :
    ∀ table ∈ held p.engine initial (earlier ++ asked), Bare table.2.toList := by
  intro table hmem
  rw [held_append, (h.unrefused hb hbare).2 rfl] at hmem
  rcases hmem with hmem | ⟨_, rfl⟩
  · exact hbare table hmem
  · exact ht

/-- A run over a warehouse is not refused a CREATE or DROP, and adds the lasting tables. -/
theorem Course.unrefused (h : Course p b earlier fs tables asked r after)
    (hb : Simulates b p.engine initial) (htables : ∀ t ∈ tables, Bare t.name.toList)
    (hbare : ∀ table ∈ held p.engine initial earlier, Bare table.2.toList) :
    Unrefused p.engine (held p.engine initial earlier) asked ∧
      (r = .ok () → held p.engine initial (earlier ++ asked) =
        held p.engine initial earlier ∪ lasting tables) := by
  induction h with
  | done =>
    refine ⟨trivial, fun _ => ?_⟩
    rw [List.append_nil]
    simp [lasting]
  | cut hblock => exact ⟨(hblock.unrefused hb hbare).1, by simp⟩
  | next hblock _ ih =>
    rename_i earlier asked more _ _ _ t rest r _
    obtain ⟨hfirst, hheld⟩ := hblock.unrefused hb hbare
    have hheld := hheld rfl
    rw [← held_append] at hheld
    obtain ⟨hrest, hlast⟩ := ih (fun u hu => htables u (List.mem_cons_of_mem _ hu))
      (hblock.bare_held hb hbare (htables t List.mem_cons_self))
    refine ⟨unrefused_append.mpr ⟨hfirst, ?_⟩, fun hr => ?_⟩
    · rw [← held_append]
      exact hrest
    · rw [← List.append_assoc, hlast hr, hheld, lasting_cons, Set.union_assoc]

/-! ## Runs that end without a fault -/

theorem Block.eq_ok (h : Block p b t earlier fs asked r after) (hb : Simulates b p.engine initial)
    (hbare : ∀ table ∈ held p.engine initial earlier, Bare table.2.toList)
    (hlasting : t.temporary = false) (hunset : p.exportFolder.isTruthy = false)
    (hoff : p.verifies = false) : r = .ok () := by
  obtain ⟨names, hnames, _⟩ := exists_listedNames (t := t) hb hbare
  obtain ⟨hunrefused, _⟩ := h.unrefused hb hbare
  have hcreation : ∀ front more, asked = front ++ more →
      Creation p b t (earlier ++ front) fs more r after → r = .ok () := by
    intro front more hasked hmade
    cases hmade with
    | refused hanswer =>
      have hnew := (hunrefused.at hasked).1 t.address (creates_create.mpr ⟨hlasting, rfl⟩)
      have hthere := (hb.creates _ t.schema t.name t.columns.toList t.keys).mp
        ⟨_, by rw [← hlasting]; exact hanswer⟩
      rw [held_append] at hthere
      exact absurd hthere hnew
    | unexported _ hexported => simp [exported, hunset] at hexported
    | unverified => rfl
    | verified _ _ hverifies => simp [hoff] at hverifies
  cases h with
  | temporary htemporary => simp [hlasting] at htemporary
  | unlisted _ hunlisted => simp [hnames] at hunlisted
  | skipped => rfl
  | undropped _ _ _ _ hanswer =>
    have hasked : [p.listing t, p.dropping t] = [p.listing t] ++ p.dropping t :: [] := rfl
    have hthere := (hunrefused.at hasked).2 t.address (drops_drop.mpr rfl)
    have habsent := (hb.drops _ t.schema t.name).mp ⟨_, hanswer⟩
    rw [held_append] at habsent
    exact absurd hthere habsent
  | replaced _ _ _ _ _ hmade => exact hcreation [p.listing t, p.dropping t] _ rfl hmade
  | new _ _ _ hmade => exact hcreation [p.listing t] _ rfl hmade

/-- A run over a warehouse that neither exports nor verifies tables ends without a fault, if they all are
lasting ones. -/
theorem Course.eq_ok (h : Course p b earlier fs tables asked r after)
    (hb : Simulates b p.engine initial) (htables : ∀ t ∈ tables, Bare t.name.toList)
    (hbare : ∀ table ∈ held p.engine initial earlier, Bare table.2.toList)
    (hlasting : ∀ t ∈ tables, t.temporary = false) (hunset : p.exportFolder.isTruthy = false)
    (hoff : p.verifies = false) : r = .ok () := by
  induction h with
  | done => rfl
  | cut hblock => exact hblock.eq_ok hb hbare (hlasting _ List.mem_cons_self) hunset hoff
  | next hblock _ ih =>
    refine ih (fun u hu => htables u (List.mem_cons_of_mem _ hu)) ?_
      fun u hu => hlasting u (List.mem_cons_of_mem _ hu)
    exact hblock.bare_held hb hbare (htables _ List.mem_cons_self)

end Plan

end WarehouseSchema
