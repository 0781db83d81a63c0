import Mathlib.Data.Set.Finite.Basic
import WarehouseSchema.Proofs.Reflection.Question
import WarehouseSchema.Proofs.Run.Configured
import WarehouseSchema.Proofs.Run.Warehouse
import WarehouseSchema.Proofs.Session.Writeless

/-!
Runs that are repeated. A run that keeps the tables that are there only lists tables when all of them are.
Main statement: over a warehouse that keeps tables, a run is refused no CREATE and no DROP, it adds the
lasting tables of its plan, and the same run once more changes nothing.
-/

namespace WarehouseSchema

open Text Reflection Session

namespace Plan

variable {p : Plan} {b : Backend} {t : Table} {tables : List Table} {earlier asked : List String}
  {fs after : Files} {r : Except Fault Unit} {initial : Set (String × String)}

def keeping (p : Plan) : Plan := { p with replaces := false }

theorem writeless_isPresent (p : Plan) (t : Table) : Writeless (p.isPresent t) := by
  unfold isPresent
  split
  · exact writeless_pure false
  · have hnames : Writeless (Schema.tableNames ⟨p.engine, t.schema⟩) :=
      (writeless_ask _).bind fun _ => writeless_ofExcept _
    exact hnames.bind fun _ => writeless_pure _

/-- A lasting table that is there is listed and kept. -/
theorem browses_make (hb : Simulates b p.engine initial)
    (hbare : ∀ table ∈ held p.engine initial earlier, Bare table.2.toList)
    (hkeeps : p.replaces = false) (hlasting : t.temporary = false)
    (hthere : t.address ∈ held p.engine initial earlier) :
    Browses (p.make t) b earlier fs [p.listing t] (.ok ()) := by
  obtain ⟨names, hnames, hlisted⟩ := exists_listedNames (t := t) hb hbare
  have hcontains : names.contains t.name = true := by simpa using (hlisted t.name).mpr hthere
  have hasks : Asks ((Schema.mk p.engine t.schema).hasTables [t.name]) b earlier fs [p.listing t]
      ((b.read earlier (p.listing t) (listedNames p.engine)).map (·.contains t.name)) fs :=
    Schema.asks_hasTable _ _
  rw [hnames, Except.map, hcontains] at hasks
  have hpresent : Browses (p.isPresent t) b earlier fs [p.listing t] (.ok true) := by
    refine Asks.browses ?_ (p.writeless_isPresent t)
    rw [isPresent, hlasting]
    exact hasks
  unfold make
  refine hpresent.then_quiet ?_
  rw [hkeeps]
  exact (asks_report _).browses (writeless_note _ _ _)

theorem browses_makeAll (hb : Simulates b p.engine initial)
    (hbare : ∀ table ∈ held p.engine initial earlier, Bare table.2.toList)
    (hkeeps : p.replaces = false) (hlasting : ∀ t ∈ tables, t.temporary = false)
    (hthere : ∀ t ∈ tables, t.address ∈ held p.engine initial earlier) :
    Browses (p.makeAll tables) b earlier fs (tables.map p.listing) (.ok ()) ∧
      held p.engine initial (earlier ++ tables.map p.listing) = held p.engine initial earlier := by
  induction tables generalizing earlier with
  | nil =>
    refine ⟨(asks_pure ()).browses (writeless_pure ()), ?_⟩
    rw [List.map_nil, List.append_nil]
  | cons t tables ih =>
    have hfirst : Browses (p.make t) b earlier fs [p.listing t] (.ok ()) :=
      browses_make hb hbare hkeeps (hlasting t List.mem_cons_self) (hthere t List.mem_cons_self)
    -- The listing leaves the tables as they are, so that the next one finds what this one found.
    have hheld : held p.engine initial (earlier ++ [p.listing t]) = held p.engine initial earlier := by
      rw [held_append]
      exact held_query
    obtain ⟨hrest, hafter⟩ := @ih (earlier ++ [p.listing t]) (by rw [hheld]; exact hbare)
      (fun u hu => hlasting u (List.mem_cons_of_mem _ hu))
      (fun u hu => by rw [hheld]; exact hthere u (List.mem_cons_of_mem _ hu))
    refine ⟨hfirst.bind hrest, ?_⟩
    rw [List.map_cons, ← List.singleton_append, ← List.append_assoc, hafter, hheld]

end Plan

namespace Configuration

variable {env : Environment} {path : Path} {b : Backend} {j : Journal} {c : Configuration} {p : Plan}

/-- What is carried out of a configuration that loads shows in the whole run. -/
theorem browses_runAt (hload : ((load env path variablesPath).run b j).1 = .ok c)
    (hplan : c.plan j.files = .ok p) {asked : List String} {r : Except Fault Unit}
    (h : Browses (Session.ofExcept (c.settings.checkCredentials p.engine) >>= fun _ => p.run) b
      j.statements j.files asked r) :
    Browses (runAt env path) b j.statements j.files asked r := by
  have hloading := noting_load env path variablesPath
  have hloaded : Browses (load env path variablesPath) b j.statements j.files [] (.ok c) :=
    (hloading.quiet.asks_of_run hload).browses hloading.writeless
  refine hloaded.after_quiet ((asks_files.browses writeless_files).after_quiet ?_)
  rw [hplan]
  exact ((asks_ofExcept _).browses (writeless_ofExcept _)).after_quiet h

/-- A run whose tables are all there lists them and does nothing else. -/
theorem browses_of_held (hload : ((load env path variablesPath).run b j).1 = .ok c)
    (hplan : c.plan j.files = .ok p.keeping) {initial : Set (String × String)}
    (hb : Simulates b p.engine initial)
    (hbare : ∀ table ∈ held p.engine initial j.statements, Bare table.2.toList)
    (hlasting : ∀ t ∈ p.tables, t.temporary = false)
    (hthere : ∀ t ∈ p.tables, t.address ∈ held p.engine initial j.statements) :
    ∃ asked, Browses (runAt env path) b j.statements j.files asked
        (c.settings.checkCredentials p.engine) ∧
      (∀ sql ∈ asked, ∃ t ∈ p.tables, sql = p.listing t) ∧
      held p.engine initial (j.statements ++ asked) = held p.engine initial j.statements := by
  cases hcredentials : c.settings.checkCredentials p.engine with
  | error fault =>
    have hstopped : Browses (Session.ofExcept (c.settings.checkCredentials p.keeping.engine) >>=
        fun _ => p.keeping.run) b j.statements j.files [] (.error fault) := by
      have hengine : c.settings.checkCredentials p.keeping.engine = .error fault := hcredentials
      rw [hengine]
      exact Asks.browses (asks_ofExcept _).bind_error (writeless_error _ _)
    refine ⟨[], browses_runAt hload hplan hstopped, by simp, ?_⟩
    rw [List.append_nil]
  | ok u =>
    obtain ⟨hlisting, hheld⟩ := @Plan.browses_makeAll p.keeping b p.tables j.statements j.files
      initial hb hbare rfl hlasting hthere
    have hrun : Browses (Session.ofExcept (c.settings.checkCredentials p.keeping.engine) >>=
        fun _ => p.keeping.run) b j.statements j.files (p.tables.map p.listing) (.ok ()) := by
      have hengine : c.settings.checkCredentials p.keeping.engine = .ok () := hcredentials
      rw [hengine]
      exact ((asks_ofExcept _).browses (writeless_ofExcept _)).after_quiet hlisting.connected
    refine ⟨_, browses_runAt hload hplan hrun, ?_, hheld⟩
    intro sql hsql
    obtain ⟨t, ht, rfl⟩ := List.mem_map.mp hsql
    exact ⟨t, ht, rfl⟩

/-- Over a warehouse that keeps tables, a run is never refused a CREATE of a lasting table, because the
warehouse holds it, or a DROP, because it does not. A run without a fault adds the lasting tables of the
plan. If there are no others, the run that keeps tables then asks for listings and nothing else, and
writes nothing. -/
theorem runAt_over_warehouse (hload : ((load env path variablesPath).run b j).1 = .ok c)
    (hplan : c.plan j.files = .ok p) {initial : Set (String × String)}
    (hb : Simulates b p.engine initial) (htables : ∀ t ∈ p.tables, Bare t.name.toList)
    (hbare : ∀ table ∈ held p.engine initial j.statements, Bare table.2.toList) :
    ∃ asked, ((runAt env path).run b j).2.statements = j.statements ++ asked ∧
      (∀ before sql next, asked = before ++ sql :: next →
        (∀ table, Creates p.engine sql table →
          table ∉ held p.engine initial (j.statements ++ before)) ∧
        ∀ table, Drops p.engine sql table →
          table ∈ held p.engine initial (j.statements ++ before)) ∧
      (((runAt env path).run b j).1 = .ok () →
        held p.engine initial (j.statements ++ asked) =
          held p.engine initial j.statements ∪ Plan.lasting p.tables ∧
        ((∀ t ∈ p.tables, t.temporary = false) → ∀ env' path' j' c',
          j'.statements = j.statements ++ asked →
          ((load env' path' variablesPath).run b j').1 = .ok c' →
          c'.plan j'.files = .ok p.keeping →
          ∃ again j'', (runAt env' path').run b j' = (c'.settings.checkCredentials p.engine, j'') ∧
            j''.statements = j'.statements ++ again ∧
            (∀ sql ∈ again, ∃ t ∈ p.tables, sql = p.listing t) ∧
            held p.engine initial j''.statements = held p.engine initial j'.statements ∧
            j''.files = j'.files ∧ j''.writes = j'.writes)) := by
  obtain ⟨asked, hasked, hcourse⟩ := exists_course hload hplan
  refine ⟨asked, hasked, ?_⟩
  rcases hcourse with ⟨fault, _, hfault, rfl⟩ | ⟨_, hcourse⟩
  · refine ⟨?_, ?_⟩
    · intro before sql next h
      exact absurd h (by simp)
    · intro hr
      rw [hfault] at hr
      exact absurd hr (by simp)
  · obtain ⟨hunrefused, hheld⟩ := hcourse.unrefused hb htables hbare
    refine ⟨?_, ?_⟩
    · intro before sql next h
      rw [held_append]
      exact hunrefused.at h
    · intro hr
      have hheld := hheld hr
      refine ⟨hheld, ?_⟩
      intro hlasting env' path' j' c' hj' hload' hplan'
      have hbare' : ∀ table ∈ held p.engine initial j'.statements, Bare table.2.toList := by
        rw [hj', hheld]
        rintro table (hmem | ⟨t, ht, _, rfl⟩)
        · exact hbare table hmem
        · exact htables t ht
      have hthere : ∀ t ∈ p.tables, t.address ∈ held p.engine initial j'.statements := by
        intro t ht
        rw [hj', hheld]
        exact Or.inr ⟨t, ht, hlasting t ht, rfl⟩
      obtain ⟨again, hbrowses, hlistings, hsame⟩ :=
        browses_of_held hload' hplan' hb hbare' hlasting hthere
      obtain ⟨j'', hrun, hstatements, hfiles, hwrites⟩ := hbrowses j' rfl rfl
      refine ⟨again, j'', hrun, hstatements, hlistings, ?_, hfiles, hwrites⟩
      rw [hstatements, hsame]

end Configuration

/-! ## A warehouse that keeps tables -/

theorem finite_held {e : Engine} {initial : Set (String × String)} (h : initial.Finite)
    (statements : List String) : (held e initial statements).Finite := by
  induction statements generalizing initial with
  | nil => exact h
  | cons sql statements ih =>
    refine ih ?_
    have hcreated : {table | Creates e sql table}.Subsingleton := by
      rintro table ⟨columns, keys, rfl⟩ table' htable'
      exact (creates_create.mp htable').2.symm
    refine (h.union hcreated.finite).subset ?_
    rintro table ⟨hmem, _⟩
    exact hmem

theorem exists_lists (e : Engine) {tables : Set (String × String)} (h : tables.Finite)
    (schema : String) : ∃ rows, Lists e tables schema rows := by
  classical
  refine ⟨(h.toFinset.toList.filter fun table => table.1 = schema).map fun table =>
    [(listingField e, .text table.2)], ?_, ?_⟩
  · intro row hrow
    obtain ⟨table, htable, rfl⟩ := List.mem_map.mp hrow
    simp only [List.mem_filter, Finset.mem_toList, Set.Finite.mem_toFinset, decide_eq_true_eq]
      at htable
    obtain ⟨hmem, rfl⟩ := htable
    refine ⟨table.2, hmem, ?_⟩
    simp [Record.findAnyCase?, Record.find?]
  · intro name hmem
    refine ⟨[(listingField e, .text name)], List.mem_map.mpr ⟨(schema, name), ?_, rfl⟩, ?_⟩
    · simp [hmem]
    · simp [Record.findAnyCase?, Record.find?]

def refusal : QueryFailure := ⟨"refused", none, none⟩

/-- A warehouse that holds some tables refuses a statement that creates one of them, and one that drops
another. -/
def Refused (e : Engine) (tables : Set (String × String)) (sql : String) : Prop :=
  (∃ table ∈ tables, Creates e sql table) ∨ ∃ table ∉ tables, Drops e sql table

open Classical in
/-- A warehouse that keeps tables, those in `initial` at first, and answers other questions with no
rows. -/
noncomputable def keeper (e : Engine) (initial : Set (String × String)) : Backend where
  answer earlier sql :=
    if Refused e (held e initial earlier) sql then .error refusal
    else if h : ∃ rows schema, sql = (CatalogQuery.tables schema).render e ∧
        Lists e (held e initial earlier) schema rows then .ok h.choose
    else .ok []

theorem answer_keeper_eq_error_iff {e : Engine} {initial : Set (String × String)}
    {earlier : List String} {sql : String} :
    (∃ failure, (keeper e initial).answer earlier sql = .error failure) ↔
      Refused e (held e initial earlier) sql := by
  simp only [keeper]
  split
  · rename_i hrefused
    simp [hrefused]
  · rename_i haccepted
    split <;> simp [haccepted]

theorem simulates_keeper (e : Engine) {initial : Set (String × String)} (h : initial.Finite) :
    Simulates (keeper e initial) e initial := by
  refine ⟨?_, ?_, ?_⟩
  · intro earlier schema
    obtain ⟨rows, hrows⟩ := exists_lists e (finite_held h earlier) schema
    have hlist : ∃ rows schema', (CatalogQuery.tables schema).render e =
        (CatalogQuery.tables schema').render e ∧ Lists e (held e initial earlier) schema' rows :=
      ⟨rows, schema, rfl, hrows⟩
    refine ⟨hlist.choose, ?_, ?_⟩
    · simp only [keeper]
      rw [if_neg, dif_pos hlist]
      rintro (⟨table, _, hcreates⟩ | ⟨table, _, hdrops⟩)
      · exact CatalogQuery.not_isCreate _ hcreates.isCreate
      · exact CatalogQuery.not_isDrop _ hdrops.isDrop
    · obtain ⟨schema', heq, hlists⟩ := hlist.choose_spec
      rwa [← CatalogQuery.render_tables_injective e heq] at hlists
  · intro earlier schema table columns keys
    rw [answer_keeper_eq_error_iff]
    simp [Refused, creates_create, not_drops_create]
  · intro earlier schema table
    rw [answer_keeper_eq_error_iff]
    simp [Refused, not_creates_drop, drops_drop]

namespace Configuration

def twiceDocument (replaces : Bool) : Plain :=
  .map [("engine", .text "redshift"), ("replace_existing", .bool replaces), ("verify", .bool false),
    ("tables", .list (["sales", "sales"].map fun schema =>
      .map [("schema_name", .text schema), ("table_name", .text "orders"),
        ("columns", .list [.map [("name", .text "id"), ("type", .text "INT")]])]))]

def twiceFiles (replaces : Bool) : Files := documentFiles (twiceDocument replaces)

def twice (replaces : Bool) : Configuration :=
  { ordersConfiguration with document := (twiceDocument replaces).toValue }

def twicePlan : Plan := ⟨.redshift, [orders, orders], true, false, .null⟩

theorem plan_twice : (twice true).plan (twiceFiles true) = .ok twicePlan := rfl

theorem plan_twice_keeping : (twice false).plan (twiceFiles false) = .ok twicePlan.keeping := rfl

theorem read_twiceDocument (replaces : Bool) :
    Yaml.read (Yaml.write (twiceDocument replaces)) = .ok (twiceDocument replaces).toValue := by
  cases replaces with
  | true => exact Yaml.read_of_node rfl (by decide +kernel) (by decide +kernel)
  | false => exact Yaml.read_of_node rfl (by decide +kernel) (by decide +kernel)

theorem load_twice (replaces : Bool) (b : Backend) (events : List Event) :
    ((load ordersEnvironment ordersPath variablesPath).run b ⟨events, twiceFiles replaces⟩).1 =
      .ok (twice replaces) :=
  load_documentFiles (read_twiceDocument replaces) rfl b events

theorem bare_orders : ∀ t ∈ twicePlan.tables, Bare t.name.toList := by
  intro t ht
  have ht : t = orders := by simpa [twicePlan] using ht
  rw [ht]
  exact bare_of_forall (by simp [orders]; decide)

theorem run_twice {b : Backend} {initial : Set (String × String)} (hb : Simulates b .redshift initial)
    (hbare : ∀ table ∈ initial, Bare table.2.toList) :
    ((runAt ordersEnvironment ordersPath).run b (Journal.start (twiceFiles true))).1 = .ok () := by
  obtain ⟨asked, _, hcourse⟩ := exists_course_of_credentials (load_twice true b []) plan_twice rfl
  exact hcourse.eq_ok hb bare_orders hbare (by simp [twicePlan, orders]) rfl rfl

/-- A table that is there and asked for twice is replaced twice, and then left alone. -/
theorem runAt_orders_twice :
    ∃ first last, (runAt ordersEnvironment ordersPath).run (keeper .redshift {("sales", "orders")})
        (Journal.start (twiceFiles true)) = (.ok (), first) ∧
      held .redshift {("sales", "orders")} first.statements =
        {("sales", "orders")} ∪ Plan.lasting [orders, orders] ∧
      (runAt ordersEnvironment ordersPath).run (keeper .redshift {("sales", "orders")})
        ⟨first.events, twiceFiles false⟩ = (.ok (), last) ∧
      held .redshift {("sales", "orders")} last.statements =
        held .redshift {("sales", "orders")} first.statements ∧
      last.writes = first.writes := by
  have hb : Simulates (keeper .redshift {("sales", "orders")}) .redshift {("sales", "orders")} :=
    simulates_keeper .redshift (Set.finite_singleton _)
  have hbare : ∀ table ∈ ({("sales", "orders")} : Set (String × String)), Bare table.2.toList := by
    rintro table rfl
    exact bare_of_forall (by simp; decide)
  have hrun := run_twice hb hbare
  have hload : ((load ordersEnvironment ordersPath variablesPath).run
      (keeper .redshift {("sales", "orders")}) (Journal.start (twiceFiles true))).1 =
        .ok (twice true) := load_twice true _ []
  obtain ⟨asked, hasked, _, hlast⟩ := runAt_over_warehouse hload plan_twice hb bare_orders hbare
  obtain ⟨hheld, hagain⟩ := hlast hrun
  rcases hfirst : (runAt ordersEnvironment ordersPath).run (keeper .redshift {("sales", "orders")})
    (Journal.start (twiceFiles true)) with ⟨r, first⟩
  rw [hfirst] at hrun hasked
  obtain ⟨again, last, hlast, _, _, hsame, _, hwrites⟩ :=
    hagain (by simp [twicePlan, orders]) ordersEnvironment ordersPath
      ⟨first.events, twiceFiles false⟩ (twice false) hasked (load_twice false _ first.events)
      plan_twice_keeping
  refine ⟨first, last, ?_, ?_, hlast, hsame, hwrites⟩
  · rw [← hrun]
  · rw [hasked]
    exact hheld

end Configuration

end WarehouseSchema
