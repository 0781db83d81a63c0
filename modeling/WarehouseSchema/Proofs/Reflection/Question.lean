import WarehouseSchema.Proofs.Session
import WarehouseSchema.Proofs.Text.Quoted
import WarehouseSchema.Reflection.Schema
import WarehouseSchema.Reflection.Table

/-!
Questions to a catalog are determined by their texts. Questions about different things begin with different
words, but for the tables and views of Redshift, and names stand between quotes. Main statement: two questions
to a warehouse have the same text only when they ask for the same and hold the same names.
-/

namespace WarehouseSchema

open Text

namespace CatalogQuery

/-- What a question is about, without the names in it. -/
inductive Topic where
  | schema
  | tables
  | views
  | columns
  | keys
  | rowCount
  | temporary
  deriving DecidableEq

def topic : CatalogQuery → Topic
  | schema _ => .schema
  | tables _ => .tables
  | views _ => .views
  | columns _ _ => .columns
  | keys _ _ => .keys
  | rowCount _ _ => .rowCount
  | temporary _ _ => .temporary

/-- The names that a warehouse is given with a question. Teradata lists all temporary tables, and Redshift those
of the session. -/
def names (e : Engine) : CatalogQuery → List String
  | schema s | tables s | views s => [s]
  | columns s t | keys s t | rowCount s t => [s, t]
  | temporary s t =>
    match e with
    | .redshift => [t]
    | .snowflake => [s, t]
    | .teradata => []

namespace Topic

def all : List Topic := [schema, tables, views, columns, keys, rowCount, temporary]

theorem mem_all (t : Topic) : t ∈ all := by cases t <;> decide

/-- Words with which questions about a topic begin. -/
def opening (e : Engine) : Topic → String
  | schema =>
    match e with
    | .redshift => "SELECT nspname"
    | .snowflake => "DESC SCHEMA"
    | .teradata => "HELP DATABASE"
  | tables =>
    match e with
    | .redshift => "SELECT table_name"
    | .snowflake => "SHOW TABLES IN"
    | .teradata => "SELECT TableName FROM DBC.TablesV WHERE TableKind IN ('T'"
  | views =>
    match e with
    | .redshift => "SELECT table_name"
    | .snowflake => "SHOW VIEWS"
    | .teradata => "SELECT TableName FROM DBC.TablesV WHERE TableKind IN ('V'"
  | columns =>
    match e with
    | .redshift => "SELECT c."
    | .snowflake => "DESC TABLE"
    | .teradata => "SELECT ColumnName,"
  | keys =>
    match e with
    | .redshift => "SELECT kcu."
    | .snowflake => "SHOW PRIMARY KEYS"
    | .teradata => "SELECT ColumnName FROM"
  | rowCount => "SELECT COUNT"
  | temporary =>
    match e with
    | .redshift => "SELECT n."
    | .snowflake => "SHOW TABLES LIKE"
    | .teradata => "HELP VOLATILE TABLE"

theorem eq_of_opening_prefix {e : Engine} {t u : Topic}
    (h : (t.opening e).toList <+: (u.opening e).toList) :
    t = u ∨ e = .redshift ∧ t ∈ [tables, views] ∧ u ∈ [tables, views] := by
  have hall : ∀ e ∈ Engine.all, ∀ t ∈ all, ∀ u ∈ all,
      (t.opening e).toList <+: (u.opening e).toList →
        t = u ∨ e = .redshift ∧ t ∈ [tables, views] ∧ u ∈ [tables, views] := by
    decide +kernel
  exact hall e (Engine.mem_all e) t t.mem_all u u.mem_all h

end Topic

theorem opening_prefix_render (e : Engine) (q : CatalogQuery) :
    (q.topic.opening e).toList <+: (q.render e).toList := by
  unfold topic Topic.opening render redshiftTables teradataTables
  cases q with
  | tables s | views s =>
    cases e with
    | redshift | snowflake =>
      simp only [String.toList_append, List.append_assoc]
      exact List.prefix_append_of_prefix (by decide +kernel)
    | teradata =>
      -- The opening ends among the kinds of tables.
      simp only [String.toList_append]
      rw [List.append_assoc]
      exact List.prefix_append_of_prefix (by decide +kernel)
  | temporary s t =>
    cases e with
    | redshift | snowflake =>
      simp only [String.toList_append, List.append_assoc]
      exact List.prefix_append_of_prefix (by decide +kernel)
    | teradata => exact List.prefix_rfl
  | schema s | columns s t | keys s t | rowCount s t =>
    cases e
    all_goals
      simp only [String.toList_append, List.append_assoc]
      exact List.prefix_append_of_prefix (by decide +kernel)

/-- Two literals in a text are determined by it, when what stands between them begins with a blank. -/
theorem literals_cancel {lead between tail s s' t t' : String}
    (hbetween : between.toList.head? = some ' ')
    (h : lead ++ quoteLiteral s ++ between ++ quoteLiteral t ++ tail =
      lead ++ quoteLiteral s' ++ between ++ quoteLiteral t' ++ tail) : s = s' ∧ t = t' := by
  have hblank : ∀ x : String, (between ++ x).toList.head? ≠ some '\'' := by
    intro x
    rw [String.toList_append, List.head?_append, hbetween]
    simp
  have hheld := (String.append_left_inj tail).mp h
  rw [String.append_assoc, String.append_assoc, String.append_assoc, String.append_assoc] at hheld
  have hquoted := (String.append_right_inj lead).mp hheld
  obtain ⟨hs, hrest⟩ := quoteIdentifierWith_cancel rfl (hblank _) (hblank _) hquoted
  exact ⟨hs, quoteLiteral_injective ((String.append_right_inj between).mp hrest)⟩

theorem redshiftTables_injective : Function.Injective2 redshiftTables :=
  fun _ _ _ _ h => literals_cancel rfl h

/-- The texts of questions about different things differ. -/
theorem topic_eq_of_render_eq {e : Engine} {q q' : CatalogQuery} (h : q.render e = q'.render e) :
    q.topic = q'.topic := by
  have hsame : q.topic = q'.topic ∨ e = .redshift ∧ q.topic ∈ [Topic.tables, .views] ∧
      q'.topic ∈ [Topic.tables, .views] := by
    have hopening := q.opening_prefix_render e
    rw [h] at hopening
    rcases List.prefix_or_prefix_of_prefix hopening (q'.opening_prefix_render e) with hle | hle
    · exact Topic.eq_of_opening_prefix hle
    · rcases Topic.eq_of_opening_prefix hle with heq | ⟨he, hq', hq⟩
      · exact Or.inl heq.symm
      · exact Or.inr ⟨he, hq, hq'⟩
  rcases hsame with hsame | ⟨rfl, hq, hq'⟩
  · exact hsame
  -- Tables and views of Redshift are told apart behind the name of the schema.
  · cases q with
    | tables s =>
      cases q' with
      | tables s' => rfl
      | views s' => exact absurd (redshiftTables_injective h).2 (by decide)
      | _ => simp [topic] at hq'
    | views s =>
      cases q' with
      | views s' => rfl
      | tables s' => exact absurd (redshiftTables_injective h).2 (by decide)
      | _ => simp [topic] at hq'
    | _ => simp [topic] at hq

section
variable (e : Engine)

theorem render_schema_injective : Function.Injective fun s => (schema s).render e := by
  intro s s' h
  cases e with
  | redshift => exact quoteLiteral_injective ((String.append_right_inj _).mp h)
  | snowflake | teradata => exact quoteIdentifier_injective ((String.append_right_inj _).mp h)

theorem render_tables_injective : Function.Injective fun s => (tables s).render e := by
  intro s s' h
  cases e with
  | redshift => exact (redshiftTables_injective h).1
  | snowflake => exact quoteIdentifier_injective ((String.append_right_inj _).mp h)
  | teradata => exact quoteLiteral_injective ((String.append_right_inj _).mp h)

theorem render_views_injective : Function.Injective fun s => (views s).render e := by
  intro s s' h
  cases e with
  | redshift => exact (redshiftTables_injective h).1
  | snowflake => exact quoteIdentifier_injective ((String.append_right_inj _).mp h)
  | teradata => exact quoteLiteral_injective ((String.append_right_inj _).mp h)

theorem render_columns_injective : Function.Injective2 fun s t => (columns s t).render e := by
  intro s s' t t' h
  cases e with
  | redshift | teradata => exact literals_cancel rfl h
  | snowflake => exact quoteQualified_injective ((String.append_right_inj _).mp h)

theorem render_keys_injective : Function.Injective2 fun s t => (keys s t).render e := by
  intro s s' t t' h
  cases e with
  | redshift | teradata => exact literals_cancel rfl h
  | snowflake => exact quoteQualified_injective ((String.append_right_inj _).mp h)

theorem render_rowCount_injective : Function.Injective2 fun s t => (rowCount s t).render e :=
  fun _ _ _ _ h => quoteQualified_injective ((String.append_right_inj _).mp h)

theorem render_temporary_eq_iff {s s' t t' : String} :
    (temporary s t).render e = (temporary s' t').render e ↔
      (temporary s t).names e = (temporary s' t').names e := by
  cases e with
  | redshift =>
    have htables : (temporary s t).render .redshift = (temporary s' t').render .redshift ↔ t = t' :=
      (String.append_left_inj _).trans
        ((String.append_right_inj _).trans quoteLiteral_injective.eq_iff)
    rw [htables]
    simp [names]
  | snowflake =>
    have hblank : ∀ x : String, (" IN SCHEMA " ++ x).toList.head? ≠ some '\'' := by
      intro x
      simp
    constructor
    · intro h
      unfold render at h
      simp only [String.append_assoc] at h
      obtain ⟨htable, hrest⟩ := quoteIdentifierWith_cancel rfl (hblank _) (hblank _)
        ((String.append_right_inj _).mp h)
      have hschema := quoteIdentifier_injective ((String.append_right_inj _).mp hrest)
      rw [htable, hschema]
    · intro h
      obtain ⟨rfl, rfl⟩ : s = s' ∧ t = t' := by simpa [names] using h
      rfl
  | teradata => exact ⟨fun _ => rfl, fun _ => rfl⟩

/-- Questions about the same are told apart by their names. -/
theorem render_eq_iff_names_eq {q q' : CatalogQuery} (ht : q.topic = q'.topic) :
    q.render e = q'.render e ↔ q.names e = q'.names e := by
  cases q with
  | schema s =>
    cases q' with
    | schema s' => exact (render_schema_injective e).eq_iff.trans (by simp [names])
    | _ => cases ht
  | tables s =>
    cases q' with
    | tables s' => exact (render_tables_injective e).eq_iff.trans (by simp [names])
    | _ => cases ht
  | views s =>
    cases q' with
    | views s' => exact (render_views_injective e).eq_iff.trans (by simp [names])
    | _ => cases ht
  | columns s t =>
    cases q' with
    | columns s' t' => exact (render_columns_injective e).eq_iff.trans (by simp [names])
    | _ => cases ht
  | keys s t =>
    cases q' with
    | keys s' t' => exact (render_keys_injective e).eq_iff.trans (by simp [names])
    | _ => cases ht
  | rowCount s t =>
    cases q' with
    | rowCount s' t' => exact (render_rowCount_injective e).eq_iff.trans (by simp [names])
    | _ => cases ht
  | temporary s t =>
    cases q' with
    | temporary s' t' => exact render_temporary_eq_iff e
    | _ => cases ht

end

/-! ## What reflection asks -/

/-- The session in which a schema or a table of a warehouse asks a question. -/
def pose (e : Engine) : CatalogQuery → Session Unit
  | schema s => discard (Schema.mk e s).isPresent
  | tables s => discard (Schema.mk e s).tableNames
  | views s => discard (Schema.mk e s).viewNames
  | columns s t => discard (TableReference.mk e s t).columns
  | keys s t => discard (TableReference.mk e s t).keyNames
  | rowCount s t => discard (TableReference.mk e s t).rowCount
  | temporary s t => discard (TableReference.mk e s t).isTemporary

section
variable {e : Engine} {b : Backend} {earlier : List String} {fs : Files}

theorem asks_isPresent (s : String) : ∃ r, Session.Asks (Schema.mk e s).isPresent b earlier fs
    [(schema s).render e] r fs := by
  have hprobe : ∀ sql, ∃ r, Session.Asks ((Schema.mk e s).probe sql) b earlier fs [sql] r fs := by
    intro sql
    have hattempt : Session.Asks (Session.attempt sql) b earlier fs [sql]
        (.ok (b.answer earlier sql)) fs := Session.asks_attempt sql
    cases hanswer : b.answer earlier sql with
    | ok rows =>
      rw [hanswer] at hattempt
      exact ⟨_, hattempt.then_quiet (Session.asks_pure true)⟩
    | error failure =>
      rw [hanswer] at hattempt
      exact ⟨_, hattempt.then_quiet
        ((Session.asks_note _ _ _).after_quiet (Session.asks_pure false))⟩
  cases e with
  | redshift => exact ⟨_, (Session.asks_ask _).map _⟩
  | snowflake | teradata => exact hprobe _

/-- A question is asked once and with its text, however it is answered. -/
theorem asks_pose (q : CatalogQuery) :
    ∃ r, Session.Asks (q.pose e) b earlier fs [q.render e] r fs := by
  cases q with
  | schema s =>
    obtain ⟨r, hasks⟩ : ∃ r, Session.Asks (Schema.mk e s).isPresent b earlier fs
      [(schema s).render e] r fs := asks_isPresent s
    exact ⟨_, Session.asks_discard hasks⟩
  | tables s => exact ⟨_, Session.asks_discard (Session.asks_read _ _)⟩
  | views s => exact ⟨_, Session.asks_discard (Session.asks_read _ _)⟩
  | columns s t => exact ⟨_, Session.asks_discard (Session.asks_read _ _)⟩
  | keys s t => exact ⟨_, Session.asks_discard (Session.asks_read _ _)⟩
  | rowCount s t => exact ⟨_, Session.asks_discard (Session.asks_read _ _)⟩
  | temporary s t => exact ⟨_, Session.asks_discard (Session.asks_read _ _)⟩

end

/-- What a schema or a table of a warehouse asks tells what it asks for and all names that it gives the
warehouse, and no listing of tables is a listing of views. -/
theorem posed_eq_iff (e : Engine) (q q' : CatalogQuery) :
    (∀ b j, ((q.pose e).run b j).2.statements = j.statements ++ [q.render e]) ∧
      (q.render e = q'.render e ↔ q.topic = q'.topic ∧ q.names e = q'.names e) ∧
      ∀ s s', (tables s).render e ≠ (views s').render e := by
  refine ⟨?_, ?_, ?_⟩
  · intro b j
    obtain ⟨r, hasks⟩ : ∃ r, Session.Asks (q.pose e) b j.statements j.files [q.render e] r j.files :=
      q.asks_pose
    obtain ⟨after, hrun, hstatements, _⟩ := hasks j rfl rfl
    rw [hrun, hstatements]
  · constructor
    · intro h
      have htopic := topic_eq_of_render_eq h
      exact ⟨htopic, (render_eq_iff_names_eq e htopic).mp h⟩
    · rintro ⟨htopic, hnames⟩
      exact (render_eq_iff_names_eq e htopic).mpr hnames
  · intro s s' h
    exact absurd (topic_eq_of_render_eq h) (by simp [topic])

end CatalogQuery

end WarehouseSchema
