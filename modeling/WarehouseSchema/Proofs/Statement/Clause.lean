import WarehouseSchema.Proofs.Definition.Canonical
import WarehouseSchema.Proofs.Text.Quoted
import WarehouseSchema.Statement

/-!
The clauses of a CREATE. Names stand between quotes, type names and codecs are words none of which goes
on as another one followed by a further clause, and lengths hold no parenthesis. Main statement: a
column without default is determined by its clause, whatever comes behind the comma or line feed that
ends the clause.
-/

namespace WarehouseSchema

open Text

theorem framed_quoteIdentifier :
    Framed (fun _ => True) (fun x => x.head? ≠ some '"')
      fun name => (quoteIdentifier name).toList :=
  framed_quoteIdentifierWith rfl

/-- What may stand behind a column clause, behind whether nulls are refused. -/
def clauseEnds : List (List Char) := [[','], ['\n']]

/-- What may stand behind the codec of a column. -/
def codecEnds : List (List Char) := " N".toList :: clauseEnds

/-- What may stand behind the length of a column. -/
def lengthEnds : List (List Char) := " E".toList :: codecEnds

/-- What may stand behind the type of a column. -/
def typeEnds : List (List Char) := ['('] :: lengthEnds

theorem framed_nullable :
    Framed (fun _ => True) (Starts clauseEnds)
      fun nullable : Bool => (if nullable then "" else " NOT NULL").toList := by
  have hwords : Framed (· ∈ [true, false]) (Starts clauseEnds)
      fun nullable : Bool => (if nullable then "" else " NOT NULL").toList :=
    framed_of_words (by decide)
  intro a b x y _ _
  exact hwords (by cases a <;> decide) (by cases b <;> decide)

theorem starts_nullable (nullable : Bool) {x : List Char} (hx : Starts clauseEnds x) :
    Starts codecEnds ((if nullable then "" else " NOT NULL").toList ++ x) := by
  cases nullable with
  | true => exact hx.mono (by decide)
  | false => exact ⟨" N".toList, by decide, ⟨"OT NULL".toList ++ x, rfl⟩⟩

theorem framed_codec (e : Engine) :
    Framed (fun codec => ∃ basetypes, e.codecs.lookup codec = some basetypes) (Starts codecEnds)
      String.toList := by
  have hall : ∀ e ∈ Engine.all, ∀ c ∈ e.codecs.map (·.1), ∀ d ∈ e.codecs.map (·.1),
      c.toList <+: d.toList → c = d ∨ ∀ p ∈ codecEnds,
        ¬ p <+: d.toList.drop c.toList.length ∧ ¬ d.toList.drop c.toList.length <+: p := by
    decide +kernel
  have hmem : ∀ {codec}, (∃ basetypes, e.codecs.lookup codec = some basetypes) →
      codec ∈ e.codecs.map (·.1) := by
    rintro codec ⟨basetypes, h⟩
    exact List.mem_map_of_mem (mem_of_lookup h)
  intro a b x y ha hb
  exact framed_of_words (hall e (Engine.mem_all e)) (hmem ha) (hmem hb)

theorem framed_type (e : Engine) : Framed (· ∈ e.types) (Starts typeEnds) String.toList := by
  have hall : ∀ e ∈ Engine.all, ∀ t ∈ e.types, ∀ u ∈ e.types,
      t.toList <+: u.toList → t = u ∨ ∀ p ∈ typeEnds,
        ¬ p <+: u.toList.drop t.toList.length ∧ ¬ u.toList.drop t.toList.length <+: p := by
    decide +kernel
  exact framed_of_words (hall e (Engine.mem_all e))

theorem framed_length :
    Framed (fun length : Option String => ∀ s ∈ length, ')' ∉ s.toList) (Starts lengthEnds)
      fun length => length.elim [] fun s => ['('] ++ (s.toList ++ [')']) := by
  have hmark : Framed (fun s : String => ')' ∉ s.toList) (Starts lengthEnds)
      fun s => s.toList ++ [')'] := by
    intro a b x y ha hb _ _
    exact (framed_mark ')').of_injective (fun _ _ => String.toList_inj.mp) ha hb trivial trivial
  exact hmark.option fun x hx => hx.not_lead (by decide)

theorem starts_length (length : Option String) {x : List Char} (hx : Starts lengthEnds x) :
    Starts typeEnds ((length.elim [] fun s => ['('] ++ (s.toList ++ [')'])) ++ x) := by
  cases length with
  | none => exact hx.mono (by decide)
  | some s => exact ⟨['('], by decide, ⟨s.toList ++ [')'] ++ x, rfl⟩⟩

theorem framed_compression (e : Engine) :
    Framed (fun compression : Option String =>
        ∀ codec ∈ compression, ∃ basetypes, e.codecs.lookup codec = some basetypes)
      (Starts codecEnds)
      fun compression => compression.elim [] fun codec => " ENCODE ".toList ++ codec.toList :=
  (framed_codec e).option fun _ hx => hx.not_lead (by decide)

theorem starts_compression (compression : Option String) {x : List Char}
    (hx : Starts codecEnds x) : Starts lengthEnds
      ((compression.elim [] fun codec => " ENCODE ".toList ++ codec.toList) ++ x) := by
  cases compression with
  | none => exact hx.mono (by decide)
  | some codec => exact ⟨" E".toList, by decide, ⟨"NCODE ".toList ++ codec.toList ++ x, rfl⟩⟩

namespace Definition

theorem toList_typeSql (d : Definition) : d.typeSql.toList =
    d.type.toList ++ d.length.elim [] fun s => ['('] ++ (s.toList ++ [')']) := by
  cases h : d.length <;> simp [typeSql, h]

theorem toList_compressionSql (d : Definition) : d.compressionSql.toList =
    d.compression.elim [] fun codec => " ENCODE ".toList ++ codec.toList := by
  cases h : d.compression <;> simp [compressionSql, h]

theorem Canonical.parenthesis_not_mem {d : Definition} (h : d.Canonical) :
    ∀ s ∈ d.length, ')' ∉ s.toList := by
  intro s hs hp
  rcases (h.length_allowed hs).isBlank_or_isDigit_or_comma hp with hb | hd | hc
  · exact absurd hb (by decide)
  · exact absurd hd (by decide)
  · exact absurd hc (by decide)

end Definition

/-- A column of a warehouse that has no default. -/
def Column.WithoutDefault (e : Engine) (c : Column) : Prop :=
  c.definition.MadeFor e ∧ c.definition.default = none

theorem framed_clause (e : Engine) :
    Framed (Column.WithoutDefault e) (Starts clauseEnds) fun c => c.clause.toList := by
  rintro ⟨name, d, hne⟩ ⟨name', d', hne'⟩ x y ⟨hd, hdef⟩ ⟨hd', hdef'⟩ hx hy he
  have hcan := hd.canonical
  have hcan' := hd'.canonical
  have heng : d.engine = e := hd.engine_eq
  have heng' : d'.engine = e := hd'.engine_eq
  simp only at hdef hdef'
  simp only [Column.clause, hdef, hdef', String.toList_append, d.toList_typeSql,
    d'.toList_typeSql, d.toList_compressionSql, d'.toList_compressionSql, List.append_assoc] at he
  have hnull := starts_nullable d.nullable hx
  have hnull' := starts_nullable d'.nullable hy
  have hcomp := starts_compression d.compression hnull
  have hcomp' := starts_compression d'.compression hnull'
  -- The parts come off the front one by one, each framed by what may stand behind it.
  obtain ⟨hname, he⟩ := framed_quoteIdentifier trivial trivial (by simp) (by simp) he
  obtain ⟨htype, he⟩ := framed_type e (heng ▸ hcan.type_mem) (heng' ▸ hcan'.type_mem)
    (starts_length d.length hcomp) (starts_length d'.length hcomp') (List.append_cancel_left he)
  obtain ⟨hlength, he⟩ := framed_length hcan.parenthesis_not_mem hcan'.parenthesis_not_mem
    hcomp hcomp' he
  obtain ⟨hcodec, he⟩ := framed_compression e
    (fun c hc => heng ▸ (hcan.compression_fits c hc).imp fun _ h => h.1)
    (fun c hc => heng' ▸ (hcan'.compression_fits c hc).imp fun _ h => h.1) hnull hnull' he
  obtain ⟨hnullable, hxy⟩ := framed_nullable trivial trivial hx hy he
  refine ⟨?_, hxy⟩
  cases d with
  | mk engine type length nullable default compression =>
    cases d' with
    | mk engine' type' length' nullable' default' compression' =>
      simp only at *
      subst hname htype hlength hcodec hnullable heng heng' hdef hdef'
      rfl

end WarehouseSchema
