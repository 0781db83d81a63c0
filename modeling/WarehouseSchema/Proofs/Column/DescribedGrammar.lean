import WarehouseSchema.Proofs.Column.Described
import WarehouseSchema.Proofs.Column.DescribedType
import WarehouseSchema.Proofs.Text.Words

/-!
Columns from the types that Snowflake describes. Main statement: a row gives what its type, name and length
make, however its type is taken apart, and is refused if its type cannot be taken apart.
-/

namespace WarehouseSchema.Catalog

open Text

/-- The results are the same, or faults of one class. -/
def SameOutcome {α : Type} (x y : Except Fault α) : Prop := x.mapError Fault.name = y.mapError Fault.name

theorem SameOutcome.bind {α β : Type} {x y : Except Fault α} (h : SameOutcome x y)
    (f : α → Except Fault β) : SameOutcome (x >>= f) (y >>= f) := by
  unfold SameOutcome at h ⊢
  cases x with
  | ok a =>
    cases y with
    | ok b =>
      obtain rfl := Except.ok.inj h
      rfl
    | error _ => cases h
  | error fault =>
    cases y with
    | ok _ => cases h
    | error fault' =>
      have hname : fault.name = fault'.name := Except.error.inj h
      exact congrArg Except.error hname

def shownColumn (row : Record) (name : List Char) (length : Option (List Char)) :
    Except Fault Column := do
  let d ← Definition.make .snowflake (.text (String.ofList name))
    [("length", Definition.optionValue (length.map String.ofList)),
     ("nullable", .bool ((row.getAnyCase "null?" (.text "Y")).isText "Y")),
     ("default", row.getAnyCase "default" .null)]
  Column.make .snowflake (row.getAnyCase "name" .null) d

theorem sameOutcome_normalizeType (e : Engine) {s t : String} (h : squeeze s = squeeze t) :
    SameOutcome (e.normalizeType (.text s)) (e.normalizeType (.text t)) := by
  have hunknown : ∀ s, (DefinitionFault.unknownType e s).raise =
      (.error (.definition (.unknownType e s)) : Except Fault String) :=
    fun s => DefinitionFault.raise_eq_error rfl
  simp only [SameOutcome, Engine.normalizeType, h, hunknown]
  split <;> rfl

/-- Spaces at the end of a type's name make no difference but to the wording of a fault. -/
theorem sameOutcome_shownColumn (row : Record) (name : List Char) (length : Option (List Char)) :
    SameOutcome (shownColumn row (dropEndWhile (· == ' ') name) length)
      (shownColumn row name length) := by
  obtain ⟨spaces, hspaces, hsplit⟩ := exists_append_dropEndWhile (· == ' ') name
  have hwords : squeezeChars (dropEndWhile (· == ' ') name) = squeezeChars name := by
    rw [squeezeChars, squeezeChars]
    conv => rhs; rw [← hsplit, wordsChars_append_blanks _ fun c hc => isBlank_of_eq_space (hspaces c hc)]
  have hsqueeze : squeeze (String.ofList (dropEndWhile (· == ' ') name)) =
      squeeze (String.ofList name) := by
    rw [squeeze, squeeze, String.toList_ofList, String.toList_ofList, hwords]
  exact ((sameOutcome_normalizeType .snowflake hsqueeze).bind _).bind _

/-- However the text of a type is taken apart into a name and a length, the row gives the column that these
make, or is refused as they are. A type that cannot be taken apart is refused. -/
theorem snowflakeColumn_parses {row : Record} {s : String}
    (htext : row.getAnyCase "type" .null = .text s) :
    (∀ name length, ShowsType s.toList name length →
      SameOutcome (Column.ofRow .snowflake row) (shownColumn row name length)) ∧
    ((∀ name length, ¬ ShowsType s.toList name length) →
      (Column.ofRow .snowflake row).mapError Fault.name = .error "InvalidTypeError") := by
  constructor
  · intro name length hshows
    have hcolumn : Column.ofRow .snowflake row =
        shownColumn row (dropEndWhile (· == ' ') name) length := by
      rw [Column.ofRow, snowflakeColumn_of_described htext (ofChars?_of_shows hshows), shownColumn]
    rw [hcolumn]
    exact sameOutcome_shownColumn row name length
  · intro hnone
    have hunread : Column.ofRow .snowflake row =
        (DefinitionFault.unreadableType (row.getAnyCase "type" .null)).raise := by
      rw [Column.ofRow]
      apply snowflakeColumn_of_unread
      intro s' t hs' ht
      obtain rfl := Value.text.inj (htext.symm.trans hs')
      exact hnone t.name t.length (shows_of_ofChars? ht)
    rw [hunread, htext]
    rfl

def blankRow : Record :=
  [("name", .text "total"), ("type", .text " NUMBER ( 38,0 )\n"), ("null?", .text "N")]

theorem showsType_blankRow :
    ShowsType " NUMBER ( 38,0 )\n".toList "NUMBER ".toList (some " 38,0 ".toList) := by
  have hname : IsName "NUMBER ".toList := ⟨⟨'N', rfl, by decide⟩, List.all_eq_true.mp (by decide)⟩
  have hlength : '\n' ∉ " 38,0 ".toList := by decide
  show ShowsType ([' '] ++ ("NUMBER ".toList ++ ([] ++ '(' :: (" 38,0 ".toList ++ ')' :: ['\n'])))) _ _
  exact .sized (by simp [isBlank_space]) hname (by simp) hlength (by simp; decide)

theorem snowflakeColumn_blankRow :
    blankRow.getAnyCase "type" .null = .text " NUMBER ( 38,0 )\n" ∧
    SameOutcome (Column.ofRow .snowflake blankRow)
      (shownColumn blankRow "NUMBER ".toList (some " 38,0 ".toList)) := by
  have htext : blankRow.getAnyCase "type" .null = .text " NUMBER ( 38,0 )\n" := rfl
  refine ⟨htext, ?_⟩
  exact (snowflakeColumn_parses htext).1 _ _ showsType_blankRow

end WarehouseSchema.Catalog
