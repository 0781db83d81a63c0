import WarehouseSchema.Column.Basic
import WarehouseSchema.Proofs.Outcome

/-!
Collections of columns. A collection is made of a list of columns exactly when it has these columns in
this order, and refused at the first column whose name was there already.
-/

namespace WarehouseSchema

theorem Column.make_eq_ok_iff {e : Engine} {name : Value} {d : Definition} {c : Column} :
    Column.make e name d = .ok c ↔ name = .text c.name ∧ c.definition = d ∧ d.engine = e := by
  constructor
  · intro h
    unfold make at h
    split at h
    · split at h
      · split at h
        · rename_i heng
          rw [← Except.ok.inj h]
          exact ⟨rfl, rfl, heng⟩
        · exact absurd h (DefinitionFault.raise_ne_ok _ _)
      · exact absurd h (DefinitionFault.raise_ne_ok _ _)
    · exact absurd h (DefinitionFault.raise_ne_ok _ _)
  · rintro ⟨rfl, rfl, heng⟩
    simp only [make]
    rw [dif_pos c.name_ne_empty, if_pos heng]

namespace Columns

theorem toList_inj {cs cs' : Columns} : cs.toList = cs'.toList ↔ cs = cs' := by
  constructor
  · intro h
    cases cs
    cases cs'
    simp only at h
    subst h
    rfl
  · rintro rfl
    rfl

theorem not_mem_names_of_toList {front cs : Columns} {c : Column} {back : List Column}
    (h : cs.toList = front.toList ++ c :: back) : c.name ∉ front.names := by
  have hnames := cs.nodup_names
  rw [h, List.map_append, List.map_cons] at hnames
  exact fun hmem => (List.nodup_append.mp hnames).2.2 _ hmem _ (by simp) rfl

theorem push_eq_ok_iff {cs cs' : Columns} {c : Column} :
    cs.push c = .ok cs' ↔ cs'.toList = cs.toList ++ [c] := by
  unfold push
  split
  · rename_i hmem
    constructor
    · intro h
      exact absurd h (DefinitionFault.raise_ne_ok _ _)
    · intro h
      exact absurd hmem (not_mem_names_of_toList h)
  · rw [Except.ok.injEq, ← toList_inj]
    exact eq_comm

theorem foldlM_push_eq_ok_iff {back : List Column} {front cs : Columns} :
    back.foldlM push front = .ok cs ↔ cs.toList = front.toList ++ back := by
  induction back generalizing front with
  | nil =>
    rw [List.foldlM_nil, pure_eq_ok_iff, List.append_nil, ← toList_inj]
    exact eq_comm
  | cons c back ih =>
    rw [List.foldlM_cons, bind_eq_ok_iff]
    constructor
    · rintro ⟨front', hpush, hrest⟩
      rw [ih.mp hrest, push_eq_ok_iff.mp hpush, List.append_assoc, List.singleton_append]
    · intro h
      have hpush : front.push c = .ok ⟨front.toList ++ [c], _⟩ :=
        dif_neg (not_mem_names_of_toList h)
      refine ⟨_, hpush, ih.mpr ?_⟩
      rw [h, List.append_assoc, List.singleton_append]

theorem ofList_eq_ok_iff {columns : List Column} {cs : Columns} :
    ofList columns = .ok cs ↔ cs.toList = columns :=
  foldlM_push_eq_ok_iff

theorem push_eq_error_iff {front : Columns} {c : Column} {fault : Fault} :
    front.push c = .error fault ↔
      c.name ∈ front.names ∧ fault = .definition (.repeatedColumn c.name) := by
  unfold push
  split
  · rename_i hmem
    have hraise : ((DefinitionFault.repeatedColumn c.name).raise : Except Fault Columns) =
        .error (.definition (.repeatedColumn c.name)) := rfl
    rw [hraise, Except.error.injEq]
    exact ⟨fun h => ⟨hmem, h.symm⟩, fun h => h.2.symm⟩
  · rename_i hnew
    simp [hnew]

/-- Columns are refused at the first name that was there already. -/
theorem foldlM_push_eq_error_iff {back : List Column} {front : Columns} {fault : Fault} :
    back.foldlM push front = .error fault ↔ ∃ before name after,
      back.map Column.name = before ++ name :: after ∧ (front.names ++ before).Nodup ∧
      name ∈ front.names ++ before ∧ fault = .definition (.repeatedColumn name) := by
  induction back generalizing front with
  | nil => simp [pure_ne_error]
  | cons c back ih =>
    rw [List.foldlM_cons, bind_eq_error_iff, push_eq_error_iff, List.map_cons]
    constructor
    · rintro (⟨hmem, hfault⟩ | ⟨front', hpush, hrest⟩)
      · refine ⟨[], c.name, back.map Column.name, rfl, ?_, ?_, hfault⟩
        · simpa [names] using front.nodup_names
        · simpa using hmem
      · obtain ⟨before, name, after, hback, hnodup, hmem, hfault⟩ := ih.mp hrest
        have hnames : front'.names ++ before = front.names ++ c.name :: before := by
          unfold names
          rw [push_eq_ok_iff.mp hpush]
          simp
        rw [hnames] at hnodup hmem
        exact ⟨c.name :: before, name, after, by rw [hback]; rfl, hnodup, hmem, hfault⟩
    · rintro ⟨before, name, after, hsplit, hnodup, hmem, hfault⟩
      cases before with
      | nil =>
        obtain ⟨rfl, _⟩ := List.cons.inj hsplit
        exact Or.inl ⟨by simpa using hmem, hfault⟩
      | cons first before =>
        obtain ⟨rfl, hback⟩ := List.cons.inj hsplit
        have hnew : c.name ∉ front.names :=
          fun hold => (List.nodup_append.mp hnodup).2.2 _ hold c.name (by simp) rfl
        have hpush : front.push c = .ok ⟨front.toList ++ [c], _⟩ := dif_neg hnew
        refine Or.inr ⟨_, hpush, ih.mpr ⟨before, name, after, hback, ?_, ?_, hfault⟩⟩
        · simpa [names] using hnodup
        · simpa [names] using hmem

theorem ofList_eq_error_iff {columns : List Column} {fault : Fault} :
    ofList columns = .error fault ↔ ∃ before name after,
      columns.map Column.name = before ++ name :: after ∧ before.Nodup ∧ name ∈ before ∧
      fault = .definition (.repeatedColumn name) := by
  unfold ofList
  rw [foldlM_push_eq_error_iff]
  rfl

end Columns

end WarehouseSchema
