import Mathlib.Data.List.Nodup
import Mathlib.Data.List.Perm.Subperm
import WarehouseSchema.Csv.Sample
import WarehouseSchema.Proofs.Text.Decimal

/-!
The names of the columns of a header. Names are made different place by place, and the counts tell which
names stand at places that are done. Main statement: there is a name for each field of a header, no name is
empty, and no two are the same.
-/

namespace WarehouseSchema.Csv

open Text

theorem lookup_filter_ne (counts : NameCounts) {name other : String} (h : other ≠ name) :
    (counts.filter (·.1 != name)).lookup other = counts.lookup other := by
  induction counts with
  | nil => rfl
  | cons entry counts ih =>
    obtain ⟨key, n⟩ := entry
    by_cases hkey : key = name
    · rw [List.filter_cons_of_neg (by simp [hkey]), ih, List.lookup_cons]
      have hother : (other == key) = false := by simp [hkey, h]
      rw [hother]
    · rw [List.filter_cons_of_pos (by simp [hkey]), List.lookup_cons, List.lookup_cons, ih]

theorem countOf_setCount_self (counts : NameCounts) (name : String) (n : Nat) :
    countOf (setCount counts name n) name = n := by
  simp [countOf, setCount]

theorem countOf_setCount_of_ne (counts : NameCounts) {name other : String} (n : Nat)
    (h : other ≠ name) : countOf (setCount counts name n) other = countOf counts other := by
  have hother : (other == name) = false := by simp [h]
  rw [countOf, setCount, List.lookup_cons, hother]
  exact congrArg (Option.getD · 0) (lookup_filter_ne counts h)

/-- A repeated name with a number behind it. -/
def numbered (name : String) (n : Nat) : String := name ++ "." ++ natText n

theorem numbered_injective (name : String) : Function.Injective (numbered name) := by
  intro m n h
  have hlist := congrArg String.toList h
  simp only [numbered, String.toList_append] at hlist
  exact natText_injective (String.toList_inj.mp (List.append_cancel_left hlist))

theorem numbered_ne_empty (name : String) (n : Nat) : numbered name n ≠ "" := by
  intro h
  have hlist := congrArg String.toList h
  simp [numbered] at hlist

/-- Of more numbers than there are taken names, one makes a name that is not taken. -/
theorem exists_numbered_not_mem (name : String) (taken : List String) (n : Nat) {fuel : Nat}
    (h : taken.length < fuel) : ∃ k < fuel, numbered name (n + k) ∉ taken := by
  by_contra hall
  push Not at hall
  let candidates := (List.range fuel).map fun k => numbered name (n + k)
  have hnodup : candidates.Nodup := by
    refine List.Nodup.map ?_ List.nodup_range
    intro j k hjk
    have hsum := numbered_injective name hjk
    omega
  have hsubset : candidates ⊆ taken := by
    intro s hs
    obtain ⟨k, hk, rfl⟩ := List.mem_map.mp hs
    exact hall k (List.mem_range.mp hk)
  have hlength := (hnodup.subperm hsubset).length_le
  simp only [candidates, List.length_map, List.length_range] at hlength
  omega

/-- When all names that count are taken, the search ends at the first number that makes a name that is not
taken. Only the count of the repeated name changes. -/
theorem freshName_spec {name : String} {taken : List String} (hname : name ∈ taken)
    {fuel n : Nat} {counts : NameCounts} (hcounted : ∀ s, countOf counts s ≠ 0 → s ∈ taken)
    (hfree : ∃ k < fuel, numbered name (n + k) ∉ taken) :
    ∃ fresh counts', freshName name taken fuel n counts = (fresh, counts') ∧
      fresh ∉ taken ∧ fresh ≠ "" ∧ countOf counts' name ≠ 0 ∧
      ∀ s, s ≠ name → countOf counts' s = countOf counts s := by
  induction fuel generalizing n counts with
  | zero =>
    obtain ⟨k, hk, _⟩ := hfree
    omega
  | succ fuel ih =>
    have hkept : ∀ s, s ≠ name → countOf (setCount counts name (n + 1)) s = countOf counts s :=
      fun s hs => countOf_setCount_of_ne counts _ hs
    have hcounted' : ∀ s, countOf (setCount counts name (n + 1)) s ≠ 0 → s ∈ taken := by
      intro s hs
      by_cases hsame : s = name
      · exact hsame ▸ hname
      · rw [hkept s hsame] at hs
        exact hcounted s hs
    rw [freshName]
    by_cases hmem : numbered name n ∈ taken
    · have hnext : ∃ k < fuel, numbered name (n + 1 + k) ∉ taken := by
        obtain ⟨k, hk, hnew⟩ := hfree
        cases k with
        | zero => exact absurd hmem hnew
        | succ k => exact ⟨k, by omega, by rwa [show n + 1 + k = n + (k + 1) by omega]⟩
      obtain ⟨fresh, counts', hrun, hnew, hne, hself, hother⟩ := ih hcounted' hnext
      refine ⟨fresh, counts', ?_, hnew, hne, hself, fun s hs => (hother s hs).trans (hkept s hs)⟩
      exact (if_pos (List.contains_iff_mem.mpr hmem)).trans hrun
    · -- a name that is not taken does not count either, so that the search ends with it
      have hzero : countOf (setCount counts name (n + 1)) (numbered name n) = 0 :=
        by_contra fun hne => hmem (hcounted' _ hne)
      refine ⟨numbered name n, setCount counts name (n + 1), ?_, hmem, numbered_ne_empty name n, ?_,
        hkept⟩
      · refine (if_neg fun hcontains => hmem (List.contains_iff_mem.mp hcontains)).trans ?_
        rw [show countOf (setCount counts name (n + 1)) (name ++ "." ++ natText n) = 0 from hzero]
        rfl
      · rw [countOf_setCount_self]
        omega

/-- Names of which those at the places `done` differ and are the ones that count. -/
structure Separated (done : List Nat) (names : List String) (counts : NameCounts) : Prop where
  counted_iff : ∀ name, countOf counts name ≠ 0 ↔ ∃ i ∈ done, names[i]? = some name
  distinct : ∀ i ∈ done, ∀ j ∈ done, names[i]? = names[j]? → i = j
  ne_empty : ∀ name ∈ names, name ≠ ""

/-- What the name at a place becomes: one that stands at no place that is done. -/
theorem exists_separateAt {done : List Nat} {names : List String} {counts : NameCounts} {k : Nat}
    (h : Separated done names counts) (hk : k < names.length) :
    ∃ fresh counts', separateAt (names, counts) k =
        (names.set k fresh, setCount counts' fresh (countOf counts' fresh + 1)) ∧
      fresh ≠ "" ∧ (∀ i ∈ done, names[i]? ≠ some fresh) ∧
      ∀ s, s ≠ fresh → (countOf counts' s ≠ 0 ↔ countOf counts s ≠ 0) := by
  have hmem : names[k] ∈ names := List.getElem_mem hk
  have hget : names.getD k "" = names[k] := by simp [hk]
  unfold separateAt
  simp only [hget]
  cases hcount : countOf counts names[k] with
  | zero =>
    refine ⟨names[k], counts, rfl, h.ne_empty _ hmem, ?_, fun s _ => Iff.rfl⟩
    intro i hi hname
    exact (h.counted_iff _).mpr ⟨i, hi, hname⟩ hcount
  | succ n =>
    have hcounted : ∀ s, countOf counts s ≠ 0 → s ∈ names := by
      intro s hs
      obtain ⟨i, _, hi⟩ := (h.counted_iff s).mp hs
      exact List.mem_of_getElem? hi
    have hfree : ∃ j < 2 * names.length + 2, numbered names[k] (n + 1 + j) ∉ names :=
      exists_numbered_not_mem names[k] names (n + 1) (by omega)
    obtain ⟨fresh, counts', hrun, hnew, hne, hself, hother⟩ := freshName_spec hmem hcounted hfree
    refine ⟨fresh, counts', by simp only [hrun], hne, fun i _ hi => hnew (List.mem_of_getElem? hi), ?_⟩
    intro s _
    by_cases hs : s = names[k]
    · rw [hs, hcount]
      exact iff_of_true hself (by omega)
    · rw [hother s hs]

/-- A further place is done. -/
theorem Separated.step {done : List Nat} {names : List String} {counts : NameCounts} {k : Nat}
    (h : Separated done names counts) (hk : k < names.length) (hnew : k ∉ done) :
    Separated (k :: done) (separateAt (names, counts) k).1 (separateAt (names, counts) k).2 ∧
      (separateAt (names, counts) k).1.length = names.length := by
  obtain ⟨fresh, counts', hrun, hne, habsent, hcounts⟩ := exists_separateAt h hk
  rw [hrun]
  have hat : (names.set k fresh)[k]? = some fresh := by simp [hk]
  have hkept : ∀ i ∈ done, (names.set k fresh)[i]? = names[i]? := by
    intro i hi
    refine List.getElem?_set_ne ?_
    rintro rfl
    exact hnew hi
  refine ⟨⟨?_, ?_, ?_⟩, List.length_set⟩
  · intro s
    by_cases hs : s = fresh
    · subst hs
      rw [countOf_setCount_self]
      exact iff_of_true (by omega) ⟨k, List.mem_cons_self, hat⟩
    · rw [countOf_setCount_of_ne counts' _ hs, hcounts s hs, h.counted_iff s]
      constructor
      · rintro ⟨i, hi, hname⟩
        exact ⟨i, List.mem_cons_of_mem k hi, (hkept i hi).trans hname⟩
      · rintro ⟨i, hi, hname⟩
        rcases List.mem_cons.mp hi with rfl | hi
        · exact absurd (Option.some.inj (hat.symm.trans hname)).symm hs
        · exact ⟨i, hi, (hkept i hi).symm.trans hname⟩
  · -- the name that is new stands against those at the places that were done before
    intro i hi j hj hsame
    rcases List.mem_cons.mp hi with hik | hi <;> rcases List.mem_cons.mp hj with hjk | hj
    · rw [hik, hjk]
    · rw [hik, hat, hkept j hj] at hsame
      exact absurd hsame.symm (habsent j hj)
    · rw [hjk, hat, hkept i hi] at hsame
      exact absurd hsame (habsent i hi)
    · rw [hkept i hi, hkept j hj] at hsame
      exact h.distinct i hi j hj hsame
  · intro name hname
    rcases List.mem_or_eq_of_mem_set hname with hold | rfl
    · exact h.ne_empty name hold
    · exact hne

theorem Separated.run {done todo : List Nat} {names : List String} {counts : NameCounts}
    (h : Separated done names counts) (hnodup : todo.Nodup)
    (htodo : ∀ i ∈ todo, i < names.length ∧ i ∉ done) :
    Separated (todo.reverse ++ done) (todo.foldl separateAt (names, counts)).1
        (todo.foldl separateAt (names, counts)).2 ∧
      (todo.foldl separateAt (names, counts)).1.length = names.length := by
  induction todo generalizing done names counts with
  | nil => exact ⟨h, rfl⟩
  | cons k todo ih =>
    obtain ⟨hk, hnew⟩ := htodo k List.mem_cons_self
    obtain ⟨hstep, hlength⟩ := h.step hk hnew
    obtain ⟨hlast, hnodup⟩ := List.nodup_cons.mp hnodup
    have hrest : ∀ i ∈ todo, i < (separateAt (names, counts) k).1.length ∧ i ∉ k :: done := by
      intro i hi
      obtain ⟨hlt, hout⟩ := htodo i (List.mem_cons_of_mem k hi)
      rw [hlength, List.mem_cons, not_or]
      exact ⟨hlt, fun hik => hlast (hik ▸ hi), hout⟩
    obtain ⟨hrun, hsame⟩ := ih hstep hnodup hrest
    rw [List.foldl_cons, List.reverse_cons, List.append_assoc]
    exact ⟨hrun, hsame.trans hlength⟩

/-- The names of a header before any is made different: places without a name are named. -/
theorem separated_nil (header : List String) :
    Separated [] (header.zipIdx.map fun (name, i) => if name = "" then placeName i else name) [] := by
  refine ⟨fun name => by simp [countOf], fun i hi => absurd hi (by simp), ?_⟩
  intro name hname
  obtain ⟨⟨given, i⟩, _, rfl⟩ := List.mem_map.mp hname
  dsimp only
  split
  · intro h
    have hlist := congrArg String.toList h
    simp [placeName] at hlist
  · assumption

/-- Names that all differ at the places that are done do not repeat when every place is. -/
theorem Separated.nodup {done : List Nat} {names : List String} {counts : NameCounts}
    (h : Separated done names counts) (hall : ∀ i < names.length, i ∈ done) : names.Nodup := by
  rw [List.nodup_iff_getElem?_ne_getElem?]
  intro i j hij hj hsame
  have heq := h.distinct i (hall i (by omega)) j (hall j hj) hsame
  omega

/-- Each field of a header has a name, which is not empty and no other field's. -/
theorem columnNames_distinct (header : List String) :
    (columnNames header).Nodup ∧ (∀ name ∈ columnNames header, name ≠ "") ∧
      (columnNames header).length = header.length := by
  have hstart := separated_nil header
  let names := header.zipIdx.map fun (name, i) => if name = "" then placeName i else name
  have hlength : names.length = header.length := by simp [names]
  -- given names are done before the ones that are made up for places without any
  let isGiven (i : Nat) : Bool := header.getD i "" != ""
  let places := List.range header.length
  let order := places.filter isGiven ++ places.filter fun i => !isGiven i
  have hperm : order.Perm places := List.filter_append_perm isGiven places
  have hnodup : order.Nodup := hperm.nodup_iff.mpr List.nodup_range
  have hrun := hstart.run hnodup fun i hi =>
    ⟨by simpa [places, hlength] using hperm.mem_iff.mp hi, by simp⟩
  have hnames : columnNames header = (order.foldl separateAt (names, [])).1 := by
    simp only [columnNames, List.partition_eq_filter_filter]
    rfl
  rw [hnames]
  obtain ⟨hdone, hsame⟩ := hrun
  refine ⟨hdone.nodup ?_, hdone.ne_empty, hsame.trans hlength⟩
  intro i hi
  rw [hsame, hlength] at hi
  rw [List.append_nil, List.mem_reverse, hperm.mem_iff]
  exact List.mem_range.mpr hi

end WarehouseSchema.Csv
