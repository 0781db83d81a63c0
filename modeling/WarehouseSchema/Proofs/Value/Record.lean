import WarehouseSchema.Proofs.Outcome

/-!
What is found in a record. Where the names are pairwise different in lower case, a name in any letter case
finds one field, wherever that field stands. After an update a name finds what came last under it.
-/

namespace WarehouseSchema

open Text

section
variable {α β : Type} [BEq α] [LawfulBEq α]

/-- Among entries with pairwise different keys, a key finds its own entry. -/
theorem lookup_eq_some_iff_mem {entries : List (α × β)} {a : α} {b : β}
    (hkeys : (entries.map Prod.fst).Nodup) : entries.lookup a = some b ↔ (a, b) ∈ entries := by
  refine ⟨mem_of_lookup, fun hmem => ?_⟩
  obtain ⟨before, after, rfl⟩ := List.append_of_mem hmem
  refine List.lookup_eq_some_iff.mpr ⟨before, after, rfl, ?_⟩
  intro entry hentry
  rw [List.map_append, List.map_cons] at hkeys
  rw [bne_iff_ne]
  exact ((List.nodup_append.mp hkeys).2.2 _ (List.mem_map_of_mem hentry) _ List.mem_cons_self).symm

/-- The order of entries with pairwise different keys does not matter. -/
theorem lookup_of_perm {entries entries' : List (α × β)} (hkeys : (entries.map Prod.fst).Nodup)
    (hperm : entries'.Perm entries) (a : α) : entries'.lookup a = entries.lookup a := by
  have hkeys' : (entries'.map Prod.fst).Nodup := (hperm.map Prod.fst).nodup_iff.mpr hkeys
  ext b
  rw [lookup_eq_some_iff_mem hkeys', lookup_eq_some_iff_mem hkeys, hperm.mem_iff]

end

namespace Record

/-! ## Fields in any letter case -/

def lowered (r : Record) : Record := List.map (fun f => (lower f.1, f.2)) r

/-- No two names are the same in lower case. -/
def Distinct (r : Record) : Prop := (List.map (fun f => lower f.1) r).Nodup

/-- The record has the fields of another one, in any order and each under any name that is the same in
lower case. -/
def Restates (r' r : Record) : Prop :=
  ∃ between : Record, between.Perm r ∧
    List.Forall₂ (fun f' f => lower f'.1 = lower f.1 ∧ f'.2 = f.2) r' between

variable {r r' : Record}

theorem map_fst_lowered (r : Record) : r.lowered.map Prod.fst = List.map (fun f => lower f.1) r := by
  unfold lowered
  rw [List.map_map]
  rfl

theorem findAnyCase?_eq_lookup (h : r.Distinct) (name : String) :
    r.findAnyCase? name = r.lowered.lookup (lower name) := by
  have hscan : ∀ s : Record, (List.find? (fun f => lower f.1 == lower name) s).map (·.2) =
      s.lowered.lookup (lower name) := by
    intro s
    unfold lowered
    induction s with
    | nil => rfl
    | cons f s ih =>
      rw [List.find?_cons, List.map_cons, List.lookup_cons, BEq.comm, ← ih]
      cases lower name == lower f.1 <;> rfl
  unfold findAnyCase?
  split
  · -- The name itself finds its field first, and that is the field which its lower case finds.
    rename_i v hv
    have hmem : (lower name, v) ∈ r.lowered := List.mem_map.mpr ⟨_, mem_of_lookup hv, rfl⟩
    exact ((lookup_eq_some_iff_mem (r.map_fst_lowered ▸ h)).mpr hmem).symm
  · exact hscan r

theorem Restates.perm_lowered (h : r'.Restates r) : r'.lowered.Perm r.lowered := by
  obtain ⟨between, hperm, hfields⟩ := h
  have hlowered : r'.lowered = between.lowered := by
    clear hperm
    unfold lowered
    induction hfields with
    | nil => rfl
    | cons hfield hrest ih => rw [List.map_cons, List.map_cons, hfield.1, hfield.2, ih]
  rw [hlowered]
  exact hperm.map _

/-- Where names are distinct, every name finds the same in a record and in one that restates it. -/
theorem Restates.findAnyCase?_eq (h : r'.Restates r) (hdistinct : r.Distinct) (name : String) :
    r'.findAnyCase? name = r.findAnyCase? name := by
  have hperm := h.perm_lowered
  have hkeys : (r.lowered.map Prod.fst).Nodup := r.map_fst_lowered ▸ hdistinct
  have hdistinct' : r'.Distinct := by
    have hkeys' := (hperm.map Prod.fst).nodup_iff.mpr hkeys
    rwa [map_fst_lowered] at hkeys'
  rw [findAnyCase?_eq_lookup hdistinct', findAnyCase?_eq_lookup hdistinct, lookup_of_perm hkeys hperm]

/-! ## Updates -/

def names (r : Record) : List String := List.map Prod.fst r

/-- The value that comes last under a name. -/
def last? (r : Record) (name : String) : Option Value := Record.find? (List.reverse r) name

theorem find?_cons (f : String × Value) (r : Record) (name : String) :
    find? (f :: r) name = if name = f.1 then some f.2 else r.find? name := by
  unfold find?
  rw [List.lookup_cons]
  by_cases h : name = f.1
  · rw [beq_iff_eq.mpr h, if_pos h]
  · rw [beq_false_of_ne h, if_neg h]

theorem find?_append (r s : Record) (name : String) :
    find? (r ++ s) name = (r.find? name).or (s.find? name) := List.lookup_append

theorem find?_eq_none_iff {name : String} : r.find? name = none ↔ name ∉ r.names := by
  unfold names
  induction r with
  | nil => simp [find?]
  | cons f r ih =>
    rw [find?_cons, List.map_cons, List.mem_cons, not_or, ← ih]
    by_cases h : name = f.1 <;> simp [h]

theorem last?_eq_none_iff {name : String} : r.last? name = none ↔ name ∉ r.names := by
  unfold last?
  rw [find?_eq_none_iff, names, names, List.map_reverse, List.mem_reverse]

theorem last?_cons (f : String × Value) (r : Record) (name : String) :
    last? (f :: r) name = (r.last? name).or (if name = f.1 then some f.2 else none) := by
  unfold last?
  rw [List.reverse_cons, find?_append, find?_cons]
  rfl

/-- What is found when each value under a name is replaced. -/
theorem find?_overwritten (r : Record) (name other : String) (v : Value) :
    find? (List.map (fun f => if f.1 == name then (name, v) else f) r) other =
      if other = name then (r.find? name).map fun _ => v else r.find? other := by
  induction r with
  | nil => simp [find?]
  | cons f r ih =>
    rw [List.map_cons, find?_cons, find?_cons, find?_cons, ih]
    by_cases hf : f.1 = name
    · subst hf
      by_cases hother : other = f.1 <;> simp [hother]
    · have hname : name ≠ f.1 := fun h => hf h.symm
      by_cases hother : other = f.1
      · subst hother
        simp [hf]
      · simp [hf, hother, hname]

theorem isSome_find? (r : Record) (name : String) :
    (r.find? name).isSome = List.any r fun f => f.1 == name := by
  induction r with
  | nil => rfl
  | cons f r ih =>
    rw [find?_cons, List.any_cons, ← ih]
    by_cases h : f.1 = name
    · simp [h]
    · have hname : name ≠ f.1 := fun hsame => h hsame.symm
      simp [h, hname]

theorem find?_put (r : Record) (name other : String) (v : Value) :
    (r.put name v).find? other = if other = name then some v else r.find? other := by
  unfold put
  rw [← isSome_find?]
  cases hold : r.find? name with
  | some old =>
    rw [Option.isSome_some, if_pos rfl, find?_overwritten, hold]
    rfl
  | none =>
    rw [Option.isSome_none, if_neg Bool.false_ne_true, find?_append, find?_cons]
    by_cases hother : other = name
    · rw [hother, hold, if_pos rfl, if_pos rfl]
      rfl
    · rw [if_neg hother, if_neg hother]
      exact Option.or_none

theorem last?_put (r : Record) (name other : String) (v : Value) :
    (r.put name v).last? other = if other = name then some v else r.last? other := by
  unfold put last?
  rw [← List.any_reverse, ← isSome_find?]
  cases hold : Record.find? (List.reverse r) name with
  | some old =>
    rw [Option.isSome_some, if_pos rfl, ← List.map_reverse, find?_overwritten, hold]
    rfl
  | none =>
    rw [Option.isSome_none, if_neg Bool.false_ne_true, List.reverse_append, List.reverse_singleton,
      List.singleton_append, find?_cons]

theorem mem_names_put {r : Record} {name other : String} {v : Value} :
    other ∈ (r.put name v).names ↔ other = name ∨ other ∈ r.names := by
  have hfound : ∀ s : Record, other ∈ s.names ↔ s.find? other ≠ none := by
    intro s
    rw [Ne, find?_eq_none_iff, not_not]
  rw [hfound, hfound, find?_put]
  by_cases h : other = name <;> simp [h]

/-- After an update a name finds what the update has last under it, else what was there before. -/
theorem find?_merge (r other : Record) (name : String) :
    (r.merge other).find? name = (other.last? name).or (r.find? name) := by
  unfold merge
  induction other generalizing r with
  | nil => rfl
  | cons f other ih =>
    rw [List.foldl_cons, ih, find?_put, last?_cons, Option.or_assoc]
    by_cases h : name = f.1 <;> simp [h]

theorem last?_merge (r other : Record) (name : String) :
    (r.merge other).last? name = (other.last? name).or (r.last? name) := by
  unfold merge
  induction other generalizing r with
  | nil => rfl
  | cons f other ih =>
    rw [List.foldl_cons, ih, last?_put, last?_cons, Option.or_assoc]
    by_cases h : name = f.1 <;> simp [h]

theorem mem_names_merge {r other : Record} {name : String} :
    name ∈ (r.merge other).names ↔ name ∈ r.names ∨ name ∈ other.names := by
  unfold merge
  induction other generalizing r with
  | nil => simp [names]
  | cons f other ih =>
    rw [List.foldl_cons, ih, mem_names_put]
    unfold names
    rw [List.map_cons, List.mem_cons, or_comm (a := name = f.1), or_assoc]

end Record

end WarehouseSchema
