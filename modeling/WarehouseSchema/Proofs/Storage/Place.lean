import WarehouseSchema.Proofs.Outcome
import WarehouseSchema.Storage.Files

/-!
Where files are kept. While the folders on its way stand, a path leads to one location, whatever else is
written. Main statements: a text that is written is read from its path, and writing keeps the files at
all other locations and makes nothing but folders there.
-/

namespace WarehouseSchema

/-- The faults of paths that cannot be used. -/
inductive Fault.OfPath : Fault → Prop where
  | path (fault : PathFault) (text : String) : OfPath (.path fault text)

/-- The location to which names lead from another one. -/
def Location.along (here : Location) : List String → Location
  | [] => here
  | name :: rest => along (if name = ".." then here.dropLast else here ++ [name]) rest

def Path.place (p : Path) (working : Location) : Location :=
  Location.along (if p.isAbsolute then [] else working) p.parts

/-! ## Entries -/

section
variable {α β : Type} [BEq α] [LawfulBEq α] {entries : List (α × β)} {key other : α} {value : β}

theorem lookup_replaced (h : entries.any (·.1 == key)) :
    (entries.map fun e => if e.1 == key then (key, value) else e).lookup key = some value := by
  induction entries with
  | nil => simp at h
  | cons e entries ih =>
    rw [List.map_cons]
    by_cases he : e.1 = key
    · simp [he]
    · have hrest : entries.any (·.1 == key) := by simpa [he] using h
      rw [if_neg (by simpa using he), List.lookup_cons, beq_false_of_ne (Ne.symm he)]
      exact ih hrest

theorem lookup_of_ne (h : other ≠ key) :
    (entries.map fun e => if e.1 == key then (key, value) else e).lookup other =
      entries.lookup other := by
  induction entries with
  | nil => rfl
  | cons e entries ih =>
    rw [List.map_cons, List.lookup_cons, List.lookup_cons, ih]
    by_cases he : e.1 = key
    · simp [he, beq_false_of_ne h]
    · simp [he]

theorem lookup_eq_none_of_any (h : ¬ entries.any (·.1 == key)) : entries.lookup key = none := by
  rw [List.lookup_eq_none_iff]
  intro e he
  rw [bne_iff_ne]
  intro hkey
  exact h (List.any_eq_true.mpr ⟨e, he, beq_iff_eq.mpr hkey.symm⟩)

end

namespace Files

theorem entryAt?_put (fs : Files) {at_ : Location} (h : at_ ≠ []) (entry : Entry)
    (other : Location) :
    (fs.put at_ entry).entryAt? other = if other = at_ then some entry else fs.entryAt? other := by
  unfold entryAt? put
  by_cases hroot : other = []
  · have hne : other ≠ at_ := fun he => h (he ▸ hroot)
    rw [if_pos hroot, if_pos hroot, if_neg hne]
  · rw [if_neg hroot, if_neg hroot]
    by_cases hany : fs.entries.any (·.1 == at_)
    · rw [if_pos hany]
      by_cases hother : other = at_
      · rw [if_pos hother, hother]
        exact lookup_replaced hany
      · rw [if_neg hother]
        exact lookup_of_ne hother
    · rw [if_neg hany, List.lookup_append]
      by_cases hother : other = at_
      · rw [if_pos hother, hother, lookup_eq_none_of_any hany]
        simp
      · rw [if_neg hother]
        simp [List.lookup_cons, beq_false_of_ne hother]

theorem working_put (fs : Files) (at_ : Location) (entry : Entry) :
    (fs.put at_ entry).working = fs.working := by
  unfold put
  split <;> rfl

/-- The folders stay from one state of the files to another, and so do the texts, but for the one at a
location. -/
structure KeepsBut (spot : Location) (fs fs' : Files) : Prop where
  working_eq : fs'.working = fs.working
  folder : ∀ at_, fs.entryAt? at_ = some .folder → fs'.entryAt? at_ = some .folder
  file : ∀ at_ text, at_ ≠ spot → fs.entryAt? at_ = some (.file text) →
    fs'.entryAt? at_ = some (.file text)

variable {fs fs' fs'' : Files} {spot at_ here : Location} {p q : Path} {text s : String}

theorem KeepsBut.refl (spot : Location) (fs : Files) : KeepsBut spot fs fs :=
  ⟨rfl, fun _ h => h, fun _ _ _ h => h⟩

theorem KeepsBut.trans (h : KeepsBut spot fs fs') (h' : KeepsBut spot fs' fs'') :
    KeepsBut spot fs fs'' := by
  refine ⟨h'.working_eq.trans h.working_eq, ?_, ?_⟩
  · intro at_ hat
    exact h'.folder at_ (h.folder at_ hat)
  · intro at_ text hne hat
    exact h'.file at_ text hne (h.file at_ text hne hat)

theorem keepsBut_put {entry : Entry} (hfree : fs.entryAt? spot ≠ some .folder) :
    KeepsBut spot fs (fs.put spot entry) := by
  have hroot : spot ≠ [] := fun h => hfree (by rw [h]; rfl)
  refine ⟨working_put _ _ _, ?_, ?_⟩
  · intro at_ hat
    have hne : at_ ≠ spot := fun h => hfree (h ▸ hat)
    rw [entryAt?_put fs hroot, if_neg hne, hat]
  · intro at_ text hne hat
    rw [entryAt?_put fs hroot, if_neg hne, hat]

/-- A location where nothing stands can be filled without a loss. -/
theorem keepsBut_put_none {entry : Entry} (hnone : fs.entryAt? at_ = none) :
    KeepsBut spot fs (fs.put at_ entry) := by
  have hkeeps : KeepsBut at_ fs (fs.put at_ entry) := keepsBut_put (by simp [hnone])
  refine ⟨hkeeps.working_eq, hkeeps.folder, ?_⟩
  intro other text _ hother
  have hne : other ≠ at_ := by
    rintro rfl
    simp [hnone] at hother
  exact hkeeps.file other text hne hother

/-! ## Paths -/

theorem follow_eq_ok {names : List String} (h : fs.follow here names = .ok at_) :
    at_ = here.along names ∧
      ∀ spot fs', KeepsBut spot fs fs' → fs'.follow here names = .ok at_ := by
  induction names generalizing here with
  | nil =>
    rw [follow] at h
    cases h
    exact ⟨rfl, fun _ fs' _ => by rw [follow]⟩
  | cons name rest ih =>
    rw [follow] at h
    split at h
    · simp at h
    · simp at h
    · rename_i hfolder
      split at h
      · rename_i hname
        obtain ⟨hplace, hstays⟩ := ih h
        refine ⟨by rw [hplace, Location.along, if_pos hname], ?_⟩
        intro spot fs' hkeeps
        rw [follow, hkeeps.folder here hfolder]
        simp only [hname, if_true]
        exact hstays spot fs' hkeeps
      · rename_i hname
        split at h
        · simp at h
        · rename_i hshort
          obtain ⟨hplace, hstays⟩ := ih h
          refine ⟨by rw [hplace, Location.along, if_neg hname], ?_⟩
          intro spot fs' hkeeps
          rw [follow, hkeeps.folder here hfolder]
          simp only [hname, hshort, if_false]
          exact hstays spot fs' hkeeps

theorem place_eq_of_locate (h : fs.locate p = .ok at_) : at_ = p.place fs.working := by
  unfold locate at h
  split at h
  · simp at h
  · split at h
    · simp at h
    · exact (follow_eq_ok h).1

theorem KeepsBut.locate_eq_ok (hkeeps : KeepsBut spot fs fs') (h : fs.locate p = .ok at_) :
    fs'.locate p = .ok at_ := by
  unfold locate at h ⊢
  rw [hkeeps.working_eq]
  split at h
  · simp at h
  · rename_i hnull
    split at h
    · simp at h
    · rename_i hlong
      rw [if_neg hnull, if_neg hlong]
      exact (follow_eq_ok h).2 spot fs' hkeeps

theorem read_eq_ok_iff : fs.read p = .ok s ↔
    ∃ at_, fs.locate p = .ok at_ ∧ fs.entryAt? at_ = some (.file s) := by
  unfold read entry
  cases fs.locate p with
  | error fault => simp
  | ok at_ =>
    cases h : fs.entryAt? at_ with
    | none => simp [h]
    | some e => cases e <;> simp [h]

/-- What is read stands somewhere. -/
theorem exists_entry_of_read (h : fs.read p = .ok s) : ∃ at_, (at_, .file s) ∈ fs.entries := by
  obtain ⟨at_, _, hfile⟩ := read_eq_ok_iff.mp h
  unfold entryAt? at hfile
  split at hfile
  · simp at hfile
  · exact ⟨at_, mem_of_lookup hfile⟩

/-- A file is read where it was as long as no other text is put there. -/
theorem KeepsBut.read_eq_ok (hkeeps : KeepsBut spot fs fs') (hne : q.place fs.working ≠ spot)
    (h : fs.read q = .ok s) : fs'.read q = .ok s := by
  obtain ⟨at_, hlocate, hfile⟩ := read_eq_ok_iff.mp h
  have hspot : at_ ≠ spot := place_eq_of_locate hlocate ▸ hne
  exact read_eq_ok_iff.mpr ⟨at_, hkeeps.locate_eq_ok hlocate, hkeeps.file at_ s hspot hfile⟩

/-! ## Writing -/

/-- At a location nothing has changed, or a folder has been put where nothing stood. -/
def KeptAt (at_ : Location) (fs fs' : Files) : Prop :=
  fs'.entryAt? at_ = fs.entryAt? at_ ∨
    fs.entryAt? at_ = none ∧ fs'.entryAt? at_ = some .folder

/-- Folders have been put where nothing stood, and nothing else has changed. -/
inductive Grows (fs : Files) : Files → Prop where
  | refl : Grows fs fs
  | folder {fs' : Files} {at_ : Location} : Grows fs fs' → fs'.entryAt? at_ = none →
      Grows fs (fs'.put at_ .folder)

theorem Grows.trans (h : Grows fs fs') (h' : Grows fs' fs'') : Grows fs fs'' := by
  induction h' with
  | refl => exact h
  | folder _ hnone ih => exact ih.folder hnone

theorem Grows.keepsBut (h : Grows fs fs') : KeepsBut spot fs fs' := by
  induction h with
  | refl => exact .refl _ _
  | folder _ hnone ih => exact ih.trans (keepsBut_put_none hnone)

theorem Grows.keptAt (h : Grows fs fs') : KeptAt at_ fs fs' := by
  induction h with
  | refl => exact Or.inl rfl
  | @folder fs' made _ hnone ih =>
    have hroot : made ≠ [] := by
      rintro rfl
      simp [entryAt?] at hnone
    unfold KeptAt at ih ⊢
    rw [entryAt?_put fs' hroot]
    by_cases hmade : at_ = made
    · rw [hmade, hnone] at ih
      rcases ih with hsame | ⟨_, hfolder⟩
      · rw [if_pos hmade, hmade]
        exact Or.inr ⟨hsame.symm, rfl⟩
      · simp at hfolder
    · rw [if_neg hmade]
      exact ih

theorem grows_makeOne (h : fs.makeOne p = .ok fs') : Grows fs fs' := by
  unfold makeOne at h
  split at h
  · simp at h
  · split at h
    · cases h
      exact .refl
    · simp at h
    · rename_i hnone
      split at h
      · cases h
        exact Grows.refl.folder hnone
      · simp at h
      · simp at h

theorem grows_makeParts {root : String} {fuel : Nat} {parts : List String}
    (h : fs.makeParts root fuel parts = .ok fs') : Grows fs fs' := by
  induction fuel generalizing parts fs' with
  | zero =>
    unfold makeParts at h
    split at h
    · rename_i hone
      cases h
      exact grows_makeOne hone
    · simp_all
    · simp at h
  | succ fuel ih =>
    unfold makeParts at h
    split at h
    · rename_i hone
      cases h
      exact grows_makeOne hone
    · rename_i hmissing hfuel
      obtain rfl := Nat.succ.inj hfuel
      obtain ⟨fs₁, hparent, h⟩ := bind_eq_ok_iff.mp h
      split at h
      · rename_i hone
        cases h
        exact (ih hparent).trans (grows_makeOne hone)
      · exact absurd h throw_ne_ok
    · simp at h

/-- A text is put where its path leads, in place of another text or of nothing. -/
theorem exists_put_of_write (h : fs.write p text = .ok fs') : ∃ at_, fs.locate p = .ok at_ ∧
    fs.entryAt? at_ ≠ some .folder ∧ fs' = fs.put at_ (.file text) := by
  unfold write at h
  split at h
  · simp at h
  · rename_i at_ hlocate
    refine ⟨at_, hlocate, ?_⟩
    split at h
    · simp at h
    · rename_i hfile
      exact ⟨by simp [hfile], (Except.ok.inj h).symm⟩
    · rename_i hnone
      split at h
      · exact ⟨by simp [hnone], (Except.ok.inj h).symm⟩
      · simp at h
      · simp at h

theorem write_eq_ok (h : fs.write p text = .ok fs') :
    KeepsBut (p.place fs.working) fs fs' ∧ fs'.read p = .ok text := by
  obtain ⟨at_, hlocate, hfree, rfl⟩ := exists_put_of_write h
  have hkeeps : KeepsBut at_ fs (fs.put at_ (.file text)) := keepsBut_put hfree
  have hroot : at_ ≠ [] := fun h => hfree (by rw [h]; rfl)
  refine ⟨place_eq_of_locate hlocate ▸ hkeeps,
    read_eq_ok_iff.mpr ⟨at_, hkeeps.locate_eq_ok hlocate, ?_⟩⟩
  rw [entryAt?_put fs hroot, if_pos rfl]

/-- A text that is written with the folders that it needs is read from its path, and the files at other
locations are kept. -/
theorem withFile_eq_ok (h : fs.withFile p text = .ok fs') :
    KeepsBut (p.place fs.working) fs fs' ∧ fs'.read p = .ok text := by
  obtain ⟨fs₁, hfolder, hwrite⟩ := bind_eq_ok_iff.mp h
  have hmade : ∀ spot, KeepsBut spot fs fs₁ := fun _ => (grows_makeParts hfolder).keepsBut
  obtain ⟨hkeeps, hread⟩ := write_eq_ok hwrite
  rw [(hmade []).working_eq] at hkeeps
  exact ⟨(hmade _).trans hkeeps, hread⟩

/-- Where a text is not written, at most a folder is made. -/
theorem keptAt_of_withFile (h : fs.withFile p text = .ok fs') (hne : at_ ≠ p.place fs.working) :
    KeptAt at_ fs fs' := by
  obtain ⟨fs₁, hfolder, hwrite⟩ := bind_eq_ok_iff.mp h
  have hgrows : Grows fs fs₁ := grows_makeParts hfolder
  obtain ⟨spot, hlocate, hfree, rfl⟩ := exists_put_of_write hwrite
  have hroot : spot ≠ [] := fun h => hfree (by rw [h]; rfl)
  have hother : at_ ≠ spot := by
    have hkeeps : KeepsBut spot fs fs₁ := hgrows.keepsBut
    rw [place_eq_of_locate hlocate, hkeeps.working_eq]
    exact hne
  unfold KeptAt
  rw [entryAt?_put fs₁ hroot, if_neg hother]
  exact hgrows.keptAt

theorem stopsWith_makeParts (fs : Files) (root : String) (fuel : Nat) (parts : List String) :
    StopsWith Fault.OfPath (fs.makeParts root fuel parts) := by
  induction fuel generalizing parts with
  | zero =>
    unfold makeParts
    split
    · exact .ok _
    · simp_all
    · exact .error (.path _ _)
  | succ fuel ih =>
    unfold makeParts
    split
    · exact .ok _
    · rename_i hfuel
      obtain rfl := Nat.succ.inj hfuel
      refine (ih _).bind fun fs => ?_
      split
      · exact .ok _
      · exact .error (.path _ _)
    · exact .error (.path _ _)

theorem stopsWith_write (fs : Files) (p : Path) (text : String) :
    StopsWith Fault.OfPath (fs.write p text) := by
  unfold write
  split
  · exact .error (.path _ _)
  · split
    · exact .error (.path _ _)
    · exact .ok _
    · split
      · exact .ok _
      · exact .error (.path _ _)
      · exact .error (.path _ _)

/-- Writing a file stops with a fault of a path at most. -/
theorem stopsWith_withFile (fs : Files) (p : Path) (text : String) :
    StopsWith Fault.OfPath (fs.withFile p text) :=
  (stopsWith_makeParts _ _ _ _).bind fun _ => stopsWith_write _ _ _

end Files

end WarehouseSchema
