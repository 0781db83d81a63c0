import WarehouseSchema.Proofs.Storage.Place
import WarehouseSchema.Proofs.Text.Cutting

/-!
Folders of paths. What a text says before its last slash is the path of a folder, and what it says behind it is
a name in that folder. Main statement: the path of a text leads to the place of its name in the place of its
folder.
-/

namespace WarehouseSchema

open Text

namespace Text

/-- The text up to its last slash, and with it. -/
def upToSlash (cs : List Char) : List Char := dropEndWhile (· != '/') cs

theorem exists_upToSlash (cs : List Char) :
    ∃ name, '/' ∉ name ∧ cs = upToSlash cs ++ name := by
  obtain ⟨name, hname, heq⟩ := exists_append_dropEndWhile (· != '/') cs
  refine ⟨name, ?_, heq.symm⟩
  intro hslash
  exact absurd (hname '/' hslash) (by decide)

theorem upToSlash_append (cs : List Char) {name : List Char} (h : '/' ∉ name) :
    upToSlash (cs ++ name) = upToSlash cs := by
  apply dropEndWhile_append_all
  intro c hc
  have hne : c ≠ '/' := fun he => h (he ▸ hc)
  simpa using hne

theorem upToSlash_of_not_mem {cs : List Char} (h : '/' ∉ cs) : upToSlash cs = [] := by
  have hempty := upToSlash_append [] h
  rwa [List.nil_append] at hempty

theorem upToSlash_eq_nil_or (cs : List Char) :
    upToSlash cs = [] ∨ ∃ before, upToSlash cs = before ++ ['/'] := by
  rcases List.eq_nil_or_concat (upToSlash cs) with hnil | ⟨before, c, hlast⟩
  · exact Or.inl hnil
  · right
    have hslash : c = '/' := by
      unfold upToSlash at hlast
      rw [dropEndWhile_eq_rdropWhile] at hlast
      have hne : cs.rdropWhile (· != '/') ≠ [] := by simp [hlast]
      have hstop := List.rdropWhile_last_not (· != '/') cs hne
      simpa [hlast] using hstop
    rw [hlast, hslash]
    exact ⟨before, by simp⟩

end Text

namespace Path

/-- The folder in which a text has its last name. -/
def folderIn (s : String) : Path := ofText (String.ofList (upToSlash s.toList))

theorem rootOf_append {lead name : List Char} (hslash : '/' ∉ name) :
    rootOf (lead ++ name) = rootOf lead := by
  have hname : name.takeWhile (· == '/') = [] := by
    cases name with
    | nil => rfl
    | cons c name =>
      have hc : c ≠ '/' := fun he => hslash (by simp [he])
      simp [hc]
  have hrun : (lead ++ name).takeWhile (· == '/') = lead.takeWhile (· == '/') := by
    rw [List.takeWhile_append]
    split
    · rename_i hall
      have hsame : lead.takeWhile (· == '/') = lead :=
        (List.takeWhile_prefix _).eq_of_length hall
      rw [hname, hsame, List.append_nil]
    · rfl
  unfold rootOf
  rw [hrun]

theorem parts_append {lead name : List Char} (hlead : lead = [] ∨ ∃ before, lead = before ++ ['/'])
    (hslash : '/' ∉ name) (hempty : name ≠ []) (hdot : name ≠ ['.']) :
    (ofText (String.ofList (lead ++ name))).parts =
      (ofText (String.ofList lead)).parts ++ [String.ofList name] := by
  have hcounts : (String.ofList name != "" && String.ofList name != ".") = true := by
    have hne : String.ofList name ≠ "" := fun h => hempty (String.ofList_inj.mp h)
    have hne' : String.ofList name ≠ "." := fun h => hdot (String.ofList_inj.mp h)
    simp [hne, hne']
  unfold ofText
  rw [String.toList_ofList, String.toList_ofList]
  rcases hlead with rfl | ⟨before, rfl⟩
  · rw [List.nil_append, splitOn_of_not_mem hslash]
    simp [splitOn, hcounts]
  · rw [List.append_assoc, List.singleton_append, splitOn_append_sep, splitOn_append_sep,
      splitOn_of_not_mem hslash]
    simp [splitOn, hcounts]

/-- A path is its folder and its last name, unless that does not count. -/
theorem ofText_eq {s : String} {name : List Char} (hs : s.toList = upToSlash s.toList ++ name)
    (hslash : '/' ∉ name) (hempty : name ≠ []) (hdot : name ≠ ['.']) :
    ofText s = ⟨(folderIn s).root, (folderIn s).parts ++ [String.ofList name]⟩ := by
  have hparts := parts_append (upToSlash_eq_nil_or s.toList) hslash hempty hdot
  rw [← hs, String.ofList_toList] at hparts
  have hroot : (ofText s).root = (folderIn s).root := by
    unfold folderIn ofText
    rw [String.toList_ofList]
    have hroot : rootOf (upToSlash s.toList ++ name) = rootOf (upToSlash s.toList) :=
      rootOf_append hslash
    rwa [← hs] at hroot
  unfold folderIn at hroot ⊢
  rw [← hroot, ← hparts]

theorem folderIn_append (s : String) {suffix : String} (h : '/' ∉ suffix.toList) :
    folderIn (s ++ suffix) = folderIn s := by
  unfold folderIn
  rw [String.toList_append, upToSlash_append _ h]

theorem folderIn_of_not_mem {s : String} (h : '/' ∉ s.toList) : folderIn s = ⟨"", []⟩ := by
  unfold folderIn
  rw [upToSlash_of_not_mem h]
  rfl

theorem join_name (p folder : Path) (name : String) :
    p.join ⟨folder.root, folder.parts ++ [name]⟩ =
      ⟨(p.join folder).root, (p.join folder).parts ++ [name]⟩ := by
  have hsame : isAbsolute ⟨folder.root, folder.parts ++ [name]⟩ = folder.isAbsolute := rfl
  unfold join
  rw [hsame]
  by_cases habsolute : folder.isAbsolute = true
  · rw [if_pos habsolute, if_pos habsolute]
  · rw [if_neg habsolute, if_neg habsolute, List.append_assoc]

theorem join_eq_self_iff {p q : Path} :
    p.join q = p ↔ q = ⟨"", []⟩ ∨ q.isAbsolute = true ∧ q = p := by
  unfold join
  by_cases habsolute : q.isAbsolute = true
  · rw [if_pos habsolute]
    constructor
    · exact fun h => Or.inr ⟨habsolute, h⟩
    · rintro (rfl | ⟨_, h⟩)
      · exact absurd habsolute (by decide)
      · exact h
  · rw [if_neg habsolute]
    have hroot : q.root = "" := by simpa [isAbsolute] using habsolute
    cases p
    cases q
    simp_all

theorem along_append (here : Location) (names : List String) (name : String)
    (hname : name ≠ "..") : here.along (names ++ [name]) = here.along names ++ [name] := by
  induction names generalizing here with
  | nil => simp [Location.along, hname]
  | cons first names ih => exact ih _

theorem parent_name (p : Path) (name : String) : parent ⟨p.root, p.parts ++ [name]⟩ = p := by
  unfold parent
  rw [List.dropLast_concat]

/-- A name is placed in the place of its folder. -/
theorem place_name (p : Path) {name : String} (hname : name ≠ "..") (working : Location) :
    place ⟨p.root, p.parts ++ [name]⟩ working = p.place working ++ [name] :=
  along_append _ _ _ hname

end Path

end WarehouseSchema
