import WarehouseSchema.Proofs.Yaml.Scalar
import WarehouseSchema.Yaml.Document

/-!
Values of nodes whose scalars fit. When every scalar fits its tag, and every mapping stands for a
collection, making the value of a node gives it or stops with a fault of YAML, on whatever level.
-/

namespace WarehouseSchema.Yaml

namespace Made

variable {α β : Type}

/-- The value is made, or is refused with a fault of YAML. -/
def Regular (m : Made α) : Prop := ∀ level fault, m = .error (level, fault) → fault.OfYaml

theorem regular_ok (a : α) : Regular (.ok a : Made α) := fun _ _ h => absurd h (by simp)

theorem regular_refuse : Regular (refuse : Made α) := by
  intro level fault h
  obtain ⟨_, rfl⟩ := Prod.mk.inj (Except.error.inj h)
  exact .yaml _

theorem regular_ofExcept {r : Except Fault α} (h : StopsWith Fault.OfYaml r) :
    Regular (ofExcept r) := by
  intro level fault hfault
  cases r with
  | ok a => exact absurd hfault (by simp [ofExcept])
  | error fault' =>
    obtain ⟨_, rfl⟩ := Prod.mk.inj (Except.error.inj hfault)
    exact h _ rfl

theorem Regular.deeper {m : Made α} (h : Regular m) : Regular m.deeper := by
  intro level fault hfault
  cases m with
  | ok a => exact absurd hfault (by simp [Made.deeper])
  | error e =>
    obtain ⟨inner, fault'⟩ := e
    obtain ⟨_, rfl⟩ := Prod.mk.inj (Except.error.inj hfault)
    exact h inner _ rfl

theorem Regular.map {m : Made α} (h : Regular m) (f : α → β) : Regular (m.map f) := by
  intro level fault hfault
  cases m with
  | ok a => exact absurd hfault (by simp [Made.map])
  | error e => exact h level fault (congrArg Except.error (Except.error.inj hfault))

theorem Regular.both {m : Made α} {m' : Made β} (h : Regular m) (h' : Regular m') :
    Regular (Made.both m m') := by
  intro level fault hfault
  cases m with
  | ok a =>
    cases m' with
    | ok b => exact absurd hfault (by simp [Made.both])
    | error e => exact h' level fault (congrArg Except.error (Except.error.inj hfault))
  | error e =>
    cases m' with
    | ok b => exact h level fault (congrArg Except.error (Except.error.inj hfault))
    | error e' =>
      obtain ⟨i, left⟩ := e
      obtain ⟨j, right⟩ := e'
      unfold Made.both at hfault
      dsimp only at hfault
      split at hfault
      · exact h' level fault (congrArg Except.error (Except.error.inj hfault))
      · exact h level fault (congrArg Except.error (Except.error.inj hfault))

end Made

theorem Tag.fits_of_isCollection {tag : Tag} (h : tag.isCollection = true) (s : String) :
    tag.Fits s := by
  cases tag with
  | sequence => trivial
  | pairs => trivial
  | set => trivial
  | mapping => trivial
  | _ => exact absurd h (by simp [Tag.isCollection])

namespace Node

mutual

/-- Every scalar fits its tag, and every mapping stands for a collection. -/
def Fits : Node → Prop
  | .scalar tag text => tag.Fits text
  | .sequence _ items => ItemsFit items
  | .mapping tag entries => tag.isCollection = true ∧ EntriesFit entries

def ItemsFit : List Node → Prop
  | [] => True
  | n :: rest => Fits n ∧ ItemsFit rest

def EntriesFit : List (Node × Node) → Prop
  | [] => True
  | (key, value) :: rest => (Fits key ∧ Fits value) ∧ EntriesFit rest

end

mutual

theorem regular_make (n : Node) (h : n.Fits) : n.make.Regular := by
  match n with
  | .scalar tag text =>
    unfold make
    exact Made.regular_ofExcept (stopsWith_readScalar h)
  | .sequence tag items =>
    unfold make
    split
    · exact (regular_makeItems items h).map _
    · exact (regular_makePairs items h).map _
    · exact Made.regular_refuse
  | .mapping tag entries =>
    obtain ⟨htag, hentries⟩ := h
    unfold make
    split
    · exact (regular_makeMapping entries hentries).map _
    · exact (regular_makeMapping entries hentries).map _
    · exact absurd htag (by simp [Tag.isCollection])
    · split
      · exact Made.regular_ofExcept (stopsWith_readScalar (Tag.fits_of_isCollection htag _))
      · exact Made.regular_refuse

theorem regular_makeChild (n : Node) (h : n.Fits) : n.makeChild.Regular := by
  unfold makeChild
  split
  · exact (regular_make n h).deeper
  · exact regular_make n h

theorem regular_makeItems (items : List Node) (h : ItemsFit items) : (makeItems items).Regular := by
  match items with
  | [] =>
    unfold makeItems
    exact Made.regular_ok _
  | n :: rest =>
    unfold makeItems
    exact ((regular_makeChild n h.1).both (regular_makeItems rest h.2)).map _

theorem regular_makePairs (items : List Node) (h : ItemsFit items) : (makePairs items).Regular := by
  match items with
  | [] =>
    unfold makePairs
    exact Made.regular_ok _
  | .mapping _ [(key, value)] :: rest =>
    obtain ⟨⟨_, ⟨hkey, hvalue⟩, _⟩, hrest⟩ := h
    unfold makePairs
    exact (((regular_makeChild key hkey).both (regular_makeChild value hvalue)).both
      (regular_makePairs rest hrest)).map _
  | .mapping _ [] :: _ =>
    unfold makePairs
    exact Made.regular_refuse
  | .mapping _ (_ :: _ :: _) :: _ =>
    unfold makePairs
    exact Made.regular_refuse
  | .scalar _ _ :: _ =>
    unfold makePairs
    exact Made.regular_refuse
  | .sequence _ _ :: _ =>
    unfold makePairs
    exact Made.regular_refuse

theorem regular_makeMapping (entries : List (Node × Node)) (h : EntriesFit entries) :
    (makeMapping entries).Regular := by
  unfold makeMapping
  split
  · exact (regular_makeEntries entries h).map _
  · exact Made.regular_refuse

theorem regular_makeKey (n : Node) (h : n.Fits) : n.makeKey.Regular := by
  unfold makeKey
  split
  · exact Made.regular_refuse
  · split
    · split
      · exact Made.regular_ok _
      · exact Made.regular_refuse
    · exact regular_make n h

theorem regular_makeEntries (entries : List (Node × Node)) (h : EntriesFit entries) :
    (makeEntries entries).Regular := by
  match entries with
  | [] =>
    unfold makeEntries
    exact Made.regular_ok _
  | (key, value) :: rest =>
    obtain ⟨⟨hkey, hvalue⟩, hrest⟩ := h
    unfold makeEntries
    split
    · exact ((regular_makeSource value hvalue).both (regular_makeEntries rest hrest)).map _
    · exact (((regular_makeKey key hkey).both (regular_makeChild value hvalue)).both
        (regular_makeEntries rest hrest)).map _

theorem regular_makeSource (n : Node) (h : n.Fits) : n.makeSource.Regular := by
  match n with
  | .mapping _ entries =>
    unfold makeSource
    exact (regular_makeEntries entries h.2).map _
  | .sequence _ items =>
    unfold makeSource
    exact regular_makeSources items h
  | .scalar _ _ =>
    unfold makeSource
    exact Made.regular_refuse

theorem regular_makeSources (items : List Node) (h : ItemsFit items) :
    (makeSources items).Regular := by
  match items with
  | [] =>
    unfold makeSources
    exact Made.regular_ok _
  | .mapping _ entries :: rest =>
    unfold makeSources
    exact ((regular_makeEntries entries h.1.2).both (regular_makeSources rest h.2)).map _
  | .scalar _ _ :: _ =>
    unfold makeSources
    exact Made.regular_refuse
  | .sequence _ _ :: _ =>
    unfold makeSources
    exact Made.regular_refuse

end

end Node

end WarehouseSchema.Yaml
