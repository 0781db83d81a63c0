import Mathlib.Data.List.Forall2
import WarehouseSchema.Fault

/-!
Operations that give a result or stop with a fault. What an operation made of parts gives is told by
what its parts give, and what is found in a table is an entry of it.
-/

namespace WarehouseSchema

open Number

section
variable {ε α β : Type}

theorem mem_of_lookup [BEq α] [LawfulBEq α] {entries : List (α × β)} {a : α} {b : β}
    (h : entries.lookup a = some b) : (a, b) ∈ entries := by
  obtain ⟨before, after, rfl, -⟩ := List.lookup_eq_some_iff.mp h
  exact List.mem_append_right before List.mem_cons_self

theorem bind_eq_ok_iff {x : Except ε α} {f : α → Except ε β} {b : β} :
    (x >>= f) = .ok b ↔ ∃ a, x = .ok a ∧ f a = .ok b := by
  cases x with
  | error e => simp [Bind.bind, Except.bind]
  | ok a => simp [Bind.bind, Except.bind]

theorem bind_eq_error_iff {x : Except ε α} {f : α → Except ε β} {e : ε} :
    (x >>= f) = .error e ↔ x = .error e ∨ ∃ a, x = .ok a ∧ f a = .error e := by
  cases x with
  | error e' => simp [Bind.bind, Except.bind]
  | ok a => simp [Bind.bind, Except.bind]

theorem pure_eq_ok_iff {a b : α} : (pure a : Except ε α) = .ok b ↔ a = b := by
  simp [pure, Except.pure]

theorem eq_ok_of_toOption {x : Except ε α} {a : α} (h : x.toOption = some a) : x = .ok a := by
  cases x with
  | error e => exact absurd h (by simp [Except.toOption])
  | ok a' => exact congrArg Except.ok (Option.some.inj h)

theorem throw_ne_ok {e : ε} {a : α} : (throw e : Except ε α) ≠ .ok a := by
  simp [throw, throwThe, MonadExceptOf.throw]

theorem pure_ne_error {a : α} {e : ε} : (pure a : Except ε α) ≠ .error e := by
  simp [pure, Except.pure]

@[simp] theorem ok_bind (a : α) (f : α → Except ε β) : (Except.ok a >>= f) = f a := rfl

/-- A traversal succeeds with the results of its items, in order. -/
theorem mapM_eq_ok_iff {f : α → Except ε β} {xs : List α} {ys : List β} :
    xs.mapM f = .ok ys ↔ List.Forall₂ (fun x y => f x = .ok y) xs ys := by
  induction xs generalizing ys with
  | nil =>
    rw [List.mapM_nil, pure_eq_ok_iff, List.forall₂_nil_left_iff]
    exact eq_comm
  | cons x xs ih =>
    rw [List.mapM_cons, List.forall₂_cons_left_iff]
    simp only [bind_eq_ok_iff, pure_eq_ok_iff, ih]
    constructor
    · rintro ⟨y, hy, rest, hrest, rfl⟩
      exact ⟨y, rest, hy, hrest, rfl⟩
    · rintro ⟨y, rest, hy, hrest, rfl⟩
      exact ⟨y, hy, rest, hrest, rfl⟩

theorem exists_mapM_eq_ok {f : α → Except ε β} {xs : List α} (h : ∀ x ∈ xs, ∃ y, f x = .ok y) :
    ∃ ys, xs.mapM f = .ok ys := by
  induction xs with
  | nil => exact ⟨[], mapM_eq_ok_iff.mpr .nil⟩
  | cons x xs ih =>
    obtain ⟨y, hy⟩ := h x List.mem_cons_self
    obtain ⟨ys, hys⟩ := ih fun x' hx => h x' (List.mem_cons_of_mem x hx)
    exact ⟨y :: ys, mapM_eq_ok_iff.mpr (.cons hy (mapM_eq_ok_iff.mp hys))⟩

theorem exists_of_mapM {f : α → Except ε β} {xs : List α} {ys : List β} {x : α}
    (h : xs.mapM f = .ok ys) (hx : x ∈ xs) : ∃ y, f x = .ok y := by
  induction mapM_eq_ok_iff.mp h with
  | nil => exact absurd hx (by simp)
  | cons hfirst hrest ih =>
    rcases List.mem_cons.mp hx with rfl | hx
    · exact ⟨_, hfirst⟩
    · exact ih (mapM_eq_ok_iff.mpr hrest) hx

/-- A traversal stops at the first item that does. -/
theorem mapM_eq_error_iff {f : α → Except ε β} {xs : List α} {e : ε} :
    xs.mapM f = .error e ↔ ∃ before x after, xs = before ++ x :: after ∧
      (∀ y ∈ before, ∃ b, f y = .ok b) ∧ f x = .error e := by
  induction xs with
  | nil => simp [pure_ne_error]
  | cons x xs ih =>
    simp only [List.mapM_cons, bind_eq_error_iff, pure_ne_error, and_false, exists_false, or_false,
      ih]
    constructor
    · rintro (hx | ⟨b, hb, before, y, after, rfl, hbefore, hy⟩)
      · exact ⟨[], x, xs, rfl, by simp, hx⟩
      · refine ⟨x :: before, y, after, rfl, ?_, hy⟩
        intro z hz
        rcases List.mem_cons.mp hz with rfl | hz
        · exact ⟨b, hb⟩
        · exact hbefore z hz
    · rintro ⟨before, y, after, hsplit, hbefore, hy⟩
      cases before with
      | nil =>
        obtain ⟨rfl, rfl⟩ := List.cons.inj hsplit
        exact Or.inl hy
      | cons z before =>
        obtain ⟨rfl, rfl⟩ := List.cons.inj hsplit
        obtain ⟨b, hb⟩ := hbefore x List.mem_cons_self
        refine Or.inr ⟨b, hb, before, y, after, rfl, ?_, hy⟩
        exact fun z hz => hbefore z (List.mem_cons_of_mem x hz)

/-- The result of each item is among those of a traversal. -/
theorem mem_of_mapM {f : α → Except ε β} {xs : List α} {ys : List β} {x : α} {y : β}
    (h : xs.mapM f = .ok ys) (hx : x ∈ xs) (hy : f x = .ok y) : y ∈ ys := by
  induction mapM_eq_ok_iff.mp h with
  | nil => exact absurd hx (by simp)
  | cons hfirst hrest ih =>
    rcases List.mem_cons.mp hx with rfl | hx
    · rw [hfirst] at hy
      obtain rfl := Except.ok.inj hy
      exact List.mem_cons_self
    · exact List.mem_cons_of_mem _ (ih (mapM_eq_ok_iff.mpr hrest) hx)

/-- Each result of a traversal is the result of an item. -/
theorem exists_of_mem_mapM {f : α → Except ε β} {xs : List α} {ys : List β} {y : β}
    (h : xs.mapM f = .ok ys) (hy : y ∈ ys) : ∃ x ∈ xs, f x = .ok y := by
  induction mapM_eq_ok_iff.mp h with
  | nil => exact absurd hy (by simp)
  | cons hx hrest ih =>
    rcases List.mem_cons.mp hy with rfl | hy
    · exact ⟨_, List.mem_cons_self, hx⟩
    · obtain ⟨x, hm, hfx⟩ := ih (mapM_eq_ok_iff.mpr hrest) hy
      exact ⟨x, List.mem_cons_of_mem _ hm, hfx⟩

end

theorem DefinitionFault.raise_ne_ok {α : Type} (fault : DefinitionFault) (a : α) :
    fault.raise ≠ .ok a := by
  unfold raise
  split <;> simp

theorem Fault.ofNumeral_eq_ok_iff {α : Type} {r : Except NumeralFault α} {a : α} :
    Fault.ofNumeral r = .ok a ↔ r = .ok a := by
  cases r <;> simp [ofNumeral]

theorem Fault.ofText_ofNumeral {α : Type} (r : Except NumeralFault α) :
    Fault.ofText (TextFault.ofNumeral r) = Fault.ofNumeral r := by
  cases r <;> rfl

theorem Fault.ofText_eq_ok_iff {α : Type} {r : Except TextFault α} {a : α} :
    Fault.ofText r = .ok a ↔ r = .ok a := by
  cases r <;> simp [ofText]

section
variable {α β : Type}

/-- The operation gives a result, or stops with a definition fault and no other. -/
def Definite (r : Except Fault α) : Prop :=
  (∃ a, r = .ok a) ∨ ∃ fault, r = .error (.definition fault)

theorem Definite.ok (a : α) : Definite (.ok a) := .inl ⟨a, rfl⟩

theorem Definite.bind {x : Except Fault α} {f : α → Except Fault β} (hx : Definite x)
    (hf : ∀ a, x = .ok a → Definite (f a)) : Definite (x >>= f) := by
  rcases hx with ⟨a, rfl⟩ | ⟨fault, rfl⟩
  · exact hf a rfl
  · exact .inr ⟨fault, rfl⟩

/-- The operation gives a result, or stops with such a fault. -/
def StopsWith (P : Fault → Prop) (r : Except Fault α) : Prop := ∀ fault, r = .error fault → P fault

variable {P : Fault → Prop}

theorem StopsWith.ok (a : α) : StopsWith P (.ok a) := fun _ h => absurd h (by simp)

theorem StopsWith.error {fault : Fault} (h : P fault) : StopsWith P (.error fault : Except Fault α) := by
  intro fault' hfault
  obtain rfl := Except.error.inj hfault
  exact h

theorem StopsWith.mono {Q : Fault → Prop} {r : Except Fault α} (h : StopsWith P r)
    (hmono : ∀ fault, P fault → Q fault) : StopsWith Q r := fun fault hfault => hmono fault (h fault hfault)

theorem StopsWith.bind {x : Except Fault α} {f : α → Except Fault β} (hx : StopsWith P x)
    (hf : ∀ a, StopsWith P (f a)) : StopsWith P (x >>= f) := by
  intro fault h
  rcases bind_eq_error_iff.mp h with h | ⟨a, _, h⟩
  · exact hx fault h
  · exact hf a fault h

theorem StopsWith.mapM {f : α → Except Fault β} (h : ∀ a, StopsWith P (f a)) (items : List α) :
    StopsWith P (items.mapM f) := by
  intro fault hfault
  obtain ⟨_, item, _, _, _, hitem⟩ := mapM_eq_error_iff.mp hfault
  exact h item fault hitem

theorem StopsWith.foldlM {f : β → α → Except Fault β} (h : ∀ b a, StopsWith P (f b a))
    (items : List α) (init : β) : StopsWith P (items.foldlM f init) := by
  induction items generalizing init with
  | nil => exact .ok init
  | cons a items ih =>
    rw [List.foldlM_cons]
    exact (h init a).bind ih

theorem DefinitionFault.raise_eq_error {fault : DefinitionFault} {text : String}
    (h : fault.message = .ok text) :
    (fault.raise : Except Fault α) = .error (.definition fault) := by
  rw [raise, h]

/-- What keeps an operation from a result: an integer that is too long to be read or written, or a value
that is nested too deeply to be written. -/
inductive Obstacle where
  | long
  | deep
  deriving DecidableEq, Repr

def TextFault.obstacle : TextFault → Obstacle
  | .numeral _ => .long
  | .tooDeep => .deep

/-- What kept a text from being written, if anything did. -/
def obstacleOf : Except TextFault α → Option Obstacle
  | .ok _ => none
  | .error fault => some fault.obstacle

theorem obstacleOf_pure (a : α) : obstacleOf (pure a : Except TextFault α) = none := rfl

theorem obstacleOf_bind {x : Except TextFault α} {f : α → Except TextFault β} {o : Option Obstacle}
    (h : ∀ a, obstacleOf (f a) = o) : obstacleOf (x >>= f) = (obstacleOf x).or o := by
  cases x with
  | ok a => exact h a
  | error fault => rfl

theorem obstacleOf_bind_pure {x : Except TextFault α} {g : α → β} :
    obstacleOf (x >>= fun a => pure (g a)) = obstacleOf x := by
  rw [obstacleOf_bind fun a => obstacleOf_pure (g a), Option.or_none]

theorem obstacleOf_eq_none_iff {x : Except TextFault α} : obstacleOf x = none ↔ ∃ a, x = .ok a := by
  cases x with
  | ok a => exact iff_of_true rfl ⟨a, rfl⟩
  | error fault => exact iff_of_false (by simp [obstacleOf]) (by simp)

/-- The operation stops at an obstacle. -/
def StopsAt (o : Obstacle) (r : Except Fault α) : Prop :=
  match o with
  | .long => ∃ fault, r = .error (.numeral fault)
  | .deep => r = .error .recursion

theorem StopsAt.bind {o : Obstacle} {x : Except Fault α} (h : StopsAt o x)
    (f : α → Except Fault β) : StopsAt o (x >>= f) := by
  cases o with
  | long =>
    obtain ⟨fault, rfl⟩ := h
    exact ⟨fault, rfl⟩
  | deep =>
    obtain rfl := h
    exact rfl

theorem StopsAt.not_definite {o : Obstacle} {r : Except Fault α} (h : StopsAt o r) :
    ¬ Definite r := by
  cases o with
  | long =>
    obtain ⟨fault, rfl⟩ := h
    rintro (⟨a, ha⟩ | ⟨fault', hfault⟩)
    · exact absurd ha (by simp)
    · exact absurd hfault (by simp)
  | deep =>
    obtain rfl := h
    rintro (⟨a, ha⟩ | ⟨fault, hfault⟩)
    · exact absurd ha (by simp)
    · exact absurd hfault (by simp)

/-- An operation stops at one obstacle only. -/
theorem StopsAt.unique {o o' : Obstacle} {r : Except Fault α} (h : StopsAt o r)
    (h' : StopsAt o' r) : o = o' := by
  cases o <;> cases o'
  · rfl
  · obtain ⟨fault, rfl⟩ := h
    exact absurd (Except.error.inj h') (by simp)
  · obtain ⟨fault, rfl⟩ := h'
    exact absurd (Except.error.inj h) (by simp)
  · rfl

theorem stopsAt_ofNumeral {r : Except NumeralFault α} (h : ¬ ∃ a, r = .ok a) :
    StopsAt .long (Fault.ofNumeral r) := by
  cases r with
  | ok a => exact absurd ⟨a, rfl⟩ h
  | error fault => exact ⟨fault, rfl⟩

theorem stopsAt_ofTextFault (fault : TextFault) :
    StopsAt fault.obstacle (.error (.ofTextFault fault) : Except Fault α) := by
  cases fault with
  | numeral fault => exact ⟨fault, rfl⟩
  | tooDeep => exact rfl

theorem definite_ofText {r : Except TextFault α} (h : obstacleOf r = none) :
    Definite (Fault.ofText r) := by
  obtain ⟨a, rfl⟩ := obstacleOf_eq_none_iff.mp h
  exact .ok a

theorem stopsAt_ofText {r : Except TextFault α} {o : Obstacle} (h : obstacleOf r = some o) :
    StopsAt o (Fault.ofText r) := by
  cases r with
  | ok a => exact absurd h (by simp [obstacleOf])
  | error fault =>
    obtain rfl := Option.some.inj h
    exact stopsAt_ofTextFault fault

theorem DefinitionFault.definite_raise {fault : DefinitionFault} (h : obstacleOf fault.message = none) :
    Definite (fault.raise : Except Fault α) := by
  obtain ⟨text, htext⟩ := obstacleOf_eq_none_iff.mp h
  exact .inr ⟨fault, raise_eq_error htext⟩

theorem DefinitionFault.stopsAt_raise {fault : DefinitionFault} {o : Obstacle}
    (h : obstacleOf fault.message = some o) : StopsAt o (fault.raise : Except Fault α) := by
  unfold raise
  cases hmessage : fault.message with
  | ok s => exact absurd h (by simp [hmessage, obstacleOf])
  | error unwritten =>
    rw [hmessage] at h
    obtain rfl := Option.some.inj h
    exact stopsAt_ofTextFault unwritten

end

end WarehouseSchema
