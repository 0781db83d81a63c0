import WarehouseSchema.Proofs.Outcome
import WarehouseSchema.Value

/-!
Integers that are too long to be read or written, and values that are nested too deeply to be written. Main
statements: a value is written, or stopped at the first obstacle on the way through it; without integers
that are too long there is an obstacle exactly when the value is too deep.
-/

namespace WarehouseSchema

open Text Number

/-- A text without a run of digits that is too long to be read. -/
def ShortRuns (cs : List Char) : Prop :=
  ∀ run, run <:+: cs → (∀ c ∈ run, isDigit c = true) → run.length ≤ digitLimit

theorem ShortRuns.infix {cs part : List Char} (h : ShortRuns cs) (hp : part <:+: cs) :
    ShortRuns part :=
  fun run hr hd => h run (hr.trans hp) hd

theorem ShortRuns.of_length_le {cs : List Char} (h : cs.length ≤ digitLimit) : ShortRuns cs :=
  fun _ hr _ => Nat.le_trans hr.length_le h

namespace Value

mutual

/-- Neither an integer nor a run of digits in the value is too long. -/
def WithinLimit : Value → Prop
  | .int n => (natText n.natAbs).length ≤ digitLimit
  | .text s => ShortRuns s.toList
  | .list items | .tuple items | .set items => AllWithinLimit items
  | .map entries => EntriesWithinLimit entries
  | .null | .bool _ | .float _ | .date _ | .moment _ | .octets _ => True

def AllWithinLimit : List Value → Prop
  | [] => True
  | v :: vs => WithinLimit v ∧ AllWithinLimit vs

def EntriesWithinLimit : List (Value × Value) → Prop
  | [] => True
  | (k, v) :: rest => WithinLimit k ∧ WithinLimit v ∧ EntriesWithinLimit rest

end

theorem writeInt_eq_ok_iff {n : Int} {s : String} :
    writeInt n = .ok s ↔ (natText n.natAbs).length ≤ digitLimit ∧ s = intText n := by
  unfold writeInt
  split
  · rename_i hlong
    constructor
    · exact fun h => absurd h throw_ne_ok
    · rintro ⟨hshort, _⟩
      omega
  · rename_i hshort
    rw [pure_eq_ok_iff]
    constructor
    · exact fun h => ⟨by omega, h.symm⟩
    · exact fun h => h.2.symm

theorem writeInt_of_le {n : Int} (h : (natText n.natAbs).length ≤ digitLimit) :
    writeInt n = .ok (intText n) := writeInt_eq_ok_iff.mpr ⟨h, rfl⟩

theorem eq_of_writeInt {n : Int} {s : String} (h : writeInt n = .ok s) : s = intText n :=
  (writeInt_eq_ok_iff.mp h).2

mutual

/-- The count of nested values, the outermost one included; a set lies in a list. -/
def depth : Value → Nat
  | .list items | .tuple items => depthOfItems items + 1
  | .set items => if items.isEmpty then 1 else depthOfItems items + 2
  | .map entries => depthOfEntries entries + 1
  | .null | .bool _ | .int _ | .float _ | .text _ | .date _ | .moment _ | .octets _ => 1

def depthOfItems : List Value → Nat
  | [] => 0
  | v :: vs => max (depth v) (depthOfItems vs)

def depthOfEntries : List (Value × Value) → Nat
  | [] => 0
  | (k, v) :: rest => max (max (depth k) (depth v)) (depthOfEntries rest)

end

theorem depth_pos (v : Value) : 1 ≤ v.depth := by
  cases v with
  | list items | tuple items | map entries => exact Nat.le_add_left 1 _
  | set items =>
    rw [depth]
    split <;> omega
  | _ => exact Nat.le_refl 1

mutual

/-- The first obstacle on the way through a value for which `room` levels are left. -/
def obstacleWithin (room : Nat) (v : Value) : Option Obstacle :=
  match room, v with
  | 0, _ => some .deep
  | _ + 1, .int n => if digitLimit < (natText n.natAbs).length then some .long else none
  | room + 1, .list items | room + 1, .tuple items => itemsObstacle room items
  | room + 1, .set items => itemsObstacle (room - 1) items
  | room + 1, .map entries => entriesObstacle room entries
  | _ + 1, .null | _ + 1, .bool _ | _ + 1, .float _ | _ + 1, .text _ | _ + 1, .date _
  | _ + 1, .moment _ | _ + 1, .octets _ => none

def itemsObstacle (room : Nat) : List Value → Option Obstacle
  | [] => none
  | v :: vs => (obstacleWithin room v).or (itemsObstacle room vs)

def entriesObstacle (room : Nat) : List (Value × Value) → Option Obstacle
  | [] => none
  | (k, v) :: rest =>
    (obstacleWithin room k).or ((obstacleWithin room v).or (entriesObstacle room rest))

end

def obstacle? (v : Value) : Option Obstacle := v.obstacleWithin depthLimit

def Writable (v : Value) : Prop := v.obstacle? = none

theorem obstacle?_null : Value.null.obstacle? = none := by
  rw [obstacle?, depthLimit, obstacleWithin]

theorem obstacle?_text (s : String) : (Value.text s).obstacle? = none := by
  rw [obstacle?, depthLimit, obstacleWithin]

theorem obstacleOf_writeInt (n : Int) : obstacleOf (TextFault.ofNumeral (writeInt n)) =
    if digitLimit < (natText n.natAbs).length then some .long else none := by
  unfold writeInt
  split
  · rfl
  · rfl

mutual

/-- A value is written up to its first obstacle. -/
theorem obstacleOf_literalWithin : ∀ (room : Nat) (v : Value),
    obstacleOf (v.literalWithin room) = v.obstacleWithin room
  | 0, v => by
    rw [literalWithin.eq_def, obstacleWithin.eq_def]
    rfl
  | _ + 1, .int n => by
    rw [literalWithin, obstacleWithin]
    exact obstacleOf_writeInt n
  | room + 1, .list items | room + 1, .tuple items => by
    rw [literalWithin, obstacleWithin, obstacleOf_bind_pure]
    exact obstacleOf_literalsWithin room items
  | room + 1, .set items => by
    rw [literalWithin, obstacleWithin, obstacleOf_bind_pure]
    exact obstacleOf_literalsWithin (room - 1) items
  | room + 1, .map entries => by
    rw [literalWithin, obstacleWithin, obstacleOf_bind_pure]
    exact obstacleOf_entryLiteralsWithin room entries
  | _ + 1, .null | _ + 1, .bool _ | _ + 1, .float _ | _ + 1, .text _ | _ + 1, .date _
  | _ + 1, .moment _ | _ + 1, .octets _ => by
    rw [literalWithin, obstacleWithin, obstacleOf_pure]

theorem obstacleOf_literalsWithin : ∀ (room : Nat) (vs : List Value),
    obstacleOf (literalsWithin room vs) = itemsObstacle room vs
  | _, [] => by rw [literalsWithin, itemsObstacle, obstacleOf_pure]
  | room, v :: vs => by
    rw [literalsWithin, itemsObstacle, ← obstacleOf_literalWithin room v,
      ← obstacleOf_literalsWithin room vs]
    refine obstacleOf_bind fun _ => ?_
    exact obstacleOf_bind_pure

theorem obstacleOf_entryLiteralsWithin : ∀ (room : Nat) (es : List (Value × Value)),
    obstacleOf (entryLiteralsWithin room es) = entriesObstacle room es
  | _, [] => by rw [entryLiteralsWithin, entriesObstacle, obstacleOf_pure]
  | room, (k, v) :: rest => by
    rw [entryLiteralsWithin, entriesObstacle, ← obstacleOf_literalWithin room k,
      ← obstacleOf_literalWithin room v, ← obstacleOf_entryLiteralsWithin room rest]
    refine obstacleOf_bind fun _ => obstacleOf_bind fun _ => ?_
    exact obstacleOf_bind_pure

end

theorem obstacleOf_literal (v : Value) : obstacleOf v.literal = v.obstacle? :=
  obstacleOf_literalWithin depthLimit v

theorem obstacleOf_display (v : Value) : obstacleOf v.display = v.obstacle? := by
  cases v with
  | text s => rfl
  | date d => rfl
  | moment m => rfl
  | _ => exact obstacleOf_literal _

theorem exists_display_iff {v : Value} : (∃ s, v.display = .ok s) ↔ v.Writable := by
  rw [← obstacleOf_eq_none_iff, obstacleOf_display, Writable]

theorem stopsAt_writeInt {n : Int} {o : Obstacle} (h : (Value.int n).obstacle? = some o) :
    StopsAt o (Fault.ofNumeral (writeInt n)) := by
  rw [← Fault.ofText_ofNumeral]
  exact stopsAt_ofText ((obstacleOf_literal (.int n)).trans h)

theorem stopsAt_display {v : Value} {o : Obstacle} (h : v.obstacle? = some o) :
    StopsAt o (Fault.ofText v.display) := stopsAt_ofText ((obstacleOf_display v).trans h)

theorem writable_int_iff {n : Int} :
    (Value.int n).Writable ↔ (natText n.natAbs).length ≤ digitLimit := by
  rw [Writable, obstacle?, depthLimit, obstacleWithin]
  simp

mutual

/-- Among integers that are not too long the only obstacle is the depth. -/
theorem obstacleWithin_eq_none_iff : ∀ (room : Nat) (v : Value), v.WithinLimit →
    (v.obstacleWithin room = none ↔ v.depth ≤ room)
  | 0, v, _ => by
    have hpos := v.depth_pos
    rw [obstacleWithin.eq_def]
    exact iff_of_false (by simp) (by omega)
  | _ + 1, .int n, h => by
    rw [WithinLimit] at h
    rw [obstacleWithin, depth, if_neg (by omega)]
    exact iff_of_true rfl (by omega)
  | room + 1, .list items, h | room + 1, .tuple items, h => by
    rw [WithinLimit] at h
    rw [obstacleWithin, depth, itemsObstacle_eq_none_iff room items h]
    omega
  | room + 1, .set items, h => by
    rw [WithinLimit] at h
    rw [obstacleWithin, depth, itemsObstacle_eq_none_iff (room - 1) items h]
    cases items with
    | nil => simp [depthOfItems]
    | cons v vs =>
      have hpos : 1 ≤ depthOfItems (v :: vs) := by
        rw [depthOfItems]
        exact Nat.le_trans v.depth_pos (Nat.le_max_left _ _)
      simp only [List.isEmpty_cons, Bool.false_eq_true, if_false]
      omega
  | room + 1, .map entries, h => by
    rw [WithinLimit] at h
    rw [obstacleWithin, depth, entriesObstacle_eq_none_iff room entries h]
    omega
  | _ + 1, .null, _ | _ + 1, .bool _, _ | _ + 1, .float _, _ | _ + 1, .text _, _ | _ + 1, .date _, _
  | _ + 1, .moment _, _ | _ + 1, .octets _, _ => by
    rw [obstacleWithin, depth]
    exact iff_of_true rfl (by omega)

theorem itemsObstacle_eq_none_iff : ∀ (room : Nat) (vs : List Value), AllWithinLimit vs →
    (itemsObstacle room vs = none ↔ depthOfItems vs ≤ room)
  | _, [], _ => by simp [itemsObstacle, depthOfItems]
  | room, v :: vs, h => by
    rw [AllWithinLimit] at h
    rw [itemsObstacle, depthOfItems, Option.or_eq_none_iff, obstacleWithin_eq_none_iff room v h.1,
      itemsObstacle_eq_none_iff room vs h.2, Nat.max_le]

theorem entriesObstacle_eq_none_iff : ∀ (room : Nat) (es : List (Value × Value)),
    EntriesWithinLimit es → (entriesObstacle room es = none ↔ depthOfEntries es ≤ room)
  | _, [], _ => by simp [entriesObstacle, depthOfEntries]
  | room, (k, v) :: rest, h => by
    rw [EntriesWithinLimit] at h
    rw [entriesObstacle, depthOfEntries, Option.or_eq_none_iff, Option.or_eq_none_iff,
      obstacleWithin_eq_none_iff room k h.1, obstacleWithin_eq_none_iff room v h.2.1,
      entriesObstacle_eq_none_iff room rest h.2.2, Nat.max_le, Nat.max_le, and_assoc]

end

theorem writable_iff_of_withinLimit {v : Value} (h : v.WithinLimit) :
    v.Writable ↔ v.depth ≤ depthLimit := obstacleWithin_eq_none_iff depthLimit v h

end Value

end WarehouseSchema
