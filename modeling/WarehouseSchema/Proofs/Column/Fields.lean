import WarehouseSchema.Column.Catalog
import WarehouseSchema.Proofs.Definition.Taxonomy

/-!
Integers in the fields of a row. A row that holds nothing but nulls, truth values, numbers and texts has in
each field a blank, an integer, an infinite number or something that cannot be read as an integer.
-/

namespace WarehouseSchema

open Text Number

namespace Value

/-- A null, a truth value, a number or a text. -/
def Scalar : Value → Prop
  | .null | .bool _ | .int _ | .float _ | .text _ => True
  | _ => False

theorem Scalar.trimmed {v : Value} (h : v.Scalar) : v.trimmed.Scalar := by
  cases v with
  | text s => trivial
  | _ => exact h

/-- What does not hold other values is never too deep. -/
theorem Scalar.obstacle?_ne_deep {v : Value} (h : v.Scalar) : v.obstacle? ≠ some .deep := by
  cases v with
  | int n =>
    rw [obstacle?, depthLimit, obstacleWithin]
    split <;> simp
  | null | bool _ | float _ | text _ =>
    rw [obstacle?, depthLimit, obstacleWithin]
    simp
  | _ => exact h.elim

/-- Only an integer can be too long. -/
theorem Scalar.eq_int {v : Value} (h : v.Scalar) (hlong : ¬ v.Writable) : ∃ n, v = .int n := by
  cases v with
  | int n => exact ⟨n, rfl⟩
  | null | bool _ | float _ | text _ =>
    exact absurd (by rw [Writable, obstacle?, depthLimit, obstacleWithin]) hlong
  | _ => exact h.elim

theorem Scalar.obstacle?_eq_long {v : Value} (h : v.Scalar) (hlong : ¬ v.Writable) :
    v.obstacle? = some .long := by
  rw [Writable, ← ne_eq, Option.ne_none_iff_exists'] at hlong
  obtain ⟨o, ho⟩ := hlong
  cases o with
  | long => exact ho
  | deep => exact absurd ho h.obstacle?_ne_deep

theorem Scalar.canBeKey {v : Value} (h : v.Scalar) : v.canBeKey = true := by
  cases v with
  | null | bool _ | int _ | float _ | text _ => simp [Value.canBeKey]
  | _ => exact h.elim

theorem int_isTruthy {n : Int} (hlong : ¬ (Value.int n).Writable) : (Value.int n).isTruthy = true := by
  have hne : n ≠ 0 := by
    rintro rfl
    exact hlong (writable_int_iff.mpr (by decide))
  exact decide_eq_true hne

theorem toInteger_eq_infinite_iff {v : Value} :
    v.toInteger = .error .infiniteInteger ↔ ∃ negative, v = .float (.infinite negative) := by
  constructor
  · intro h
    cases v with
    | float x =>
      cases x with
      | infinite negative => exact ⟨negative, rfl⟩
      | nan => exact absurd h (by simp [toInteger])
      | finite _ _ _ => exact absurd h (by simp [toInteger])
    | text s =>
      have hne : Fault.ofNumeral (readInt s) ≠ .error .infiniteInteger := by
        cases readInt s <;> simp [Fault.ofNumeral]
      exact absurd h hne
    | octets bytes =>
      have hne : ∀ s, Fault.ofNumeral (readInt s) ≠ .error .infiniteInteger := by
        intro s
        cases readInt s <;> simp [Fault.ofNumeral]
      unfold toInteger at h
      dsimp only at h
      split at h
      · exact absurd h (hne _)
      · exact absurd h (by simp)
    | _ => exact absurd h (by simp [toInteger])
  · rintro ⟨negative, rfl⟩
    rfl

end Value

/-- A column is made, or there is a definition fault, unless a name that is none cannot be shown. -/
theorem Column.definite_make {e : Engine} {name : Value} {d : Definition} (h : name.Writable) :
    Definite (Column.make e name d) := by
  unfold make
  split
  · split
    · split
      · exact .ok _
      · exact DefinitionFault.definite_raise rfl
    · exact DefinitionFault.definite_raise rfl
  · exact DefinitionFault.definite_raise (Definition.obstacleOf_shown.trans h)

theorem Record.getAnyCase_of_find {r : Record} {field : String} {v : Value} (default : Value)
    (h : r.findAnyCase? field = some v) : r.getAnyCase field default = v := by
  rw [getAnyCase, h, Option.getD_some]

/-- The row holds nothing but nulls, truth values, numbers and texts. -/
def ScalarRow (row : Record) : Prop := ∀ field ∈ row, field.2.Scalar

theorem ScalarRow.getAnyCase {row : Record} (h : ScalarRow row) (name : String) {default : Value}
    (hdefault : default.Scalar) : (row.getAnyCase name default).Scalar := by
  have hfound : ∀ v, row.findAnyCase? name = some v → v.Scalar := by
    intro v hv
    unfold Record.findAnyCase? at hv
    split at hv
    · rename_i w hw
      obtain rfl := Option.some.inj hv
      exact h (name, w) (mem_of_lookup hw)
    · obtain ⟨field, hfield, rfl⟩ := Option.map_eq_some_iff.mp hv
      exact h field (List.mem_of_find?_eq_some hfield)
  unfold Record.getAnyCase
  cases hrow : row.findAnyCase? name with
  | none => exact hdefault
  | some v => exact hfound v hrow

theorem ScalarRow.get {row : Record} (h : ScalarRow row) (name : String) : (row.get name).Scalar := by
  unfold Record.get
  cases hfind : row.find? name with
  | none => trivial
  | some v => exact h (name, v) (mem_of_lookup hfind)

/-- On the way from scalars to a definition nothing is too deep. -/
theorem ScalarRow.not_deep {e : Engine} {type : Value} {options : Record} (htype : type.Scalar)
    (h : ScalarRow options) : ¬ Definition.Obstructed e type options .deep := by
  intro hdeep
  cases hdeep with
  | type _ ho => exact htype.obstacle?_ne_deep ho
  | length _ ho | default _ _ _ _ ho | compression _ _ _ _ _ ho =>
    exact (h.get _).obstacle?_ne_deep ho
  | nullable _ _ _ hv _ ho => exact (h _ (mem_of_lookup hv)).obstacle?_ne_deep ho

namespace Catalog

section
variable (row : Record) (field : String)

def Blank : Prop := trimmedField row field = .null ∨ trimmedField row field = .text ""

/-- The field holds what counts as this integer: a truth value and a number with a fraction do. -/
def Holds (n : Int) : Prop := (trimmedField row field).toInteger = .ok n

def Infinite : Prop := ∃ negative, trimmedField row field = .float (.infinite negative)

def Unreadable : Prop :=
  ¬ Blank row field ∧ ¬ Infinite row field ∧ ∀ n, ¬ Holds row field n

variable {row field}

theorem scalar_trimmedField (h : ScalarRow row) (field : String) :
    (Catalog.trimmedField row field).Scalar :=
  (h.getAnyCase field (by trivial)).trimmed

theorem integer_of_blank (h : Blank row field) : integer row field = .ok none := by
  unfold integer
  rcases h with h | h
  · rw [h]
  · rw [h]
    rfl

theorem integer_of_holds {n : Int} (h : Holds row field n) : integer row field = .ok (some n) := by
  unfold Holds at h
  unfold integer
  dsimp only
  split
  · rename_i hnull
    rw [hnull] at h
    exact absurd h (by simp [Value.toInteger])
  · rename_i hempty
    have hnone : (Value.text "").toInteger = .error (.numeral (.malformed 10 "")) := rfl
    rw [hempty, hnone] at h
    cases h
  · rw [h]

theorem integer_of_infinite (h : Infinite row field) :
    integer row field = .error .infiniteInteger := by
  obtain ⟨negative, h⟩ := h
  unfold integer
  rw [h]
  rfl

theorem integer_of_unreadable (hscalar : ScalarRow row) (h : Unreadable row field) :
    integer row field = .error (.definition (.catalogNotInteger field (trimmedField row field))) := by
  obtain ⟨hblank, hfinite, hnone⟩ := h
  have hv := scalar_trimmedField hscalar field
  unfold Blank at hblank
  unfold Infinite at hfinite
  unfold Holds at hnone
  unfold integer
  generalize trimmedField row field = v at hblank hfinite hnone hv ⊢
  dsimp only
  split
  · exact absurd (Or.inl rfl) hblank
  · exact absurd (Or.inr rfl) hblank
  · have hwritable : v.Writable := by
      by_contra hlong
      obtain ⟨n, rfl⟩ := hv.eq_int hlong
      exact hnone n rfl
    have hraise : ((DefinitionFault.catalogNotInteger field v).raise : Except Fault (Option Int)) =
        .error (.definition (.catalogNotInteger field v)) :=
      DefinitionFault.raise_eq_error
        (obstacleOf_eq_none_iff.mp ((Definition.obstacleOf_shown).trans hwritable)).choose_spec
    split
    · rename_i n hn
      exact absurd hn (hnone n)
    · rename_i hinfinite
      exact absurd (Value.toInteger_eq_infinite_iff.mp hinfinite) hfinite
    · exact hraise

theorem holds_of_integer {n : Int} (h : integer row field = .ok (some n)) :
    Holds row field n := by
  unfold integer at h
  dsimp only at h
  split at h
  · cases h
  · cases h
  · split at h
    · rename_i m hm
      obtain rfl := Option.some.inj (Except.ok.inj h)
      exact hm
    · cases h
    · exact absurd h (DefinitionFault.raise_ne_ok _ _)

theorem definite_integer (hscalar : ScalarRow row) (h : ¬ Infinite row field) :
    Definite (integer row field) := by
  by_cases hblank : Blank row field
  · rw [integer_of_blank hblank]
    exact .ok none
  · by_cases hholds : ∃ n, Holds row field n
    · obtain ⟨n, hn⟩ := hholds
      rw [integer_of_holds hn]
      exact .ok (some n)
    · rw [integer_of_unreadable hscalar ⟨hblank, h, fun n hn => hholds ⟨n, hn⟩⟩]
      exact .inr ⟨_, rfl⟩

end

end Catalog

end WarehouseSchema
