import WarehouseSchema.Definition
import WarehouseSchema.Proofs.Outcome

/-!
The checks behind a definition. Each says exactly when it passes and what it gives then, and a
definition is made exactly when all of them pass.
-/

namespace WarehouseSchema

open Text Number

theorem leastText?_eq_none_iff {names : List String} : leastText? names = none ↔ names = [] := by
  cases names with
  | nil => simp [leastText?]
  | cons s rest =>
    rw [leastText?]
    split <;> simp

namespace Engine

theorem normalizeType_eq_ok_iff {e : Engine} {v : Value} {type : String} :
    e.normalizeType v = .ok type ↔ ∃ s, v = .text s ∧ type = upper (squeeze s) ∧ type ∈ e.types := by
  cases v with
  | text s =>
    simp only [normalizeType, List.contains_iff_mem, Value.text.injEq, exists_eq_left']
    split
    · rename_i h
      constructor
      · intro he
        rw [← Except.ok.inj he]
        exact ⟨rfl, h⟩
      · rintro ⟨rfl, _⟩
        rfl
    · rename_i h
      constructor
      · exact fun he => absurd he (DefinitionFault.raise_ne_ok _ _)
      · rintro ⟨rfl, hm⟩
        exact absurd hm h
  | _ => simp [normalizeType, DefinitionFault.raise_ne_ok]

theorem checkOptions_eq_ok_iff {e : Engine} {options : Record} :
    e.checkOptions options = .ok () ↔ ∀ o ∈ options, o.1 ∈ e.options := by
  unfold checkOptions
  split
  · rename_i h
    rw [leastText?_eq_none_iff, List.filter_eq_nil_iff] at h
    simpa using h
  · rename_i name h
    refine ⟨fun he => absurd he (DefinitionFault.raise_ne_ok _ _), fun hall => ?_⟩
    have hnone : leastText? ((options.map (·.1)).filter fun name => !e.options.contains name) =
        none := by
      rw [leastText?_eq_none_iff, List.filter_eq_nil_iff]
      simpa using hall
    rw [hnone] at h
    exact absurd h (by simp)

theorem normalizeCompression_null {e : Engine} {type : String} :
    e.normalizeCompression type .null = .ok none := rfl

theorem normalizeCompression_eq_ok_iff {e : Engine} {type : String} {v : Value}
    {c : Option String} (hv : v ≠ .null) :
    e.normalizeCompression type v = .ok c ↔ ∃ s, v.display = .ok s ∧
      ((upper (trim s) = "" ∧ c = none) ∨
        (upper (trim s) ≠ "" ∧ c = some (upper (trim s)) ∧
          ∃ basetypes, e.codecs.lookup (upper (trim s)) = some basetypes ∧
            e.basetype type ∈ basetypes)) := by
  unfold normalizeCompression
  split
  · exact absurd rfl hv
  · rw [bind_eq_ok_iff]
    apply exists_congr
    intro s
    rw [Fault.ofText_eq_ok_iff]
    apply and_congr_right
    intro _
    by_cases he : upper (trim s) = ""
    · rw [if_pos he, pure_eq_ok_iff]
      simp [he, eq_comm]
    · rw [if_neg he]
      cases hl : e.codecs.lookup (upper (trim s)) with
      | none => simp [he, DefinitionFault.raise_ne_ok]
      | some basetypes =>
        by_cases hm : e.basetype type ∈ basetypes
        · simp only [List.contains_iff_mem, hm, if_true, pure_eq_ok_iff]
          simp [he, hm, eq_comm]
        · simp [he, hm, DefinitionFault.raise_ne_ok]

end Engine

theorem normalizeLength_eq_ok_iff {v : Value} {length : Option String} :
    normalizeLength v = .ok length ↔ (v = .null ∧ length = none) ∨
      (∃ n, v = .int n ∧ ∃ s, writeInt n = .ok s ∧ length = some s) ∨
      ∃ s, v = .text s ∧ length = if trim s = "" then none else some (trim s) := by
  cases v with
  | null =>
    simp only [normalizeLength, Except.ok.injEq, true_and, reduceCtorEq, false_and, exists_false,
      or_false]
    exact eq_comm
  | int n =>
    simp only [normalizeLength, bind_eq_ok_iff, Fault.ofNumeral_eq_ok_iff, pure_eq_ok_iff,
      reduceCtorEq, false_and, exists_false, or_false, false_or, Value.int.injEq, exists_eq_left']
    exact exists_congr fun s => and_congr_right fun _ => eq_comm
  | text s =>
    simp only [normalizeLength, Except.ok.injEq, reduceCtorEq, false_and, exists_false, false_or,
      Value.text.injEq, exists_eq_left']
    exact eq_comm
  | _ => simp [normalizeLength, DefinitionFault.raise_ne_ok]

theorem checkLength_eq_ok_iff {rule : LengthRule} {type : String} {length : Option String} :
    checkLength rule type length = .ok () ↔ ∀ s, length = some s → rule.faultOf s = .ok none := by
  cases length with
  | none => simp [checkLength]
  | some s =>
    simp only [checkLength, bind_eq_ok_iff, Fault.ofNumeral_eq_ok_iff, Option.some.injEq]
    constructor
    · rintro ⟨r, hr, h⟩ t rfl
      cases r with
      | none => exact hr
      | some fault => exact absurd h (DefinitionFault.raise_ne_ok _ _)
    · intro h
      exact ⟨none, h s rfl, rfl⟩

theorem normalizeNullable_eq_ok_iff {v : Option Value} {b : Bool} :
    normalizeNullable v = .ok b ↔ (v = none ∧ b = true) ∨ v = some (.bool b) := by
  cases v with
  | none => simp [normalizeNullable, eq_comm]
  | some v => cases v <;> simp [normalizeNullable, DefinitionFault.raise_ne_ok]

theorem normalizeDefault_null : normalizeDefault .null = .ok none := rfl

theorem normalizeDefault_eq_ok_iff {v : Value} {default : Option String} (hv : v ≠ .null) :
    normalizeDefault v = .ok default ↔ ∃ s, v.display = .ok s ∧ default = some s := by
  unfold normalizeDefault
  split
  · exact absurd rfl hv
  · simp only [bind_eq_ok_iff, Fault.ofText_eq_ok_iff, pure_eq_ok_iff]
    exact exists_congr fun s => and_congr_right fun _ => eq_comm

namespace Definition

/-- A definition is made when every check passes, and is made of what the checks give. -/
theorem make_eq_ok_iff {e : Engine} {type : Value} {options : Record} {d : Definition} :
    make e type options = .ok d ↔ d.engine = e ∧ e.normalizeType type = .ok d.type ∧
      e.checkOptions options = .ok () ∧ normalizeLength (options.get "length") = .ok d.length ∧
      checkLength (e.lengthRule d.type) d.type d.length = .ok () ∧
      normalizeNullable (options.find? "nullable") = .ok d.nullable ∧
      normalizeDefault (options.get "default") = .ok d.default ∧
      e.normalizeCompression d.type (options.get "compression") = .ok d.compression := by
  simp only [make, bind_eq_ok_iff, pure_eq_ok_iff]
  constructor
  · rintro ⟨type, ht, _, ho, length, hl, _, hc, nullable, hn, default, hd, compression, hz, rfl⟩
    exact ⟨rfl, ht, ho, hl, hc, hn, hd, hz⟩
  · rintro ⟨rfl, ht, ho, hl, hc, hn, hd, hz⟩
    exact ⟨_, ht, _, ho, _, hl, _, hc, _, hn, _, hd, _, hz, rfl⟩

end Definition

end WarehouseSchema
