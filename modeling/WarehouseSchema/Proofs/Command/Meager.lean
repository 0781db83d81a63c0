import WarehouseSchema.Proofs.Command.Reported

/-!
Runs over a warehouse that answers nothing. Every statement is answered with no rows or refused, so that no
table is ever found to be there. A run along a plan then stops with a fault that is not reported only
because of its folder for exports.
-/

namespace WarehouseSchema

open Reflection

/-- Every statement is answered with no rows, or refused. -/
def Backend.Meager (b : Backend) : Prop :=
  ∀ earlier sql, b.answer earlier sql = .ok [] ∨ ∃ failure, b.answer earlier sql = .error failure

section
variable {α : Type} {b : Backend} {read : List Record → Except Fault α} {a : α}

/-- What is read from such a warehouse is what is read from no rows, or nothing because it refuses. -/
theorem Backend.Meager.read_cases (hb : b.Meager) (hread : read [] = .ok a) (earlier : List String)
    (sql : String) : (b.answer earlier sql = .ok [] ∧ b.read earlier sql read = .ok a) ∨
      ∃ failure, b.answer earlier sql = .error failure ∧
        b.read earlier sql read = .error (.query failure) := by
  unfold Backend.read
  rcases hb earlier sql with hnone | ⟨failure, hfailure⟩
  · rw [hnone]
    exact Or.inl ⟨rfl, hread⟩
  · rw [hfailure]
    exact Or.inr ⟨failure, rfl, rfl⟩

theorem Backend.Meager.endsReported_read (hb : b.Meager) (hread : read [] = .ok a)
    (earlier : List String) (sql : String) : EndsReported (b.read earlier sql read) := by
  rcases hb.read_cases hread earlier sql with ⟨_, hok⟩ | ⟨failure, _, hfailed⟩
  · rw [hok]
    exact .ok a
  · rw [hfailed]
    exact .error rfl

end

namespace Plan

variable {p : Plan} {b : Backend} {t : Table} {earlier asked : List String} {fs after : Files}
  {r : Except Fault Unit} {fault : Fault}

theorem listedNames_nil (p : Plan) : listedNames p.engine [] = .ok [] := rfl

theorem describedNames_nil (p : Plan) : p.describedNames [] = .ok [] := rfl

theorem keyNames_nil (p : Plan) : keyNames p.engine [] = .ok [] := by
  unfold keyNames keyRows
  split
  · simp [pure, Except.pure]
  · rfl

/-- A folder for exports is given, but it is no text. -/
structure FolderMisshapen (p : Plan) : Prop where
  truthy : p.exportFolder.isTruthy = true
  not_text : ∀ folder, p.exportFolder ≠ .text folder

theorem endsReported_exported (h : ¬ p.FolderMisshapen) (t : Table) (fs : Files) :
    EndsReported (p.exported t fs).1 := by
  unfold exported
  split
  · rename_i htruthy
    split
    · exact fs.endsReported_written _ _
    · rename_i hfolder
      exact absurd ⟨htruthy, hfolder⟩ h
  · exact .ok ()

theorem Verification.endsReported (hb : b.Meager) (h : Verification p b t earlier asked r) :
    EndsReported r := by
  have hcolumns := hb.endsReported_read (describedNames_nil p)
  have hkeys := hb.endsReported_read (keyNames_nil p)
  cases h with
  | undescribed hread => exact .error (hcolumns _ _ _ hread)
  | columnsDiffer _ _ => exact .error rfl
  | keyless _ _ _ => exact .ok ()
  | keysUnlisted _ _ _ hread => exact .error (hkeys _ _ _ hread)
  | keysDiffer _ _ _ _ _ => exact .error rfl
  | keysMatch _ _ _ _ _ => exact .ok ()

theorem Creation.endsReported (hb : b.Meager) (hfolder : ¬ p.FolderMisshapen)
    (h : Creation p b t earlier fs asked r after) : EndsReported r := by
  cases h with
  | refused _ => exact .error rfl
  | unexported _ hexported =>
    have hreported := endsReported_exported hfolder t fs
    rw [hexported] at hreported
    exact hreported
  | unverified _ _ _ => exact .ok ()
  | verified _ _ _ _ hverified => exact hverified.endsReported hb

theorem Block.endsReported (hb : b.Meager) (hfolder : ¬ p.FolderMisshapen)
    (h : Block p b t earlier fs asked r after) : EndsReported r := by
  cases h with
  | temporary _ hcreation => exact hcreation.endsReported hb hfolder
  | unlisted _ hread =>
    exact .error (hb.endsReported_read (listedNames_nil p) _ _ _ hread)
  | skipped _ _ _ _ => exact .ok ()
  | undropped _ _ _ _ _ => exact .error rfl
  | replaced _ _ _ _ _ hcreation => exact hcreation.endsReported hb hfolder
  | new _ _ _ hcreation => exact hcreation.endsReported hb hfolder

theorem Course.endsReported {tables : List Table} (hb : b.Meager) (hfolder : ¬ p.FolderMisshapen)
    (h : Course p b earlier fs tables asked r after) : EndsReported r := by
  induction h with
  | done _ _ => exact .ok ()
  | cut hblock => exact hblock.endsReported hb hfolder
  | next _ _ ih => exact ih

end Plan

end WarehouseSchema
