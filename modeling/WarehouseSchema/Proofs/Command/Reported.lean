import WarehouseSchema.Command.Report
import WarehouseSchema.Proofs.Column.Fields
import WarehouseSchema.Proofs.Run.Course
import WarehouseSchema.Proofs.Session.Writeless
import WarehouseSchema.Proofs.Storage.Place

/-!
The faults that commands report. Settings and paths are refused with such faults only, so that a command
whose settings or paths are wrong ends with an exit status, and so are descriptions of tables, unless an option
of a column is `Buried`.
-/

namespace WarehouseSchema

/-- The fault becomes a note in the log and does not end the program. -/
def Fault.Reported (fault : Fault) : Prop := fault.isReported = true

instance (fault : Fault) : Decidable fault.Reported := inferInstanceAs (Decidable (_ = true))

theorem Fault.OfPath.reported {fault : Fault} (h : fault.OfPath) : fault.Reported := by
  cases h with
  | path fault text => rfl

/-- The operation gives a result, or stops with a fault that is reported. -/
abbrev EndsReported {α : Type} (r : Except Fault α) : Prop := StopsWith Fault.Reported r

theorem Definite.endsReported {α : Type} {r : Except Fault α} (h : Definite r) : EndsReported r := by
  rcases h with ⟨a, rfl⟩ | ⟨fault, rfl⟩
  · exact .ok a
  · exact .error rfl

namespace Session

variable {α β : Type} {P : Fault → Prop}

/-- The session gives a result, or stops with such a fault. -/
def Stops (P : Fault → Prop) (s : Session α) : Prop := ∀ b j, StopsWith P (s.run b j).1

theorem Stops.bind {s : Session α} {f : α → Session β} (h : Stops P s) (h' : ∀ a, Stops P (f a)) :
    Stops P (s >>= f) := by
  intro b j
  have hs := h b j
  rcases hrun : s.run b j with ⟨r, j'⟩
  rw [hrun] at hs
  cases r with
  | error fault =>
    rw [run_bind_error hrun]
    exact .error (hs fault rfl)
  | ok a =>
    rw [run_bind_ok hrun]
    exact h' a b j'

end Session

open Session

/-! ## Settings -/

namespace Settings

end Settings

/-! ## Descriptions of tables -/

namespace Files

theorem endsReported_read (fs : Files) (p : Path) : EndsReported (fs.read p) := by
  unfold read
  split
  · exact .ok _
  · exact .error rfl
  · exact .error rfl

theorem endsReported_written (fs : Files) (p : Path) (text : String) :
    EndsReported (fs.written p text).1 := by
  have hfile : EndsReported (fs.withFile p text) :=
    (fs.stopsWith_withFile p text).mono fun _ => Fault.OfPath.reported
  unfold written
  cases hwritten : fs.withFile p text with
  | ok after => exact .ok ()
  | error fault =>
    dsimp only
    split
    · exact .error (hfile fault hwritten)
    · exact .error (hfile fault hwritten)

end Files

end WarehouseSchema
