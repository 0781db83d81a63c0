import WarehouseSchema.Proofs.Session.Writeless

/-!
What sessions add to a journal. A session that takes notes at most leaves everything else as it is. The
inner part of a session is what runs over a connection: it neither opens one nor closes it.
-/

namespace WarehouseSchema

namespace Journal

variable {j j' j'' : Journal}

/-- Notes were taken at most. -/
def OnlyNoted (j after : Journal) : Prop :=
  after.files = j.files ∧ ∃ notes : List Note, after.events = j.events ++ notes.map .note

theorem OnlyNoted.refl (j : Journal) : OnlyNoted j j := ⟨rfl, [], by simp⟩

theorem OnlyNoted.trans (h : OnlyNoted j j') (h' : OnlyNoted j' j'') : OnlyNoted j j'' := by
  obtain ⟨hfiles, notes, hevents⟩ := h
  obtain ⟨hfiles', notes', hevents'⟩ := h'
  refine ⟨hfiles'.trans hfiles, notes ++ notes', ?_⟩
  rw [hevents', hevents, List.map_append, List.append_assoc]

theorem OnlyNoted.push_note (j : Journal) (n : Note) : OnlyNoted j (j.push (.note n)) :=
  ⟨rfl, [n], rfl⟩

/-- The journal has more events than before, none of which opens or closes a connection. -/
def Within (j after : Journal) : Prop :=
  ∃ during, after.events = j.events ++ during ∧ ∀ ev ∈ during, ev ≠ .opened ∧ ev ≠ .closed

theorem Within.of_events_eq (h : j'.events = j.events) : Within j j' := ⟨[], by simpa using h, by simp⟩

theorem Within.trans (h : Within j j') (h' : Within j' j'') : Within j j'' := by
  obtain ⟨during, hevents, hinner⟩ := h
  obtain ⟨during', hevents', hinner'⟩ := h'
  refine ⟨during ++ during', ?_, ?_⟩
  · rw [hevents', hevents, List.append_assoc]
  · intro ev hev
    rcases List.mem_append.mp hev with hev | hev
    · exact hinner ev hev
    · exact hinner' ev hev

theorem Within.push {ev : Event} (hopened : ev ≠ .opened) (hclosed : ev ≠ .closed) :
    Within j (j.push ev) :=
  ⟨[ev], rfl, fun _ h => List.mem_singleton.mp h ▸ ⟨hopened, hclosed⟩⟩

end Journal

namespace Session

open Journal

variable {α β : Type}

theorem Noting.onlyNoted {s : Session α} (h : Noting s) (b : Backend) (j : Journal) :
    OnlyNoted j (s.run b j).2 := by
  induction h generalizing j with
  | ofExcept r => exact .refl j
  | files => exact .refl j
  | note severity source message => exact .push_note j _
  | @bind _ _ s f _ _ ih ih' =>
    have hs := ih j
    rcases hrun : s.run b j with ⟨r, j'⟩
    rw [hrun] at hs
    cases r with
    | error fault =>
      rw [run_bind_error hrun]
      exact hs
    | ok a =>
      rw [run_bind_ok hrun]
      exact hs.trans (ih' a j')

def Inner (s : Session α) : Prop := ∀ b j, Within j (s.run b j).2

theorem inner_ofExcept (r : Except Fault α) : Inner (ofExcept r) := fun _ _ => .of_events_eq rfl

theorem inner_pure (a : α) : Inner (pure a) := inner_ofExcept (.ok a)

theorem inner_note (severity : Severity) (source message : String) :
    Inner (note severity source message) := fun _ _ => .push (by simp) (by simp)

theorem inner_attempt (sql : String) : Inner (attempt sql) := fun _ _ => .push (by simp) (by simp)

theorem Inner.bind {s : Session α} {f : α → Session β} (h : Inner s) (h' : ∀ a, Inner (f a)) :
    Inner (s >>= f) := by
  intro b j
  have hs := h b j
  rcases hrun : s.run b j with ⟨r, j'⟩
  rw [hrun] at hs
  cases r with
  | error fault =>
    rw [run_bind_error hrun]
    exact hs
  | ok a =>
    rw [run_bind_ok hrun]
    exact hs.trans (h' a b j')

theorem inner_ask (sql : String) : Inner (ask sql) := by
  refine (inner_attempt sql).bind fun answer => ?_
  cases answer with
  | ok rows => exact inner_pure rows
  | error failure => exact inner_ofExcept _

theorem inner_write (p : Path) (text : String) : Inner (write p text) := by
  intro b j
  cases hfile : j.files.withFile p text with
  | ok after =>
    have hrun : (write p text).run b j = (.ok (), { j with files := after }.push (.wrote p text)) := by
      simp only [run, write, hfile]
    rw [hrun]
    exact (Within.of_events_eq rfl).trans (.push (by simp) (by simp))
  | error fault =>
    refine .of_events_eq ?_
    cases hfolder : j.files.makeFolder p.parent with
    | ok after => simp only [run, write, hfile, hfolder]
    | error _ => simp only [run, write, hfile, hfolder]

end Session

end WarehouseSchema
