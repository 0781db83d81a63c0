import WarehouseSchema.Proofs.Session

/-!
Sessions that write nothing. A session without a step that writes leaves the written texts as they are,
whatever the backend answers. One that browses asks known statements besides.
-/

namespace WarehouseSchema

def Event.written? : Event → Option (Path × String)
  | .wrote path text => some (path, text)
  | _ => none

/-- The texts that were written, in order. -/
def Journal.writes (j : Journal) : List (Path × String) := j.events.filterMap Event.written?

theorem Journal.writes_push (j : Journal) {e : Event} (h : e.written? = none) :
    (j.push e).writes = j.writes := by
  simp [writes, h]

namespace Session

variable {α β : Type}

theorem run_bind_ok {s : Session α} {f : α → Session β} {b : Backend} {j j' : Journal} {a : α}
    (h : s.run b j = (.ok a, j')) : (s >>= f).run b j = (f a).run b j' := by
  unfold run at h ⊢
  simp only [Bind.bind, ReaderT.bind, ExceptT.bind, ExceptT.mk, StateT.bind, h]
  rfl

theorem run_bind_error {s : Session α} {f : α → Session β} {b : Backend} {j j' : Journal}
    {fault : Fault} (h : s.run b j = (.error fault, j')) :
    (s >>= f).run b j = (.error fault, j') := by
  unfold run at h ⊢
  simp only [Bind.bind, ReaderT.bind, ExceptT.bind, ExceptT.mk, StateT.bind, h]
  rfl

def Writeless (s : Session α) : Prop := ∀ b j, (s.run b j).2.writes = j.writes

theorem writeless_ofExcept (r : Except Fault α) : Writeless (ofExcept r) := fun _ _ => rfl

theorem writeless_pure (a : α) : Writeless (pure a) := writeless_ofExcept (.ok a)

theorem writeless_files : Writeless files := fun _ _ => rfl

theorem writeless_note (severity : Severity) (source message : String) :
    Writeless (note severity source message) := fun _ j => j.writes_push rfl

theorem writeless_attempt (sql : String) : Writeless (attempt sql) := fun _ j => j.writes_push rfl

theorem Writeless.bind {s : Session α} {f : α → Session β} (h : Writeless s)
    (h' : ∀ a, Writeless (f a)) : Writeless (s >>= f) := by
  intro b j
  have hs := h b j
  rcases hrun : s.run b j with ⟨r, j'⟩
  rw [hrun] at hs
  cases r with
  | error fault => rw [run_bind_error hrun, hs]
  | ok a => rw [run_bind_ok hrun, h' a b j', hs]

theorem Noting.writeless {s : Session α} (h : Noting s) : Writeless s := by
  induction h with
  | ofExcept r => exact writeless_ofExcept r
  | files => exact writeless_files
  | note severity source message => exact writeless_note severity source message
  | bind _ _ ih ih' => exact ih.bind ih'

theorem writeless_ask (sql : String) : Writeless (ask sql) := by
  refine (writeless_attempt sql).bind fun answer => ?_
  cases answer with
  | ok rows => exact writeless_pure rows
  | error failure => exact writeless_ofExcept _

theorem writeless_error (fault : Fault) (f : α → Session β) :
    Writeless (ofExcept (.error fault) >>= f) := fun _ _ => rfl

/-- The session asks these statements and ends like this, and neither the files nor what was written
change. -/
def Browses (s : Session α) (b : Backend) (earlier : List String) (fs : Files)
    (asked : List String) (r : Except Fault α) : Prop :=
  ∀ j, j.statements = earlier → j.files = fs →
    ∃ j', s.run b j = (r, j') ∧ j'.statements = earlier ++ asked ∧ j'.files = fs ∧
      j'.writes = j.writes

section
variable {b : Backend} {earlier asked more : List String} {fs : Files}

theorem Asks.browses {s : Session α} {r : Except Fault α} (h : Asks s b earlier fs asked r fs)
    (hs : Writeless s) : Browses s b earlier fs asked r := by
  intro j hj hf
  obtain ⟨j', hrun, hstatements, hfiles⟩ := h j hj hf
  refine ⟨j', hrun, hstatements, hfiles, ?_⟩
  rw [← hs b j, hrun]

theorem Browses.bind {s : Session α} {f : α → Session β} {a : α} {r : Except Fault β}
    (h : Browses s b earlier fs asked (.ok a))
    (h' : Browses (f a) b (earlier ++ asked) fs more r) :
    Browses (s >>= f) b earlier fs (asked ++ more) r := by
  intro j hj hf
  obtain ⟨j₁, hrun₁, hstatements₁, hfiles₁, hwrites₁⟩ := h j hj hf
  obtain ⟨j₂, hrun₂, hstatements₂, hfiles₂, hwrites₂⟩ := h' j₁ hstatements₁ hfiles₁
  refine ⟨j₂, ?_, ?_, hfiles₂, hwrites₂.trans hwrites₁⟩
  · rw [run_bind_ok hrun₁, hrun₂]
  · rw [hstatements₂, List.append_assoc]

/-- A first step that asks nothing does not show. -/
theorem Browses.after_quiet {s : Session α} {f : α → Session β} {a : α} {r : Except Fault β}
    (h : Browses s b earlier fs [] (.ok a)) (h' : Browses (f a) b earlier fs asked r) :
    Browses (s >>= f) b earlier fs asked r :=
  h.bind (by rwa [List.append_nil])

/-- A last step that asks nothing does not show. -/
theorem Browses.then_quiet {s : Session α} {f : α → Session β} {a : α} {r : Except Fault β}
    (h : Browses s b earlier fs asked (.ok a)) (h' : Browses (f a) b (earlier ++ asked) fs [] r) :
    Browses (s >>= f) b earlier fs asked r := by
  rw [← List.append_nil asked]
  exact h.bind h'

theorem Browses.connected {s : Session α} {r : Except Fault α}
    (h : Browses s b earlier fs asked r) : Browses (connected s) b earlier fs asked r := by
  intro j hj hf
  have hopened : (j.push .opened).statements = earlier := by
    rw [Journal.statements_push, hj]
    exact List.append_nil earlier
  obtain ⟨j', hrun, hstatements, hfiles, hwrites⟩ := h (j.push .opened) hopened hf
  refine ⟨j'.push .closed, ?_, ?_, hfiles, ?_⟩
  · rw [run_connected, hrun]
  · rw [Journal.statements_push, hstatements]
    exact List.append_nil _
  · rw [Journal.writes_push _ rfl, hwrites, Journal.writes_push _ rfl]

end

end Session

end WarehouseSchema
