import WarehouseSchema.Proofs.Outcome
import WarehouseSchema.Session

/-!
What sessions ask. A session runs step after step, until one of them stops with a fault. `Asks` says
which statements a session asks, how it ends and which files it leaves, given the statements that were
asked before and the files that there were; the notes that were taken do not matter. A quiet session
asks nothing and leaves the files alone.
-/

namespace WarehouseSchema

def Backend.read {α : Type} (b : Backend) (earlier : List String) (sql : String)
    (read : List Record → Except Fault α) : Except Fault α :=
  match b.answer earlier sql with
  | .ok rows => read rows
  | .error failure => .error (.query failure)

theorem Backend.read_of_answer {α : Type} {b : Backend} {earlier : List String} {sql : String}
    {rows : List Record} (h : b.answer earlier sql = .ok rows)
    (read : List Record → Except Fault α) : b.read earlier sql read = read rows := by
  rw [Backend.read, h]

namespace Session

variable {α β : Type}

def Asks (s : Session α) (b : Backend) (earlier : List String) (before : Files)
    (asked : List String) (r : Except Fault α) (after : Files) : Prop :=
  ∀ j, j.statements = earlier → j.files = before →
    ∃ j', s.run b j = (r, j') ∧ j'.statements = earlier ++ asked ∧ j'.files = after

section
variable {b : Backend} {earlier asked more : List String} {fs fs' fs'' : Files}

theorem asks_ofExcept (r : Except Fault α) : Asks (ofExcept r) b earlier fs [] r fs :=
  fun j hs hf => ⟨j, rfl, by rw [hs, List.append_nil], hf⟩

theorem asks_pure (a : α) : Asks (pure a) b earlier fs [] (.ok a) fs := asks_ofExcept (.ok a)

theorem asks_files : Asks files b earlier fs [] (.ok fs) fs := by
  intro j hs hf
  exact ⟨j, by rw [← hf]; rfl, by rw [hs, List.append_nil], hf⟩

theorem asks_note (severity : Severity) (source message : String) :
    Asks (note severity source message) b earlier fs [] (.ok ()) fs := by
  intro j hs hf
  exact ⟨_, rfl, by rw [Journal.statements_push, hs]; rfl, hf⟩

theorem asks_attempt (sql : String) :
    Asks (attempt sql) b earlier fs [sql] (.ok (b.answer earlier sql)) fs := by
  intro j hs hf
  refine ⟨j.push (.statement sql), by rw [run_attempt, hs], ?_, hf⟩
  rw [Journal.statements_push, hs]
  rfl

theorem Asks.bind {s : Session α} {f : α → Session β} {a : α} {r : Except Fault β}
    (h : Asks s b earlier fs asked (.ok a) fs') (h' : Asks (f a) b (earlier ++ asked) fs' more r fs'') :
    Asks (s >>= f) b earlier fs (asked ++ more) r fs'' := by
  intro j hs hf
  obtain ⟨j', hrun, hs', hf'⟩ := h j hs hf
  obtain ⟨j'', hrun', hs'', hf''⟩ := h' j' hs' hf'
  refine ⟨j'', ?_, by rw [hs'', List.append_assoc], hf''⟩
  unfold run at hrun hrun' ⊢
  simp only [Bind.bind, ReaderT.bind, ExceptT.bind, ExceptT.mk, StateT.bind, hrun]
  exact hrun'

theorem Asks.bind_error {s : Session α} {f : α → Session β} {fault : Fault}
    (h : Asks s b earlier fs asked (.error fault) fs') :
    Asks (s >>= f) b earlier fs asked (.error fault) fs' := by
  intro j hs hf
  obtain ⟨j', hrun, hs', hf'⟩ := h j hs hf
  refine ⟨j', ?_, hs', hf'⟩
  unfold run at hrun ⊢
  simp only [Bind.bind, ReaderT.bind, ExceptT.bind, ExceptT.mk, StateT.bind, hrun]
  rfl

/-- A first step that asks nothing does not show. -/
theorem Asks.after_quiet {s : Session α} {f : α → Session β} {a : α} {r : Except Fault β}
    (h : Asks s b earlier fs [] (.ok a) fs') (h' : Asks (f a) b earlier fs' asked r fs'') :
    Asks (s >>= f) b earlier fs asked r fs'' :=
  h.bind (by rwa [List.append_nil])

/-- A last step that asks nothing does not show. -/
theorem Asks.then_quiet {s : Session α} {f : α → Session β} {a : α} {r : Except Fault β}
    (h : Asks s b earlier fs asked (.ok a) fs')
    (h' : Asks (f a) b (earlier ++ asked) fs' [] r fs'') :
    Asks (s >>= f) b earlier fs asked r fs'' := by
  rw [← List.append_nil asked]
  exact h.bind h'

theorem Asks.map {s : Session α} {r : Except Fault α} (g : α → β)
    (h : Asks s b earlier fs asked r fs') :
    Asks (s >>= fun a => pure (g a)) b earlier fs asked (r.map g) fs' := by
  cases r with
  | error fault => exact h.bind_error
  | ok a => exact h.then_quiet (asks_pure (g a))

theorem asks_discard {s : Session α} {r : Except Fault α} (h : Asks s b earlier fs asked r fs') :
    Asks (discard s) b earlier fs asked (r.map fun _ => ()) fs' := by
  have hd : discard s = s >>= fun _ => pure () := by
    funext b j
    rfl
  rw [hd]
  exact h.map _

theorem asks_ask (sql : String) :
    Asks (ask sql) b earlier fs [sql] (b.read earlier sql .ok) fs := by
  refine (asks_attempt sql).then_quiet ?_
  unfold Backend.read
  cases b.answer earlier sql with
  | ok rows => exact asks_pure rows
  | error failure => exact asks_ofExcept _

/-- A question whose answer is read at once. -/
theorem asks_read (sql : String) (read : List Record → Except Fault α) :
    Asks (ask sql >>= fun rows => ofExcept (read rows)) b earlier fs [sql]
      (b.read earlier sql read) fs := by
  have hask : Asks (ask sql) b earlier fs [sql] (b.read earlier sql .ok) fs := asks_ask sql
  unfold Backend.read at hask ⊢
  cases ha : b.answer earlier sql with
  | ok rows =>
    rw [ha] at hask
    exact hask.then_quiet (asks_ofExcept (read rows))
  | error failure =>
    rw [ha] at hask
    exact hask.bind_error

theorem asks_connected {s : Session α} {r : Except Fault α}
    (h : Asks s b earlier fs asked r fs') : Asks (connected s) b earlier fs asked r fs' := by
  intro j hs hf
  have hopened : (j.push .opened).statements = earlier := by
    rw [Journal.statements_push, hs]
    exact List.append_nil earlier
  obtain ⟨j', hrun, hs', hf'⟩ := h (j.push .opened) hopened hf
  refine ⟨j'.push .closed, ?_, ?_, hf'⟩
  · rw [run_connected, hrun]
  · rw [Journal.statements_push, hs']
    exact List.append_nil _

end

/-- A session that asks nothing and leaves the files alone. -/
def Quiet (s : Session α) : Prop := ∀ b earlier fs, ∃ r, Asks s b earlier fs [] r fs

theorem quiet_ofExcept (r : Except Fault α) : Quiet (ofExcept r) := fun _ _ _ => ⟨_, asks_ofExcept r⟩

theorem quiet_files : Quiet files := fun _ _ _ => ⟨_, asks_files⟩

theorem quiet_note (severity : Severity) (source message : String) :
    Quiet (note severity source message) := fun _ _ _ => ⟨_, asks_note severity source message⟩

theorem Quiet.bind {s : Session α} {f : α → Session β} (h : Quiet s) (h' : ∀ a, Quiet (f a)) :
    Quiet (s >>= f) := by
  intro b earlier fs
  obtain ⟨r, hr⟩ := h b earlier fs
  cases r with
  | error fault => exact ⟨_, hr.bind_error⟩
  | ok a =>
    obtain ⟨r', hr'⟩ := h' a b earlier fs
    exact ⟨r', hr.after_quiet hr'⟩

/-- How a quiet session ends at one journal is how it ends at those with the same statements and
files. -/
theorem Quiet.asks_of_run {s : Session α} (h : Quiet s) {b : Backend} {j : Journal}
    {r : Except Fault α} (hr : (s.run b j).1 = r) : Asks s b j.statements j.files [] r j.files := by
  obtain ⟨r', hasks⟩ := h b j.statements j.files
  obtain ⟨after, hrun, _⟩ := hasks j rfl rfl
  have heq : r' = r := by rw [← hr, hrun]
  exact heq ▸ hasks

/-- A session that takes notes at most. -/
inductive Noting : {α : Type} → Session α → Prop where
  | ofExcept {α : Type} (r : Except Fault α) : Noting (ofExcept r)
  | files : Noting files
  | note (severity : Severity) (source message : String) : Noting (note severity source message)
  | bind {α β : Type} {s : Session α} {f : α → Session β} : Noting s → (∀ a, Noting (f a)) →
      Noting (s >>= f)

theorem noting_pure (a : α) : Noting (pure a) := .ofExcept (.ok a)

theorem noting_forIn {f : α → β → Session (ForInStep β)} (h : ∀ a acc, Noting (f a acc))
    (items : List α) (init : β) : Noting (forIn items init f) := by
  induction items generalizing init with
  | nil => exact noting_pure init
  | cons a items ih =>
    rw [List.forIn_cons]
    refine (h a init).bind fun step => ?_
    cases step with
    | done acc => exact noting_pure acc
    | yield acc => exact ih acc

theorem Noting.quiet {s : Session α} (h : Noting s) : Quiet s := by
  induction h with
  | ofExcept r => exact quiet_ofExcept r
  | files => exact quiet_files
  | note severity source message => exact quiet_note severity source message
  | bind _ _ ih ih' => exact ih.bind ih'

end Session

end WarehouseSchema
