import WarehouseSchema.Connection

/-!
What a request to a connection does: which calls it makes to the driver, how it ends and whether it
leaves a handle. Every request is one of five cases, and the calls of a statement that has a handle are
one of three.
-/

namespace WarehouseSchema

namespace DriverCall

def Opens : DriverCall → Prop
  | .connect _ | .createPool _ => True
  | _ => False

def GivesUp : DriverCall → Prop
  | .disconnect | .dispose => True
  | _ => False

/-- No cursor is opened or closed by the calls. -/
def CursorFree (calls : List DriverCall) : Prop :=
  .openCursor ∉ calls ∧ .closeCursor ∉ calls

theorem cursorFree_nil : CursorFree [] := ⟨List.not_mem_nil, List.not_mem_nil⟩

theorem CursorFree.cons {call : DriverCall} {calls : List DriverCall} (h : CursorFree calls)
    (hopen : call ≠ .openCursor) (hclose : call ≠ .closeCursor) : CursorFree (call :: calls) := by
  constructor
  · intro hmem
    rcases List.mem_cons.mp hmem with hmem | hmem
    · exact hopen hmem.symm
    · exact h.1 hmem
  · intro hmem
    rcases List.mem_cons.mp hmem with hmem | hmem
    · exact hclose hmem.symm
    · exact h.2 hmem

end DriverCall

namespace Driver

def Grants (driver : Driver) (earlier : List DriverCall) (call : DriverCall) : Prop :=
  ∃ rows, driver.reply earlier call = .ok rows

/-- Closing never fails: neither of a cursor nor of a handle. -/
structure ClosesQuietly (driver : Driver) : Prop where
  cursor : ∀ earlier, driver.Grants earlier .closeCursor
  connection : ∀ earlier, driver.Grants earlier .disconnect
  pool : ∀ earlier, driver.Grants earlier .dispose

end Driver

inductive Request where
  | execute (sql : String)
  | close

namespace ConnectionKind

variable (kind : ConnectionKind)

def serve : Request → Driving (Except ConnectionFault (List Record))
  | .execute sql => kind.execute sql
  | .close => do
    match ← kind.close with
    | .ok () => return .ok []
    | .error fault => return .error fault

def opening : DriverCall :=
  match kind with
  | .direct parameters => .connect parameters
  | .pooled url => .createPool url

def closing : DriverCall :=
  match kind with
  | .direct _ => .disconnect
  | .pooled _ => .dispose

theorem opening_opens : kind.opening.Opens := by
  cases kind <;> trivial

theorem closing_givesUp : kind.closing.GivesUp := by
  cases kind <;> trivial

theorem closing_not_opens : ¬ kind.closing.Opens := by
  cases kind <;> exact id

theorem opening_not_givesUp : ¬ kind.opening.GivesUp := by
  cases kind <;> exact id

variable {kind} {driver : Driver} {s : ConnectionState} {earlier : List DriverCall}

theorem grants_closing (kind : ConnectionKind) (earlier : List DriverCall)
    (h : driver.ClosesQuietly) : driver.Grants earlier kind.closing := by
  cases kind with
  | direct parameters => exact h.connection earlier
  | pooled url => exact h.pool earlier

/-- The calls of a statement that has a handle. -/
inductive Statement (driver : Driver) (sql : String) : (earlier calls : List DriverCall) → Prop
  | cursorRefused {earlier f} (h : driver.reply earlier .openCursor = .error f) :
      Statement driver sql earlier [.openCursor]
  | cursorClosed {earlier inner} (h : driver.Grants earlier .openCursor)
      (hinner : ∀ call ∈ inner, call = .execute sql ∨ call = .fetch) :
      Statement driver sql earlier (.openCursor :: (inner ++ [.closeCursor]))
  | transaction {earlier calls} (h : ∀ call ∈ calls, call = .begin ∨ call = .execute sql ∨
      call = .fetch ∨ call = .commit ∨ call = .rollback) : Statement driver sql earlier calls

theorem Statement.neutral {sql : String} {calls : List DriverCall}
    (h : Statement driver sql earlier calls) : ∀ call ∈ calls, ¬ call.Opens ∧ ¬ call.GivesUp := by
  intro call hcall
  cases h with
  | cursorRefused h =>
    rw [List.mem_singleton.mp hcall]
    exact ⟨id, id⟩
  | cursorClosed h hinner =>
    rcases List.mem_cons.mp hcall with rfl | hcall
    · exact ⟨id, id⟩
    · rcases List.mem_append.mp hcall with hcall | hcall
      · rcases hinner call hcall with rfl | rfl <;> exact ⟨id, id⟩
      · rw [List.mem_singleton.mp hcall]
        exact ⟨id, id⟩
  | transaction h => rcases h call hcall with rfl | rfl | rfl | rfl | rfl <;> exact ⟨id, id⟩

/-- A cursor that is opened is closed at the end, and neither opened nor closed in between. -/
theorem Statement.cursor_closed {sql : String} {calls before after : List DriverCall}
    (h : Statement driver sql earlier calls) (hsplit : calls = before ++ .openCursor :: after)
    (hgranted : driver.Grants (earlier ++ before) .openCursor) :
    DriverCall.CursorFree before ∧
      ∃ inner, after = inner ++ [.closeCursor] ∧ DriverCall.CursorFree inner := by
  cases h with
  | cursorRefused h =>
    cases before with
    | nil =>
      obtain ⟨rows, hrows⟩ := hgranted
      rw [List.append_nil, h] at hrows
      exact absurd hrows (by simp)
    | cons call before => simp at hsplit
  | @cursorClosed inner h hinner =>
    cases before with
    | nil =>
      obtain ⟨-, rfl⟩ := List.cons.inj hsplit
      refine ⟨DriverCall.cursorFree_nil, inner, rfl, ?_⟩
      constructor <;> intro hmem <;> rcases hinner _ hmem with h | h <;> cases h
    | cons call before =>
      -- the one place where a cursor is opened is the first
      obtain ⟨-, hrest⟩ := List.cons.inj hsplit
      have hmem : DriverCall.openCursor ∈ inner ++ [.closeCursor] := by
        rw [hrest]
        exact List.mem_append_right before List.mem_cons_self
      rcases List.mem_append.mp hmem with hmem | hmem
      · rcases hinner _ hmem with h | h <;> cases h
      · cases List.mem_singleton.mp hmem
  | transaction h =>
    have hmem : DriverCall.openCursor ∈ calls := by simp [hsplit]
    rcases h _ hmem with h | h | h | h | h <;> cases h

section
variable {α β : Type}

theorem driving_bind (x : Driving α) (f : α → Driving β) :
    (x >>= f) driver s = f (x driver s).1 driver (x driver s).2 := rfl

theorem driving_pure (a : α) : (pure a : Driving α) driver s = (a, s) := rfl

theorem driving_ask (call : DriverCall) :
    ask call driver s = (driver.reply s.calls call, { s with calls := s.calls ++ [call] }) := rfl

theorem driving_setLive (live : Bool) :
    setLive live driver s = ((), { s with live }) := rfl

theorem driving_get : (get : Driving ConnectionState) driver s = (s, s) := rfl

end

theorem runAndFetch_calls (driver : Driver) (s : ConnectionState) (sql : String) : ∃ result inner,
    runAndFetch sql driver s = (result, { s with calls := s.calls ++ inner }) ∧
      ∀ call ∈ inner, call = .execute sql ∨ call = .fetch := by
  unfold runAndFetch
  rw [driving_bind, driving_ask]
  cases hrun : driver.reply s.calls (.execute sql) with
  | error f => exact ⟨_, [.execute sql], rfl, by simp⟩
  | ok ready =>
    dsimp only
    unfold fetchIf
    cases ready with
    | none => exact ⟨_, [.execute sql], rfl, by simp⟩
    | some rows =>
      dsimp only
      rw [driving_bind, driving_ask]
      cases hfetch : driver.reply (s.calls ++ [.execute sql]) .fetch with
      | error f =>
        refine ⟨.error (wrap (some sql) "" f), [.execute sql, .fetch], ?_, by simp⟩
        dsimp only
        rw [driving_pure, List.append_assoc]
        rfl
      | ok fetched =>
        refine ⟨.ok (fetched.getD []), [.execute sql, .fetch], ?_, by simp⟩
        dsimp only
        rw [driving_pure, List.append_assoc]
        rfl

theorem executeWithCursor_calls (hquiet : driver.ClosesQuietly) (sql : String) :
    ∃ result calls, executeWithCursor sql driver s =
      (result, { s with calls := s.calls ++ calls }) ∧ Statement driver sql s.calls calls := by
  unfold executeWithCursor
  rw [driving_bind, driving_ask]
  cases hopen : driver.reply s.calls .openCursor with
  | error f => exact ⟨_, [.openCursor], rfl, .cursorRefused hopen⟩
  | ok rows =>
    dsimp only
    obtain ⟨result, inner, hrun, hinner⟩ := runAndFetch_calls driver
      { s with calls := s.calls ++ [.openCursor] } sql
    rw [driving_bind, hrun]
    dsimp only
    rw [driving_bind, driving_ask]
    dsimp only
    obtain ⟨closed, hclosed⟩ := hquiet.cursor ((s.calls ++ [.openCursor]) ++ inner)
    rw [hclosed]
    refine ⟨result, .openCursor :: (inner ++ [.closeCursor]), ?_, .cursorClosed ⟨rows, hopen⟩ hinner⟩
    dsimp only
    rw [driving_pure, List.append_assoc, List.append_assoc, List.singleton_append]

theorem executeInTransaction_calls (sql : String) :
    ∃ result calls, executeInTransaction sql driver s =
      (result, { s with calls := s.calls ++ calls }) ∧ Statement driver sql s.calls calls := by
  unfold executeInTransaction
  rw [driving_bind, driving_ask]
  cases hbegin : driver.reply s.calls .begin with
  | error f => exact ⟨_, [.begin], rfl, .transaction (by simp)⟩
  | ok rows =>
    dsimp only
    obtain ⟨result, inner, hrun, hinner⟩ := runAndFetch_calls driver
      { s with calls := s.calls ++ [.begin] } sql
    rw [driving_bind, hrun]
    have hshape : ∀ last : DriverCall, last = .commit ∨ last = .rollback →
        ∀ call ∈ DriverCall.begin :: (inner ++ [last]), call = .begin ∨ call = .execute sql ∨
          call = .fetch ∨ call = .commit ∨ call = .rollback := by
      intro last hlast call hcall
      simp only [List.mem_cons, List.mem_append, List.not_mem_nil, or_false] at hcall
      rcases hcall with rfl | hcall | rfl
      · exact .inl rfl
      · rcases hinner call hcall with rfl | rfl <;> simp
      · rcases hlast with rfl | rfl <;> simp
    have hcalls : ∀ last : DriverCall, s.calls ++ [.begin] ++ inner ++ [last] =
        s.calls ++ .begin :: (inner ++ [last]) := by
      intro last
      simp only [List.append_assoc, List.cons_append, List.nil_append]
    cases result with
    | ok fetched =>
      dsimp only
      rw [driving_bind, driving_ask]
      dsimp only
      rw [hcalls]
      cases hcommit : driver.reply (s.calls ++ [.begin] ++ inner) .commit with
      | error f => exact ⟨_, _, rfl, .transaction (hshape .commit (.inl rfl))⟩
      | ok _ => exact ⟨_, _, rfl, .transaction (hshape .commit (.inl rfl))⟩
    | error fault =>
      dsimp only
      rw [driving_bind, driving_ask]
      dsimp only
      rw [hcalls]
      cases hrollback : driver.reply (s.calls ++ [.begin] ++ inner) .rollback with
      | error f => exact ⟨_, _, rfl, .transaction (hshape .rollback (.inr rfl))⟩
      | ok _ => exact ⟨_, _, rfl, .transaction (hshape .rollback (.inr rfl))⟩

/-- What is done with a statement once there is a handle. -/
def perform (kind : ConnectionKind) (sql : String) : Driving (Except ConnectionFault (List Record)) :=
  match kind with
  | .direct _ => executeWithCursor sql
  | .pooled _ => executeInTransaction sql

theorem perform_calls (kind : ConnectionKind) (s : ConnectionState) (hquiet : driver.ClosesQuietly)
    (sql : String) : ∃ result calls,
    kind.perform sql driver s = (result, { s with calls := s.calls ++ calls }) ∧
      Statement driver sql s.calls calls := by
  cases kind with
  | direct parameters => exact executeWithCursor_calls hquiet sql
  | pooled url => exact executeInTransaction_calls sql

theorem execute_of_live (sql : String) (h : s.live = true) :
    kind.execute sql driver s = kind.perform sql driver (kind.announce sql driver s).2 := by
  cases kind with
  | direct parameters =>
    simp only [execute, driving_bind, driving_get, h, if_true, driving_pure]
    rfl
  | pooled url =>
    have h' : ((announce (.pooled url) sql driver s).2).live = true := h
    simp only [execute, driving_bind, driving_get, h', if_true]
    rfl

theorem execute_of_refused (sql : String) {f : DriverFailure} (h : s.live = false)
    (hf : driver.reply s.calls kind.opening = .error f) : ∃ failure s',
    kind.execute sql driver s = (.error (.query failure), s') ∧
      s'.live = false ∧ s'.calls = s.calls ++ [kind.opening] := by
  cases kind with
  | direct parameters =>
    have hf' : driver.reply s.calls (.connect parameters) = .error f := hf
    simp only [execute, driving_bind, driving_get, h, Bool.false_eq_true, if_false, connect,
      driving_ask, hf', driving_pure]
    exact ⟨_, _, rfl, rfl, rfl⟩
  | pooled url =>
    have h' : ((announce (.pooled url) sql driver s).2).live = false := h
    have hf' : driver.reply (announce (.pooled url) sql driver s).2.calls (.createPool url) =
        .error f := hf
    simp only [execute, driving_bind, driving_get, h', Bool.false_eq_true, if_false,
      driving_ask, hf', driving_pure]
    exact ⟨_, _, rfl, rfl, rfl⟩

theorem execute_of_opened (sql : String) (h : s.live = false)
    (hgranted : driver.Grants s.calls kind.opening) : ∃ s' : ConnectionState,
    kind.execute sql driver s = kind.perform sql driver s' ∧
      s'.live = true ∧ s'.calls = s.calls ++ [kind.opening] := by
  obtain ⟨rows, hrows⟩ := hgranted
  cases kind with
  | direct parameters =>
    have hrows' : driver.reply s.calls (.connect parameters) = .ok rows := hrows
    simp only [execute, driving_bind, driving_get, h, Bool.false_eq_true, if_false, connect,
      driving_ask, hrows', driving_pure]
    exact ⟨_, rfl, rfl, rfl⟩
  | pooled url =>
    have h' : ((announce (.pooled url) sql driver s).2).live = false := h
    have hrows' : driver.reply (announce (.pooled url) sql driver s).2.calls (.createPool url) =
        .ok rows := hrows
    simp only [execute, driving_bind, driving_get, h', Bool.false_eq_true, if_false,
      driving_ask, hrows']
    exact ⟨_, rfl, rfl, rfl⟩

theorem close_of_live (hquiet : driver.ClosesQuietly) (h : s.live = true) :
    kind.close driver s = (.ok (), { s with live := false, calls := s.calls ++ [kind.closing] }) := by
  obtain ⟨rows, hrows⟩ := grants_closing kind s.calls hquiet
  cases kind with
  | direct parameters =>
    have hrows' : driver.reply s.calls .disconnect = .ok rows := hrows
    simp only [close, driving_bind, driving_get, h, if_true, driving_ask, hrows', driving_setLive,
      driving_pure]
    rfl
  | pooled url =>
    have hrows' : driver.reply s.calls .dispose = .ok rows := hrows
    simp only [close, driving_bind, driving_get, h, if_true, driving_ask, hrows', driving_setLive,
      driving_pure]
    rfl

theorem close_of_not_live (h : s.live = false) : kind.close driver s = (.ok (), s) := by
  simp only [close, driving_bind, driving_get, h, Bool.false_eq_true, if_false, driving_pure]

/-- What a request can do: the calls that it makes, how it ends and whether it leaves a handle. -/
inductive Served (kind : ConnectionKind) (driver : Driver) (s : ConnectionState) :
    Request → Except ConnectionFault (List Record) → ConnectionState → List DriverCall → Prop
  | held {sql result s' calls} (h : s.live = true) (h' : s'.live = true)
      (hcalls : Statement driver sql s.calls calls) :
      Served kind driver s (.execute sql) result s' calls
  | refused {sql s' f failure} (h : s.live = false) (h' : s'.live = false)
      (hf : driver.reply s.calls kind.opening = .error f) :
      Served kind driver s (.execute sql) (.error (.query failure)) s' [kind.opening]
  | opened {sql result s' calls} (h : s.live = false) (h' : s'.live = true)
      (hgranted : driver.Grants s.calls kind.opening)
      (hcalls : Statement driver sql (s.calls ++ [kind.opening]) calls) :
      Served kind driver s (.execute sql) result s' (kind.opening :: calls)
  | closed {s'} (h : s.live = true) (h' : s'.live = false) :
      Served kind driver s .close (.ok []) s' [kind.closing]
  | nothing (h : s.live = false) : Served kind driver s .close (.ok []) s []

theorem served_execute (kind : ConnectionKind) (s : ConnectionState) (hquiet : driver.ClosesQuietly)
    (sql : String) : ∃ result s' calls,
    kind.execute sql driver s = (result, s') ∧ s'.calls = s.calls ++ calls ∧
      Served kind driver s (.execute sql) result s' calls := by
  cases hlive : s.live with
  | true =>
    obtain ⟨result, calls, hrun, hcalls⟩ := perform_calls kind
      (kind.announce sql driver s).2 hquiet sql
    exact ⟨result, _, calls, (execute_of_live sql hlive).trans hrun, rfl, .held hlive hlive hcalls⟩
  | false =>
    cases hreply : driver.reply s.calls kind.opening with
    | error f =>
      obtain ⟨failure, s', hrun, hlive', hcalls⟩ := execute_of_refused sql hlive hreply
      exact ⟨_, s', _, hrun, hcalls, .refused hlive hlive' hreply⟩
    | ok rows =>
      obtain ⟨s', hrun, hlive', hcalls⟩ := execute_of_opened sql hlive ⟨rows, hreply⟩
      obtain ⟨result, calls, hperform, hstatement⟩ := perform_calls kind s' hquiet sql
      rw [hcalls] at hstatement
      refine ⟨result, _, kind.opening :: calls, hrun.trans hperform, ?_,
        .opened hlive hlive' ⟨rows, hreply⟩ hstatement⟩
      rw [hcalls, List.append_assoc, List.singleton_append]

theorem served (kind : ConnectionKind) (s : ConnectionState) (hquiet : driver.ClosesQuietly)
    (request : Request) : ∃ calls,
    (kind.serve request driver s).2.calls = s.calls ++ calls ∧
      Served kind driver s request (kind.serve request driver s).1 (kind.serve request driver s).2
        calls := by
  cases request with
  | execute sql =>
    obtain ⟨result, s', calls, hrun, hcalls, h⟩ := served_execute kind s hquiet sql
    refine ⟨calls, ?_⟩
    rw [serve, hrun]
    exact ⟨hcalls, h⟩
  | close =>
    simp only [serve, driving_bind]
    cases hlive : s.live with
    | true =>
      rw [close_of_live hquiet hlive]
      exact ⟨_, rfl, .closed hlive rfl⟩
    | false =>
      rw [close_of_not_live hlive]
      exact ⟨[], (List.append_nil _).symm, .nothing hlive⟩

theorem Served.opens {request : Request} {result : Except ConnectionFault (List Record)}
    {s' : ConnectionState} {calls before more : List DriverCall} {call : DriverCall}
    (h : Served kind driver s request result s' calls) (hsplit : calls = before ++ call :: more)
    (hopens : call.Opens) :
    s.live = false ∧ before = [] ∧ call = kind.opening ∧ ∃ sql, request = .execute sql := by
  have hmem : call ∈ calls := by simp [hsplit]
  cases h with
  | held h h' hcalls => exact absurd hopens (hcalls.neutral call hmem).1
  | refused h h' hf =>
    cases before with
    | nil =>
      obtain ⟨rfl, -⟩ := List.cons.inj hsplit
      exact ⟨h, rfl, rfl, _, rfl⟩
    | cons first before => simp at hsplit
  | opened h h' hgranted hcalls =>
    cases before with
    | nil =>
      obtain ⟨rfl, -⟩ := List.cons.inj hsplit
      exact ⟨h, rfl, rfl, _, rfl⟩
    | cons first before =>
      obtain ⟨-, hrest⟩ := List.cons.inj hsplit
      have hlater := List.mem_append_right before (List.mem_cons_self (a := call) (l := more))
      rw [← List.append_eq, ← hrest] at hlater
      exact absurd hopens (hcalls.neutral call hlater).1
  | closed h h' =>
    rw [List.mem_singleton.mp hmem] at hopens
    exact absurd hopens kind.closing_not_opens
  | nothing h => exact absurd hmem List.not_mem_nil

theorem Served.gives_up {request : Request} {result : Except ConnectionFault (List Record)}
    {s' : ConnectionState} {calls : List DriverCall} {call : DriverCall}
    (h : Served kind driver s request result s' calls) (hmem : call ∈ calls)
    (hgivesUp : call.GivesUp) : request = .close := by
  cases h with
  | held h h' hcalls => exact absurd hgivesUp (hcalls.neutral call hmem).2
  | refused h h' hf =>
    rw [List.mem_singleton.mp hmem] at hgivesUp
    exact absurd hgivesUp kind.opening_not_givesUp
  | opened h h' hgranted hcalls =>
    rcases List.mem_cons.mp hmem with rfl | hmem
    · exact absurd hgivesUp kind.opening_not_givesUp
    · exact absurd hgivesUp (hcalls.neutral call hmem).2
  | closed h h' => rfl
  | nothing h => rfl

theorem Served.cursor_closed {request : Request} {result : Except ConnectionFault (List Record)}
    {s' : ConnectionState} {calls before more : List DriverCall}
    (h : Served kind driver s request result s' calls)
    (hsplit : calls = before ++ .openCursor :: more)
    (hgranted : driver.Grants (s.calls ++ before) .openCursor) :
    DriverCall.CursorFree before ∧
      ∃ inner, more = inner ++ [.closeCursor] ∧ DriverCall.CursorFree inner := by
  have hmem : DriverCall.openCursor ∈ calls := by simp [hsplit]
  have hopening : kind.opening ≠ .openCursor ∧ kind.opening ≠ .closeCursor := by
    cases kind <;> exact ⟨by simp [opening], by simp [opening]⟩
  cases h with
  | held h h' hcalls => exact hcalls.cursor_closed hsplit hgranted
  | refused h h' hf => exact absurd (List.mem_singleton.mp hmem).symm hopening.1
  | opened h h' hgranted' hcalls =>
    cases before with
    | nil => exact absurd (List.cons.inj hsplit).1 hopening.1
    | cons first before =>
      obtain ⟨hfirst, hrest⟩ := List.cons.inj hsplit
      subst hfirst
      have hgranted : driver.Grants (s.calls ++ [kind.opening] ++ before) .openCursor := by
        rwa [List.append_assoc, List.singleton_append]
      obtain ⟨hbefore, hinner⟩ := hcalls.cursor_closed hrest hgranted
      exact ⟨hbefore.cons hopening.1 hopening.2, hinner⟩
  | closed h h' =>
    have hclosing : kind.closing ≠ .openCursor := by cases kind <;> simp [closing]
    exact absurd (List.mem_singleton.mp hmem).symm hclosing
  | nothing h => exact absurd hmem List.not_mem_nil

end ConnectionKind

end WarehouseSchema
