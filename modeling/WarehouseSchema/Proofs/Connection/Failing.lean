import WarehouseSchema.Proofs.Connection.Serving

/-!
How a statement ends when its driver fails. Main statement: a statement ends with the failure of the last
call that fails, as a failure of the query unless that call opens or closes the cursor.
-/

namespace WarehouseSchema

namespace Driver

/-- The last of the calls that fails, with its failure. -/
def lastFailure (driver : Driver) (earlier : List DriverCall) :
    List DriverCall → Option (DriverCall × DriverFailure)
  | [] => none
  | call :: rest =>
    (driver.lastFailure (earlier ++ [call]) rest).or <|
      match driver.reply earlier call with
      | .error f => some (call, f)
      | .ok _ => none

variable {driver : Driver} {earlier : List DriverCall}

theorem lastFailure_append (calls more : List DriverCall) :
    driver.lastFailure earlier (calls ++ more) =
      (driver.lastFailure (earlier ++ calls) more).or (driver.lastFailure earlier calls) := by
  induction calls generalizing earlier with
  | nil => rw [List.nil_append, List.append_nil, lastFailure, Option.or_none]
  | cons call calls ih =>
    rw [List.cons_append, lastFailure, lastFailure, ih, Option.or_assoc, List.append_assoc,
      List.singleton_append]

theorem lastFailure_of_refused {call : DriverCall} {f : DriverFailure}
    (h : driver.reply earlier call = .error f) : driver.lastFailure earlier [call] = some (call, f) := by
  rw [lastFailure, lastFailure, h, Option.none_or]

theorem lastFailure_of_granted {call : DriverCall} {rows : Option (List Record)}
    (h : driver.reply earlier call = .ok rows) : driver.lastFailure earlier [call] = none := by
  rw [lastFailure, lastFailure, h, Option.none_or]

/-- A call that fails is the last one to fail, or is followed by it. -/
theorem lastFailure_of_split {before more : List DriverCall} {call : DriverCall} {f : DriverFailure}
    (h : driver.reply (earlier ++ before) call = .error f) :
    driver.lastFailure earlier (before ++ call :: more) =
      (driver.lastFailure (earlier ++ before ++ [call]) more).or (some (call, f)) := by
  rw [lastFailure_append, lastFailure, h]
  cases driver.lastFailure (earlier ++ before ++ [call]) more <;> rfl

end Driver

namespace ConnectionKind

/-- What becomes of the failure of a call that is made for a statement. -/
def faultOf (sql : String) (call : DriverCall) (f : DriverFailure) : ConnectionFault :=
  match call with
  | .connect _ => wrap none "Failed to connect to Snowflake: " f
  | .openCursor | .closeCursor => .driver f
  | _ => wrap (some sql) "" f

variable {α β : Type} {sql : String} {driver : Driver} {s : ConnectionState}

/-- A result after calls of which this one, if any, is the last that failed. -/
inductive Reported (sql : String) :
    Option (DriverCall × DriverFailure) → Except ConnectionFault α → Prop
  | result (a : α) : Reported sql none (.ok a)
  | fault (call : DriverCall) (f : DriverFailure) :
      Reported sql (some (call, f)) (.error (faultOf sql call f))

/-- Work that ends as its last failing call says. -/
def Reports (sql : String) (work : Driving (Except ConnectionFault α)) : Prop :=
  ∀ driver s, ∃ calls, (work driver s).2.calls = s.calls ++ calls ∧
    Reported sql (driver.lastFailure s.calls calls) (work driver s).1

theorem reports_pure (a : α) : Reports sql (pure (.ok a)) := by
  intro driver s
  exact ⟨[], (List.append_nil _).symm, .result a⟩

/-- Work that makes no calls may come first. -/
theorem reports_of_silent {x : Driving β} {next : β → Driving (Except ConnectionFault α)}
    (hx : ∀ driver s, (x driver s).2.calls = s.calls) (h : ∀ b, Reports sql (next b)) :
    Reports sql (x >>= next) := by
  intro driver s
  obtain ⟨calls, hcalls, hreported⟩ := h (x driver s).1 driver (x driver s).2
  rw [hx driver s] at hcalls hreported
  exact ⟨calls, hcalls, hreported⟩

theorem Reports.bind {work : Driving (Except ConnectionFault β)}
    {next : Except ConnectionFault β → Driving (Except ConnectionFault α)} (h : Reports sql work)
    (herror : ∀ fault, next (.error fault) = pure (.error fault))
    (hok : ∀ b, Reports sql (next (.ok b))) : Reports sql (work >>= next) := by
  intro driver s
  obtain ⟨calls, hcalls, hreported⟩ := h driver s
  rw [driving_bind]
  generalize work driver s = done at hcalls hreported ⊢
  obtain ⟨result, s'⟩ := done
  dsimp only at hcalls hreported ⊢
  generalize hlast : driver.lastFailure s.calls calls = last at hreported
  cases hreported with
  | fault call f =>
    refine ⟨calls, ?_, ?_⟩
    · rw [herror, driving_pure]
      exact hcalls
    · rw [herror, driving_pure, hlast]
      exact .fault call f
  | result b =>
    obtain ⟨more, hmore, hreported⟩ := hok b driver s'
    rw [hcalls] at hmore hreported
    refine ⟨calls ++ more, by rw [hmore, List.append_assoc], ?_⟩
    rw [Driver.lastFailure_append, hlast, Option.or_none]
    exact hreported

/-- A call whose failure is passed on. -/
theorem reports_ask (call : DriverCall)
    {next : Except DriverFailure (Option (List Record)) → Driving (Except ConnectionFault α)}
    (herror : ∀ f, next (.error f) = pure (.error (faultOf sql call f)))
    (hok : ∀ rows, Reports sql (next (.ok rows))) : Reports sql (ask call >>= next) := by
  intro driver s
  rw [driving_bind, driving_ask]
  cases hreply : driver.reply s.calls call with
  | error f =>
    dsimp only
    refine ⟨[call], ?_, ?_⟩
    · rw [herror, driving_pure]
    · rw [herror, driving_pure, Driver.lastFailure_of_refused hreply]
      exact .fault call f
  | ok rows =>
    dsimp only
    obtain ⟨more, hmore, hreported⟩ := hok rows driver { s with calls := s.calls ++ [call] }
    refine ⟨call :: more, by rw [hmore, List.append_assoc, List.singleton_append], ?_⟩
    rw [Driver.lastFailure, hreply, Option.or_none]
    exact hreported

/-- A last call, which is made however the work before it ended and overrules that only by failing. -/
theorem Reports.then_ask {work : Driving (Except ConnectionFault α)}
    {next : Except ConnectionFault α → Driving (Except ConnectionFault α)} (h : Reports sql work)
    (hnext : ∀ result, ∃ call finish, next result = (ask call >>= finish) ∧
      (∀ f, finish (.error f) = pure (.error (faultOf sql call f))) ∧
      ∀ rows, finish (.ok rows) = pure result) : Reports sql (work >>= next) := by
  intro driver s
  obtain ⟨calls, hcalls, hreported⟩ := h driver s
  rw [driving_bind]
  generalize work driver s = done at hcalls hreported ⊢
  obtain ⟨result, s'⟩ := done
  dsimp only at hcalls hreported ⊢
  obtain ⟨call, finish, hcall, herror, hok⟩ := hnext result
  rw [hcall, driving_bind, driving_ask, hcalls]
  cases hreply : driver.reply (s.calls ++ calls) call with
  | error f =>
    dsimp only
    rw [herror, driving_pure]
    refine ⟨calls ++ [call], List.append_assoc _ _ _, ?_⟩
    rw [Driver.lastFailure_append, Driver.lastFailure_of_refused hreply, Option.some_or]
    exact .fault call f
  | ok rows =>
    dsimp only
    rw [hok, driving_pure]
    refine ⟨calls ++ [call], List.append_assoc _ _ _, ?_⟩
    rw [Driver.lastFailure_append, Driver.lastFailure_of_granted hreply, Option.none_or]
    exact hreported

/-! ## The work for a statement -/

theorem reports_runAndFetch (sql : String) : Reports sql (runAndFetch sql) := by
  refine reports_ask (.execute sql) (fun f => rfl) fun ready => ?_
  dsimp only
  unfold fetchIf
  cases ready with
  | none => exact reports_pure []
  | some rows => exact reports_ask .fetch (fun f => rfl) fun fetched => reports_pure (fetched.getD [])

theorem reports_executeWithCursor (sql : String) : Reports sql (executeWithCursor sql) := by
  refine reports_ask .openCursor (fun f => rfl) fun rows => ?_
  refine (reports_runAndFetch sql).then_ask fun result => ?_
  exact ⟨.closeCursor, _, rfl, fun f => rfl, fun rows => rfl⟩

theorem reports_executeInTransaction (sql : String) : Reports sql (executeInTransaction sql) := by
  refine reports_ask .begin (fun f => rfl) fun rows => ?_
  refine (reports_runAndFetch sql).then_ask fun result => ?_
  cases result with
  | ok rows => exact ⟨.commit, _, rfl, fun f => rfl, fun rows => rfl⟩
  | error fault => exact ⟨.rollback, _, rfl, fun f => rfl, fun rows => rfl⟩

theorem reports_connect (sql : String) (parameters : Record) : Reports sql (connect parameters) := by
  refine reports_ask (.connect parameters) (fun f => rfl) fun rows => ?_
  exact reports_of_silent (fun driver s => rfl) fun _ => reports_pure ()

theorem reports_execute (kind : ConnectionKind) (sql : String) : Reports sql (kind.execute sql) := by
  cases kind with
  | direct parameters =>
    refine reports_of_silent (fun driver s => rfl) fun state => ?_
    have hrest : Reports sql ((direct parameters).announce sql >>= fun _ => executeWithCursor sql) :=
      reports_of_silent (fun driver s => rfl) fun _ => reports_executeWithCursor sql
    cases state.live with
    | true => exact (reports_pure ()).bind (fun fault => rfl) fun _ => hrest
    | false => exact (reports_connect sql parameters).bind (fun fault => rfl) fun _ => hrest
  | pooled url =>
    refine reports_of_silent (fun driver s => rfl) fun _ => ?_
    refine reports_of_silent (fun driver s => rfl) fun state => ?_
    cases state.live with
    | true => exact reports_executeInTransaction sql
    | false =>
      refine reports_ask (.createPool url) (fun f => rfl) fun rows => ?_
      exact reports_of_silent (fun driver s => rfl) fun _ => reports_executeInTransaction sql

/-- A statement gives rows exactly when none of its calls fails. Otherwise the last call that fails says
how it ends: with a failure of the query that is made of the driver's, but with the driver's own if that
call opens or closes the cursor. -/
theorem execute_ends_with_last_failure (kind : ConnectionKind) (driver : Driver) (s : ConnectionState)
    (sql : String) : ∃ calls, (kind.execute sql driver s).2.calls = s.calls ++ calls ∧
      ((∃ rows, (kind.execute sql driver s).1 = .ok rows) ↔ driver.lastFailure s.calls calls = none) ∧
      ∀ before call more f, calls = before ++ call :: more →
        driver.reply (s.calls ++ before) call = .error f →
        driver.lastFailure (s.calls ++ before ++ [call]) more = none →
          (kind.execute sql driver s).1 = .error (faultOf sql call f) := by
  obtain ⟨calls, hcalls, hreported⟩ := reports_execute kind sql driver s
  refine ⟨calls, hcalls, ?_, ?_⟩
  · generalize driver.lastFailure s.calls calls = last at hreported
    generalize (kind.execute sql driver s).1 = result at hreported
    cases hreported with
    | result rows => exact ⟨fun _ => rfl, fun _ => ⟨rows, rfl⟩⟩
    | fault call f =>
      constructor
      · rintro ⟨rows, hrows⟩
        cases hrows
      · intro hnone
        cases hnone
  · rintro before call more f rfl hf hmore
    rw [Driver.lastFailure_of_split hf, hmore, Option.none_or] at hreported
    generalize (kind.execute sql driver s).1 = result at hreported
    cases hreported with
    | fault call f => rfl

/-- A driver whose session has ended: it opens no cursors any more. -/
def ended : Driver where
  reply _ call :=
    match call with
    | .openCursor => .error ⟨"DatabaseError", "Connection is closed"⟩
    | _ => .ok none

def held : ConnectionState := ⟨true, [], []⟩

theorem execute_ended : ended.reply [] .openCursor = .error ⟨"DatabaseError", "Connection is closed"⟩ ∧
    ended.lastFailure [.openCursor] [] = none ∧
    ((ConnectionKind.direct []).execute "SELECT 1" ended held).1 =
      .error (faultOf "SELECT 1" .openCursor ⟨"DatabaseError", "Connection is closed"⟩) := by
  refine ⟨rfl, rfl, ?_⟩
  obtain ⟨calls, hcalls, -, hends⟩ :=
    execute_ends_with_last_failure (.direct []) ended held "SELECT 1"
  have hmade : calls = [.openCursor] := hcalls.symm
  exact hends [] .openCursor [] _ hmade rfl rfl

/-- A failure of the driver is not always passed on as one of the query. -/
theorem not_every_failure_of_query : ¬ ∀ (kind : ConnectionKind) (driver : Driver) (s : ConnectionState)
    (sql : String) (calls before more : List DriverCall) (call : DriverCall) (f : DriverFailure),
    (kind.execute sql driver s).2.calls = s.calls ++ calls → calls = before ++ call :: more →
      driver.reply (s.calls ++ before) call = .error f →
        ∃ failure, (kind.execute sql driver s).1 = .error (.query failure) ∧
          failure.cause = some f.kind := by
  intro h
  obtain ⟨failure, hfailure, -⟩ := h (.direct []) ended held "SELECT 1" [.openCursor] [] []
    .openCursor ⟨"DatabaseError", "Connection is closed"⟩ rfl rfl rfl
  have hleak : ((ConnectionKind.direct []).execute "SELECT 1" ended held).1 =
      .error (.driver ⟨"DatabaseError", "Connection is closed"⟩) := rfl
  rw [hleak] at hfailure
  cases hfailure

end ConnectionKind

end WarehouseSchema
