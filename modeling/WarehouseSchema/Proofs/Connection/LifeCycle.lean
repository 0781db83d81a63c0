import Mathlib.Data.List.Infix
import WarehouseSchema.Proofs.Connection.Serving

/-!
The handles of a connection. What a driver has open is counted from the calls that were made and from
its replies; the connection only says whether it holds a handle. A request is inverted once into the
calls that it can make, and the count follows a run of requests from there.
-/

namespace WarehouseSchema

namespace Driver

def count (driver : Driver) (earlier : List DriverCall) (n : Int) (call : DriverCall) : Int :=
  match driver.reply earlier call, call with
  | .ok _, .connect _ => n + 1
  | .ok _, .createPool _ => n + 1
  | .ok _, .disconnect => n - 1
  | .ok _, .dispose => n - 1
  | _, _ => n

/-- The handles that are open after calls, `n` being open before them. -/
def handles (driver : Driver) (earlier : List DriverCall) (n : Int) : List DriverCall → Int
  | [] => n
  | call :: rest => handles driver (earlier ++ [call]) (driver.count earlier n call) rest

variable {driver : Driver} {earlier : List DriverCall} {n : Int}

theorem handles_append (calls more : List DriverCall) :
    driver.handles earlier n (calls ++ more) =
      driver.handles (earlier ++ calls) (driver.handles earlier n calls) more := by
  induction calls generalizing earlier n with
  | nil => rw [List.nil_append, List.append_nil, handles]
  | cons call calls ih =>
    rw [List.cons_append, handles, handles, ih, List.append_assoc, List.singleton_append]

theorem count_of_neutral {call : DriverCall} (ho : ¬ call.Opens) (hg : ¬ call.GivesUp) :
    driver.count earlier n call = n := by
  unfold count
  cases driver.reply earlier call with
  | error f => rfl
  | ok rows =>
    cases call with
    | connect => exact absurd trivial ho
    | createPool => exact absurd trivial ho
    | disconnect => exact absurd trivial hg
    | dispose => exact absurd trivial hg
    | _ => rfl

theorem count_of_opens {call : DriverCall} (ho : call.Opens) (h : driver.Grants earlier call) :
    driver.count earlier n call = n + 1 := by
  obtain ⟨rows, hrows⟩ := h
  unfold count
  rw [hrows]
  cases call with
  | connect => rfl
  | createPool => rfl
  | _ => exact ho.elim

theorem count_of_givesUp {call : DriverCall} (hg : call.GivesUp) (h : driver.Grants earlier call) :
    driver.count earlier n call = n - 1 := by
  obtain ⟨rows, hrows⟩ := h
  unfold count
  rw [hrows]
  cases call with
  | disconnect => rfl
  | dispose => rfl
  | _ => exact hg.elim

theorem count_of_refused {call : DriverCall} {f : DriverFailure}
    (h : driver.reply earlier call = .error f) : driver.count earlier n call = n := by
  unfold count
  rw [h]

/-- Calls that neither open nor give up a handle leave the count as it is, all the while. -/
theorem handles_of_neutral {calls history : List DriverCall}
    (h : ∀ call ∈ calls, ¬ call.Opens ∧ ¬ call.GivesUp) (hp : history <+: calls) :
    driver.handles earlier n history = n := by
  induction history generalizing earlier calls with
  | nil => rfl
  | cons call history ih =>
    obtain ⟨rest, rfl⟩ := hp
    have hcall := h call (by simp)
    rw [handles, count_of_neutral hcall.1 hcall.2]
    exact ih (fun c hc => h c (List.mem_cons_of_mem _ hc)) (List.prefix_append _ _)

/-- The count stays between none and one when it does from the first call on. -/
theorem bounds_cons {call : DriverCall} {calls more : List DriverCall} (hn : 0 ≤ n ∧ n ≤ 1)
    (h : ∀ rest, rest <+: calls → 0 ≤ driver.handles earlier n (call :: rest) ∧
      driver.handles earlier n (call :: rest) ≤ 1) (hmore : more <+: call :: calls) :
    0 ≤ driver.handles earlier n more ∧ driver.handles earlier n more ≤ 1 := by
  rcases List.prefix_cons_iff.mp hmore with rfl | ⟨rest, rfl, hrest⟩
  · exact hn
  · exact h rest hrest

end Driver

namespace ConnectionKind

variable {kind : ConnectionKind} {driver : Driver} {s : ConnectionState}

/-- The connection after requests, however each of them ended. -/
def after (kind : ConnectionKind) (driver : Driver) (s : ConnectionState) (requests : List Request) : ConnectionState :=
  requests.foldl (fun s request => (kind.serve request driver s).2) s

/-- The count of handles agrees with what the connection says of itself, now and at any time before. -/
structure Counted (driver : Driver) (given : Bool) (s : ConnectionState) : Prop where
  bounds : ∀ history, history <+: s.calls →
    0 ≤ driver.handles [] given.toInt history ∧ driver.handles [] given.toInt history ≤ 1
  live : driver.handles [] given.toInt s.calls = s.live.toInt

/-- The counts at all times while a request is served, and after it. -/
theorem Served.handles {request : Request} {result : Except ConnectionFault (List Record)}
    {s' : ConnectionState} {calls : List DriverCall} (hquiet : driver.ClosesQuietly)
    (h : Served kind driver s request result s' calls) :
    (∀ more, more <+: calls → 0 ≤ driver.handles s.calls s.live.toInt more ∧
      driver.handles s.calls s.live.toInt more ≤ 1) ∧
      driver.handles s.calls s.live.toInt calls = s'.live.toInt := by
  have hlive : 0 ≤ s.live.toInt ∧ s.live.toInt ≤ 1 := by
    cases s.live <;> decide
  cases h with
  | held h h' hcalls =>
    refine ⟨fun more hmore => ?_, ?_⟩
    · rw [Driver.handles_of_neutral hcalls.neutral hmore]
      exact hlive
    · rw [Driver.handles_of_neutral hcalls.neutral (List.prefix_refl calls), h, h']
  | refused h h' hf =>
    have hcount : driver.handles s.calls s.live.toInt [kind.opening] = s.live.toInt :=
      Driver.count_of_refused hf
    refine ⟨fun more => Driver.bounds_cons hlive fun rest hrest => ?_, by rw [hcount, h, h']⟩
    rw [List.prefix_nil.mp hrest, hcount]
    exact hlive
  | @opened sql _ _ calls h h' hgranted hcalls =>
    have hcount : ∀ rest, rest <+: calls →
        driver.handles s.calls s.live.toInt (kind.opening :: rest) = 1 := by
      intro rest hrest
      rw [Driver.handles, Driver.handles_of_neutral hcalls.neutral hrest,
        Driver.count_of_opens kind.opening_opens hgranted, h]
      rfl
    refine ⟨fun more => Driver.bounds_cons hlive fun rest hrest => ?_,
      by rw [hcount calls (List.prefix_refl calls), h']; rfl⟩
    rw [hcount rest hrest]
    decide
  | closed h h' =>
    have hcount : driver.handles s.calls s.live.toInt [kind.closing] = 0 := by
      rw [Driver.handles, Driver.handles,
        Driver.count_of_givesUp kind.closing_givesUp (grants_closing kind s.calls hquiet), h]
      rfl
    refine ⟨fun more => Driver.bounds_cons hlive fun rest hrest => ?_, by rw [hcount, h']; rfl⟩
    rw [List.prefix_nil.mp hrest, hcount]
    decide
  | nothing h =>
    refine ⟨fun more hmore => ?_, rfl⟩
    rw [List.prefix_nil.mp hmore]
    exact hlive

theorem Counted.serve {given : Bool} (h : Counted driver given s) (hquiet : driver.ClosesQuietly)
    (kind : ConnectionKind) (request : Request) : Counted driver given (kind.serve request driver s).2 := by
  obtain ⟨calls, hcalls, hserved⟩ := served kind s hquiet request
  obtain ⟨hmore, hall⟩ := hserved.handles hquiet
  have hcount : ∀ more, driver.handles [] given.toInt (s.calls ++ more) =
      driver.handles s.calls s.live.toInt more := by
    intro more
    rw [Driver.handles_append, h.live, List.nil_append]
  constructor
  · intro history hhistory
    rw [hcalls] at hhistory
    obtain ⟨rest, hrest⟩ := hhistory
    rcases List.append_eq_append_iff.mp hrest with ⟨before, hbefore, -⟩ | ⟨more, rfl, hmore'⟩
    · exact h.bounds history ⟨before, hbefore.symm⟩
    · rw [hcount]
      exact hmore more ⟨rest, hmore'.symm⟩
  · rw [hcalls, hcount, hall]

/-- A connection that has done nothing yet; it may be given a handle. -/
def fresh (given : Bool) : ConnectionState := ⟨given, [], []⟩

theorem counted_fresh (given : Bool) : Counted driver given (fresh given) := by
  refine ⟨fun history hhistory => ?_, rfl⟩
  rw [List.prefix_nil.mp hhistory, Driver.handles]
  cases given <;> simp

theorem counted_after (kind : ConnectionKind) (hquiet : driver.ClosesQuietly) (given : Bool)
    (requests : List Request) : Counted driver given (kind.after driver (fresh given) requests) := by
  suffices h : ∀ s, Counted driver given s → Counted driver given (kind.after driver s requests) from
    h _ (counted_fresh given)
  unfold after
  induction requests with
  | nil => exact fun s hs => hs
  | cons request requests ih => exact fun s hs => ih _ (hs.serve hquiet kind request)

/-- The life cycle of handles and cursors over one request: `s` is the connection before it, `s'` the
connection after it, and `calls` are the calls that it makes. -/
structure LifeCycle (kind : ConnectionKind) (driver : Driver) (given : Bool) (s : ConnectionState)
    (request : Request) (result : Except ConnectionFault (List Record)) (s' : ConnectionState)
    (calls : List DriverCall) : Prop where
  calls_eq : s'.calls = s.calls ++ calls
  at_most_one : ∀ history, history <+: s'.calls →
    0 ≤ driver.handles [] given.toInt history ∧ driver.handles [] given.toInt history ≤ 1
  live_before : s.live = true ↔ driver.handles [] given.toInt s.calls = 1
  live_after : s'.live = true ↔ driver.handles [] given.toInt s'.calls = 1
  opens : ∀ before call more, calls = before ++ call :: more → call.Opens →
    s.live = false ∧ before = [] ∧ call = kind.opening ∧ ∃ sql, request = .execute sql
  tries : ∀ sql, request = .execute sql → s.live = false → ∃ more, calls = kind.opening :: more
  refused : ∀ sql f, request = .execute sql → s.live = false →
    driver.reply s.calls kind.opening = .error f →
      s'.live = false ∧ calls = [kind.opening] ∧ ∃ failure, result = .error (.query failure)
  keeps : ∀ sql, request = .execute sql → s.live = true ∨ driver.Grants s.calls kind.opening →
    s'.live = true
  closes : request = .close → result = .ok [] ∧ s'.live = false ∧
    (s.live = true → calls = [kind.closing]) ∧ (s.live = false → calls = [] ∧ s' = s)
  gives_up : ∀ call ∈ calls, call.GivesUp → request = .close
  cursors : ∀ before more, calls = before ++ .openCursor :: more →
    driver.Grants (s.calls ++ before) .openCursor →
      DriverCall.CursorFree before ∧
        ∃ inner, more = inner ++ [.closeCursor] ∧ DriverCall.CursorFree inner

theorem toInt_eq_one_iff {live : Bool} : live = true ↔ live.toInt = 1 := by
  cases live <;> simp

/-- Whatever a driver replies, as long as closing succeeds, a connection keeps its life cycle over
every request that follows other requests. -/
theorem lifeCycle_of_requests (hquiet : driver.ClosesQuietly) (given : Bool)
    (before : List Request) (request : Request) : ∃ calls,
    LifeCycle kind driver given (kind.after driver (fresh given) before) request
      (kind.serve request driver (kind.after driver (fresh given) before)).1
      (kind.serve request driver (kind.after driver (fresh given) before)).2 calls := by
  have hbefore := counted_after kind hquiet given before
  have hafter := hbefore.serve hquiet kind request
  obtain ⟨calls, hcalls, h⟩ := served kind
    (kind.after driver (fresh given) before) hquiet request
  generalize kind.after driver (fresh given) before = s at hbefore hafter hcalls h ⊢
  generalize kind.serve request driver s = served at hafter hcalls h ⊢
  obtain ⟨result, s'⟩ := served
  refine ⟨calls, {
    calls_eq := hcalls
    at_most_one := hafter.bounds
    live_before := by rw [hbefore.live]; exact toInt_eq_one_iff
    live_after := by rw [hafter.live]; exact toInt_eq_one_iff
    opens := fun _ _ _ hsplit hopens => h.opens hsplit hopens
    tries := ?tries
    refused := ?refused
    keeps := ?keeps
    closes := ?closes
    gives_up := fun _ hmem hgivesUp => h.gives_up hmem hgivesUp
    cursors := fun _ _ hsplit hgranted => h.cursor_closed hsplit hgranted }⟩
  case tries =>
    rintro sql rfl hlive
    cases h with
    | held h _ _ => rw [h] at hlive; cases hlive
    | refused _ _ _ => exact ⟨[], rfl⟩
    | opened _ _ _ _ => exact ⟨_, rfl⟩
  case refused =>
    rintro sql f rfl hlive hf
    cases h with
    | held h _ _ => rw [h] at hlive; cases hlive
    | refused _ h' _ => exact ⟨h', rfl, _, rfl⟩
    | opened _ _ hgranted _ =>
      obtain ⟨rows, hrows⟩ := hgranted
      rw [hf] at hrows
      cases hrows
  case keeps =>
    rintro sql rfl hheld
    cases h with
    | held _ h' _ => exact h'
    | opened _ h' _ _ => exact h'
    | refused h _ hf =>
      rcases hheld with hlive | ⟨rows, hrows⟩
      · rw [h] at hlive
        cases hlive
      · rw [hf] at hrows
        cases hrows
  case closes =>
    rintro rfl
    cases h with
    | closed h h' =>
      refine ⟨rfl, h', fun _ => rfl, fun hlive => ?_⟩
      rw [h] at hlive
      cases hlive
    | nothing h =>
      refine ⟨rfl, h, fun hlive => ?_, fun _ => ⟨rfl, rfl⟩⟩
      rw [h] at hlive
      cases hlive

/-- A driver that refuses the first attempt to connect and every statement. -/
def reluctant : Driver where
  reply earlier call :=
    match call with
    | .connect _ => if earlier.isEmpty then .error ⟨"Error", "no route"⟩ else .ok none
    | .execute _ => .error ⟨"Error", "syntax error"⟩
    | _ => .ok none

theorem reluctant_closesQuietly : reluctant.ClosesQuietly :=
  ⟨fun _ => ⟨none, rfl⟩, fun _ => ⟨none, rfl⟩, fun _ => ⟨none, rfl⟩⟩

theorem lifeCycle_of_reluctant : reluctant.ClosesQuietly ∧ ∃ calls,
    LifeCycle (.direct []) reluctant false
      (after (.direct []) reluctant (fresh false) [.execute "SELECT 1", .execute "SELECT 1"]) .close
      (serve (.direct []) .close reluctant
        (after (.direct []) reluctant (fresh false) [.execute "SELECT 1", .execute "SELECT 1"])).1
      (serve (.direct []) .close reluctant
        (after (.direct []) reluctant (fresh false) [.execute "SELECT 1", .execute "SELECT 1"])).2
      calls :=
  ⟨reluctant_closesQuietly, lifeCycle_of_requests reluctant_closesQuietly false
    [.execute "SELECT 1", .execute "SELECT 1"] .close⟩

example : (after (.direct []) reluctant (fresh false)
    [.execute "SELECT 1", .execute "SELECT 1", .close, .close]).calls =
      [.connect [], .connect [], .openCursor, .execute "SELECT 1", .closeCursor, .disconnect] := rfl

end ConnectionKind

end WarehouseSchema
