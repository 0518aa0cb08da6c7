import Astrix.Client
import Astrix.Library.StepMachine

/-!
# The session ids of `VirtualConn.open`

`open` packs two clock readings into an id: `loop.time()`, which is a float, and
`time.monotonic_ns()`, an int. Only ints have `to_bytes`. The runs below are
those of a client whose SOCKS connections call `open` at any readings, between
any other steps of the connections and of the carrier.
-/

namespace Astrix

open PyRuntime

set_option autoImplicit false

/-- An int of any size, or a finite float by its value. -/
inductive PyNumber where
  | int (value : Int)
  | float (value : ℚ)
  deriving DecidableEq, Repr

/-- What `open` raises before it has an id. -/
inductive OpenError where
  | attributeError
  | overflowError
  deriving DecidableEq, Repr

/-- `number.to_bytes(width, "big")`. -/
def PyNumber.toBytes (width : Nat) : PyNumber → Except OpenError Bytes
  | .int value =>
      if 0 ≤ value ∧ value < 256 ^ width then .ok (bigEndian width value.toNat)
      else .error .overflowError
  | .float _ => .error .attributeError

/-- The id for the readings of `loop.time()` and `time.monotonic_ns()`. -/
def packSessionId (loopTime t : PyNumber) : Except OpenError Bytes := do
  let head ← loopTime.toBytes 4
  let tail ← t.toBytes 8
  return head ++ List.replicate 4 0 ++ tail

/-- One call of `open` and the clock readings it makes. -/
structure OpenCall where
  loopTime : ℚ
  monotonicNs : Nat
  now : ℚ
  target : Text
  deriving DecidableEq

def OpenCall.sessionId (call : OpenCall) : Except OpenError Bytes :=
  packSessionId (.float call.loopTime) (.int call.monotonicNs)

/-- The whole call. Nothing is awaited before the id is there. -/
def Client.openCall (client : Client) (call : OpenCall) : Client × Except OpenError Bytes :=
  match call.sessionId with
  | .error error => (client, .error error)
  | .ok sid =>
      let (pool, conn) := VirtualConn.openSession client.pool sid call.target call.now
      ({ client with pool := pool, conns := client.conns ++ [conn] }, .ok sid)

inductive OpenAction where
  | call (call : OpenCall)
  | client (action : ClientAction)
  | answered (index : Nat) (answer : Answer) (sent : Nat) (rttMs now : ℚ)
  deriving DecidableEq

/-- The client, what each call returned or raised, and the last reading of
`time.monotonic_ns()`. -/
structure OpenLog where
  client : Client
  results : List (Except OpenError Bytes)
  lastNs : Nat
  requests : Nat

def OpenLog.start (clientId : Bytes) (endpoints : Nat) : OpenLog where
  client := Client.start clientId endpoints
  results := []
  lastNs := 0
  requests := 0

def OpenLog.step (log : OpenLog) : OpenAction → Option OpenLog
  | .call call =>
      let (client, result) := log.client.openCall call
      some { log with
        client := client
        results := log.results ++ [result]
        lastNs := call.monotonicNs }
  | .client (.openConn _ _ _) => none
  | .client action => (log.client.react log.requests action).map fun (client, _) =>
      { log with client := client, requests := log.requests + 1 }
  | .answered index answer sent rttMs now =>
      (log.client.answered index answer sent rttMs now).map fun client =>
        { log with client := client }

def openMachine : StepMachine OpenLog OpenAction := ⟨OpenLog.step⟩

/-- What the clocks of the event loop can read. -/
def ClocksRun (log : OpenLog) : OpenAction → Prop
  | .call call => 0 ≤ call.loopTime ∧ log.lastNs ≤ call.monotonicNs
  | _ => True

instance (log : OpenLog) (action : OpenAction) : Decidable (ClocksRun log action) :=
  match action with
  | .call call => inferInstanceAs (Decidable (0 ≤ call.loopTime ∧ log.lastNs ≤ call.monotonicNs))
  | .client _ => isTrue trivial
  | .answered _ _ _ _ _ => isTrue trivial

/-- Every call returned an id of its own, and no two connections share a session. -/
structure FreshIds (log : OpenLog) : Prop where
  returned : ∀ result ∈ log.results, ∃ sid, result = .ok sid ∧ sid.length = SessionIDLen
  distinct : log.results.Nodup
  sessions : (log.client.conns.map VirtualConn.session).Nodup

def OpenAction.isCall : OpenAction → Bool
  | .call _ => true
  | _ => false

theorem to_bytes_int {width : Nat} {number : PyNumber} {bytes : Bytes}
    (packed : number.toBytes width = .ok bytes) :
    bytes.length = width ∧ number = .int (readBigEndian bytes) := by
  cases number with
  | float value => cases packed
  | int value =>
      rw [PyNumber.toBytes] at packed
      split_ifs at packed with fits
      cases packed
      have bound : value.toNat < 256 ^ width := by
        rw [Int.toNat_lt fits.1]
        exact_mod_cast fits.2
      refine ⟨big_endian_length _ _, ?_⟩
      rw [read_big_endian_of_lt width value.toNat bound, Int.toNat_of_nonneg fits.1]

/-- With an int in the place of the float, ids would be as distinct as the
readings they are packed from. -/
theorem packed_readings {first second : PyNumber} {sid : Bytes}
    (packed : packSessionId first second = .ok sid) :
    sid.length = SessionIDLen ∧ first = .int (readBigEndian (sid.take 4)) ∧
      second = .int (readBigEndian (sid.drop 8)) := by
  unfold packSessionId at packed
  obtain ⟨head, isHead, packed⟩ := (bind_ok_iff _ _ _).mp packed
  obtain ⟨tail, isTail, packed⟩ := (bind_ok_iff _ _ _).mp packed
  cases packed
  obtain ⟨headLength, firstRead⟩ := to_bytes_int isHead
  obtain ⟨tailLength, secondRead⟩ := to_bytes_int isTail
  have front : (head ++ List.replicate 4 0).length = 8 := by
    rw [List.length_append, headLength, List.length_replicate]
  refine ⟨?_, ?_, ?_⟩
  · rw [List.length_append, front, tailLength]
    rfl
  · rw [List.append_assoc, List.take_left' headLength]
    exact firstRead
  · rw [List.drop_left' front]
    exact secondRead

theorem open_call_raises (client : Client) (call : OpenCall) :
    client.openCall call = (client, .error .attributeError) := rfl

/-- All calls so far raised, and there is no connection. -/
structure NothingOpened (calls : Nat) (log : OpenLog) : Prop where
  results : log.results = List.replicate calls (.error .attributeError)
  conns : log.client.conns = []

theorem client_conns_stay {client later : Client} {request : Nat} {action : ClientAction}
    {sent : Option Post} (none : client.conns = [])
    (notOpen : ∀ sid target now, action ≠ .openConn sid target now)
    (reacted : client.react request action = some (later, sent)) : later.conns = [] := by
  cases Client.react_reacted reacted with
  | opened sid target now pool conns => exact absurd rfl (notOpen sid target now)
  | wrote index data conn conn' found written pool conns =>
      rw [none] at found
      cases found
  | acted index act conn conn' effect found acted pool conns =>
      rw [none] at found
      cases found
  | idle action call called unsent pool conns => exact conns.trans none
  | posted action call called returned encodes pool conns => exact conns.trans none
  | still action pool conns => exact conns.trans none

theorem answered_conns {client later : Client} {index sent : Nat} {answer : Answer}
    {rttMs now : ℚ} (answered : client.answered index answer sent rttMs now = some later) :
    later.conns = client.conns := by
  unfold Client.answered at answered
  split at answered
  · split at answered
    · cases answered
      rfl
    · cases answered
  · cases answered

theorem nothing_opened_step {calls : Nat} {log later : OpenLog} {action : OpenAction}
    (nothing : NothingOpened calls log) (stepped : log.step action = some later) :
    NothingOpened (calls + if action.isCall then 1 else 0) later := by
  cases action with
  | call call =>
      cases stepped
      refine ⟨?_, nothing.conns⟩
      have results : log.results ++ [(log.client.openCall call).2] =
          List.replicate (calls + 1) (.error .attributeError) := by
        rw [open_call_raises, nothing.results, List.replicate_succ']
      exact results
  | client action =>
      have notOpen : ∀ sid target now, action ≠ .openConn sid target now := by
        rintro sid target now rfl
        cases stepped
      have reacts : (log.client.react log.requests action).map (fun (client, _) =>
          { log with client := client, requests := log.requests + 1 }) = some later := by
        cases action with
        | openConn sid target now => exact absurd rfl (notOpen sid target now)
        | write | conn | work | heard | cooled | health | stop => exact stepped
      obtain ⟨⟨client, sent⟩, reacted, rfl⟩ := Option.map_eq_some_iff.mp reacts
      exact ⟨nothing.results, client_conns_stay nothing.conns notOpen reacted⟩
  | answered index answer sent rttMs now =>
      obtain ⟨client, answered, rfl⟩ := Option.map_eq_some_iff.mp stepped
      exact ⟨nothing.results, (answered_conns answered).trans nothing.conns⟩

theorem run_nothing_opened {clientId : Bytes} {endpoints : Nat} {history : List OpenAction}
    {log : OpenLog} (run : openMachine.Run ClocksRun (.start clientId endpoints) history log) :
    NothingOpened (history.countP OpenAction.isCall) log := by
  refine @StepMachine.Run.invariant_with_history _ _ _ _ _ _ _
    (fun past log => NothingOpened (past.countP OpenAction.isCall) log) run ⟨rfl, rfl⟩ ?_
  intro past log action later nothing _ stepped
  rw [List.countP_append, List.countP_singleton]
  exact nothing_opened_step nothing stepped

/-- The ids are fresh in a run exactly when `open` was never called in it: every
call raises. -/
theorem fresh_ids_iff_never_called {clientId : Bytes} {endpoints : Nat}
    {history : List OpenAction} {log : OpenLog}
    (run : openMachine.Run ClocksRun (.start clientId endpoints) history log) :
    FreshIds log ↔ ∀ action ∈ history, action.isCall = false := by
  obtain ⟨results, conns⟩ := run_nothing_opened run
  constructor
  · intro fresh action member
    by_contra called
    have positive : 0 < history.countP OpenAction.isCall :=
      List.countP_pos_iff.mpr ⟨action, member, Bool.of_not_eq_false called⟩
    have raised : Except.error OpenError.attributeError ∈ log.results := by
      rw [results]
      exact List.mem_replicate.mpr ⟨Nat.ne_of_gt positive, rfl⟩
    obtain ⟨sid, returned, _⟩ := fresh.returned _ raised
    cases returned
  · intro uncalled
    have zero : history.countP OpenAction.isCall = 0 :=
      List.countP_eq_zero.mpr fun action member called =>
        Bool.noConfusion ((uncalled action member).symm.trans called)
    rw [zero, List.replicate_zero] at results
    refine ⟨?_, ?_, ?_⟩
    · rw [results]
      exact List.forall_mem_nil _
    · rw [results]
      exact List.nodup_nil
    · rw [conns]
      exact List.nodup_nil

/-- A connection that comes a second and a half after the loop was started. -/
def firstCall : OpenAction := .call ⟨3 / 2, 1500000000, 0, [97]⟩

theorem first_call_not_fresh : ∃ log : OpenLog,
    log.results = [.error .attributeError] ∧ ¬ FreshIds log := by
  have passed : ((openMachine.exec ClocksRun (.start zeroId 1) [firstCall]).any fun log =>
      decide (log.results = [.error .attributeError])) = true := by
    decide +kernel
  obtain ⟨log, run, raised⟩ := StepMachine.run_of_exec_any _ passed
  refine ⟨log, of_decide_eq_true raised, fun fresh => ?_⟩
  have uncalled := (fresh_ids_iff_never_called run).mp fresh firstCall List.mem_cons_self
  cases uncalled

theorem open_raises :
    ¬ ∀ clientId endpoints history log,
      openMachine.Run ClocksRun (.start clientId endpoints) history log → FreshIds log := by
  intro always
  have passed : ((openMachine.exec ClocksRun (.start zeroId 1) [firstCall]).any fun log =>
      decide (.error .attributeError ∈ log.results)) = true := by
    decide +kernel
  obtain ⟨log, run, raised⟩ := StepMachine.run_of_exec_any _ passed
  obtain ⟨sid, returned, _⟩ := (always _ _ _ _ run).returned _ (of_decide_eq_true raised)
  cases returned

end Astrix
