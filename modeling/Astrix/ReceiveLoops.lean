import Astrix.Library.WakeLoop
import Astrix.LostConnection
import Astrix.WorkerRuns

/-!
# The receive loops

`VirtualConn._read_loop` and `write_downstream` take the frames of a session's
`rx_q` in the same way. Both are readers that wait for an event, stopped by a
FIN or RST frame; the payloads of all other frames are what they write.
-/

namespace Astrix

open PyRuntime SessionPool

set_option autoImplicit false

inductive ConnEvent where
  | enqueueRx (frame : Frame) (now : ℚ)
  | write (data : Bytes)
  | act (action : ConnAct)
  deriving DecidableEq

/-- A connection with the frames put on its session's `rx_q` and taken from it. -/
structure ConnLog where
  pool : SessionPool
  conn : VirtualConn
  enqueued : List Frame
  popped : List Frame

/-- The frames an effect takes from a receive queue. -/
def ConnEffect.taken (rxQ : List Frame) : ConnEffect → List Frame
  | .popRx => rxQ.take 1
  | .nothing | .sendData _ _ _ | .sendFin _ _ | .clearRxEvent => []

namespace ConnLog

/-- A connection just opened. -/
def opened (pool : SessionPool) (sid : Bytes) (target : Text) (now : ℚ) : ConnLog where
  pool := (VirtualConn.openSession pool sid target now).1
  conn := (VirtualConn.openSession pool sid target now).2
  enqueued := []
  popped := []

def session (log : ConnLog) : Session := log.pool.objects log.conn.session

/-- The connection has acted on its session. -/
def after (log : ConnLog) (conn : VirtualConn) (effect : ConnEffect) : ConnLog :=
  { log with
    pool := effect.apply log.pool log.conn.session
    conn := conn
    popped := log.popped ++ effect.taken log.session.rxQ }

def step (log : ConnLog) : ConnEvent → Option ConnLog
  | .enqueueRx frame now =>
      some { log with
        pool := log.pool.enqueueRx log.conn.session frame now
        enqueued := log.enqueued ++ [frame] }
  | .write data => (log.conn.write data).map fun conn => { log with conn := conn }
  | .act action => (log.conn.act log.session action).map fun acted => log.after acted.1 acted.2

end ConnLog

def connMachine : StepMachine ConnLog ConnEvent := ⟨ConnLog.step⟩

/-- The transport is closed by the read loop alone. -/
def ConnLog.Undisturbed (_ : ConnLog) (event : ConnEvent) : Prop :=
  event ≠ .act .transportLost

/-- Writes to the upstream succeed and the reader does not end the worker. -/
def WorkerLog.Undisturbed (_ : WorkerLog) (event : WorkerEvent) : Prop :=
  event ≠ .act .writeFailed ∧ event ≠ .act .writerCancelled

instance (log : ConnLog) (event : ConnEvent) : Decidable (log.Undisturbed event) :=
  inferInstanceAs (Decidable (event ≠ .act .transportLost))

instance (log : WorkerLog) (event : WorkerEvent) : Decidable (log.Undisturbed event) :=
  inferInstanceAs (Decidable (event ≠ .act .writeFailed ∧ event ≠ .act .writerCancelled))

def ReaderState.phase : ReaderState → WakeLoop.Phase
  | .waiting => .waiting
  | .draining => .draining
  | .ended => .ended

def WriterState.phase : WriterState → WakeLoop.Phase
  | .waiting => .waiting
  | .draining => .draining
  | .done => .ended

def ConnLog.view (log : ConnLog) : WakeLoop Frame UInt8 where
  queue := log.session.rxQ
  event := log.session.rxEvent
  phase := log.conn.reader.phase
  given := log.enqueued
  taken := log.popped
  written := log.conn.written.flatten

def WorkerLog.view (log : WorkerLog) : WakeLoop Frame UInt8 where
  queue := log.session.rxQ
  event := log.session.rxEvent
  phase := log.worker.writer.phase
  given := log.enqueued
  taken := log.popped
  written := log.worker.written.flatten

section Server

variable {log later : WorkerLog} {action : WorkerAct} {worker : UpstreamWorker}
  {effect : UpstreamEffect}

theorem worker_view_after (same : worker.session = log.worker.session) :
    (log.after action worker effect).view =
      { queue := (effect.onSession log.session).rxQ
        event := (effect.onSession log.session).rxEvent
        phase := worker.writer.phase
        given := log.enqueued
        taken := log.popped ++ effect.taken log.session.rxQ
        written := worker.written.flatten } := by
  rw [WorkerLog.view, WorkerLog.after_session log action same effect]
  rfl

/-- An act that leaves the receive side of its session and the writer alone. -/
theorem worker_idle (same : worker.session = log.worker.session)
    (writer : worker.writer = log.worker.writer) (written : worker.written = log.worker.written)
    (elsewhere : effect = .nothing ∨ ∃ frame now, effect = .enqueueTx frame now) :
    log.view.step Frame.ends Frame.payload .idle =
      some (log.after action worker effect).view := by
  rw [worker_view_after same, writer, written]
  rcases elsewhere with rfl | ⟨frame, now, rfl⟩
  · simp [WakeLoop.step, WorkerLog.view, UpstreamEffect.taken, UpstreamEffect.onSession]
  · simp [WakeLoop.step, WorkerLog.view, UpstreamEffect.taken, UpstreamEffect.onSession,
      Session.enqueueTx]

theorem worker_pop_moves (draining : log.worker.writer = .draining)
    (popped : log.worker.pop log.session = (worker, effect)) :
    log.view.step Frame.ends Frame.payload .take =
      some (log.after .pop worker effect).view := by
  have phase : log.view.phase = .draining := congrArg WriterState.phase draining
  have queue : log.view.queue = log.session.rxQ := rfl
  rw [WakeLoop.step, if_pos phase, WakeLoop.takeNext, queue,
    worker_view_after (UpstreamWorker.pop_acted popped).1]
  cases UpstreamWorker.pop_cases popped with
  | emptied empty =>
      rw [empty]
      simp [WorkerLog.view, UpstreamEffect.taken, UpstreamEffect.onSession, empty,
        WriterState.phase]
  | closed f rest received closing =>
      have stop : f.ends = true := closing
      rw [received]
      simp [WorkerLog.view, UpstreamEffect.taken, UpstreamEffect.onSession, received, stop,
        Session.popRx, WriterState.phase]
  | wrote f rest received plain payload =>
      have pass : f.ends = false := plain
      rw [received]
      simp [WorkerLog.view, UpstreamEffect.taken, UpstreamEffect.onSession, received, pass,
        Session.popRx, WriterState.phase, draining]
  | skipped f rest received plain payload =>
      have pass : f.ends = false := plain
      rw [received]
      simp [WorkerLog.view, UpstreamEffect.taken, UpstreamEffect.onSession, received, pass,
        Session.popRx, WriterState.phase, draining, payload]

/-- Every step of an undisturbed worker is a move of its receive loop. -/
theorem worker_moves {event : WorkerEvent} (permitted : log.Undisturbed event)
    (stepped : log.step event = some later) :
    ∃ move, log.view.step Frame.ends Frame.payload move = some later.view := by
  cases event with
  | enqueueRx frame now =>
      cases stepped
      refine ⟨.put frame, ?_⟩
      simp [WakeLoop.step, WorkerLog.view, WorkerLog.session, SessionPool.enqueueRx,
        Session.enqueueRx]
  | act action =>
      obtain ⟨worker, effect, acted, rfl⟩ := WorkerLog.act_stepped stepped
      cases UpstreamWorker.act_cases acted with
      | noTarget | begun | dialed | unencodable | dialRaised | finish =>
          exact ⟨.idle, worker_idle rfl rfl rfl (.inl rfl)⟩
      | dialFailed message now payload =>
          exact ⟨.idle, worker_idle rfl rfl rfl (.inr ⟨_, now, rfl⟩)⟩
      | read data now => exact ⟨.idle, worker_idle rfl rfl rfl (.inr ⟨_, now, rfl⟩)⟩
      | readEnded now => exact ⟨.idle, worker_idle rfl rfl rfl (.inr ⟨_, now, rfl⟩)⟩
      | wake stage waiting event =>
          refine ⟨.wake, ?_⟩
          rw [worker_view_after (UpstreamWorker.act_acted acted).1]
          simp [WakeLoop.step, WorkerLog.view, UpstreamEffect.taken, UpstreamEffect.onSession,
            Session.clearRxEvent, waiting, event, WriterState.phase]
      | pop _ _ stage draining popped => exact ⟨.take, worker_pop_moves draining popped⟩
      | writeFailed => exact absurd rfl permitted.1
      | writerCancelled => exact absurd rfl permitted.2

end Server

section Client

variable {log later : ConnLog} {conn : VirtualConn} {effect : ConnEffect}

/-- While the transport is open the loop runs, and `close` is called only by the
loop, which ends with that. -/
structure ClosedByLoop (conn : VirtualConn) : Prop where
  closed : conn.closed = true → conn.reader = .ended
  transport : conn.transportClosing = true → conn.reader = .ended
  finishing : conn.finishing = true → conn.reader = .ended

theorem conn_view_after (same : conn.session = log.conn.session) :
    (log.after conn effect).view =
      { queue := (effect.onSession log.session).rxQ
        event := (effect.onSession log.session).rxEvent
        phase := conn.reader.phase
        given := log.enqueued
        taken := log.popped ++ effect.taken log.session.rxQ
        written := conn.written.flatten } := by
  have object := conn_effect_object log.pool log.conn.session effect
  simp only [ConnLog.view, ConnLog.session, ConnLog.after, same, object]

theorem conn_pop_moves (byLoop : ClosedByLoop log.conn) (draining : log.conn.reader = .draining)
    (popped : log.conn.pop log.session = (conn, effect)) :
    log.view.step Frame.ends Frame.payload .take = some (log.after conn effect).view ∧
      ClosedByLoop conn := by
  have phase : log.view.phase = .draining := congrArg ReaderState.phase draining
  have queue : log.view.queue = log.session.rxQ := rfl
  rw [WakeLoop.step, if_pos phase, WakeLoop.takeNext, queue,
    conn_view_after (VirtualConn.pop_acted popped).1.session]
  have running : log.conn.reader ≠ .ended := by rw [draining]; decide
  cases VirtualConn.pop_cases popped with
  | stopped closed => exact absurd (byLoop.closed closed) running
  | emptied opened empty =>
      rw [empty]
      constructor
      · simp [ConnLog.view, ConnEffect.taken, ConnEffect.onSession, empty, ReaderState.phase]
      · exact ⟨fun closed => absurd (byLoop.closed closed) running,
          fun transport => absurd (byLoop.transport transport) running,
          fun finishing => absurd (byLoop.finishing finishing) running⟩
  | ended f rest opened received closing =>
      have stop : f.ends = true := closing
      rw [received]
      constructor
      · simp [ConnLog.view, ConnEffect.taken, ConnEffect.onSession, received, stop, Session.popRx,
          ReaderState.phase]
      · exact ⟨fun _ => rfl, fun _ => rfl, fun _ => rfl⟩
  | wrote f rest opened received plain payload transport =>
      have pass : f.ends = false := plain
      rw [received]
      constructor
      · simp [ConnLog.view, ConnEffect.taken, ConnEffect.onSession, received, pass, Session.popRx,
          ReaderState.phase, draining]
      · exact ⟨byLoop.closed, byLoop.transport, byLoop.finishing⟩
  | skipped f rest opened received plain dropped =>
      have pass : f.ends = false := plain
      have empty : f.payload = [] :=
        dropped.resolve_right fun transport => running (byLoop.transport transport)
      rw [received]
      constructor
      · simp [ConnLog.view, ConnEffect.taken, ConnEffect.onSession, received, pass, Session.popRx,
          ReaderState.phase, draining, empty]
      · exact byLoop

/-- Every step of an undisturbed connection is a move of its receive loop. -/
theorem conn_moves {event : ConnEvent} (byLoop : ClosedByLoop log.conn)
    (permitted : log.Undisturbed event) (stepped : log.step event = some later) :
    (∃ move, log.view.step Frame.ends Frame.payload move = some later.view) ∧
      ClosedByLoop later.conn := by
  cases event with
  | enqueueRx frame now =>
      cases stepped
      refine ⟨⟨.put frame, ?_⟩, byLoop⟩
      simp [WakeLoop.step, ConnLog.view, ConnLog.session, SessionPool.enqueueRx,
        Session.enqueueRx]
  | write data =>
      obtain ⟨conn, written, rfl⟩ := Option.map_eq_some_iff.mp stepped
      refine ⟨⟨.idle, ?_⟩, ?_⟩
      · unfold VirtualConn.write at written
        split_ifs at written <;> cases written <;> rfl
      · unfold VirtualConn.write at written
        split_ifs at written <;> cases written <;>
          exact ⟨byLoop.closed, byLoop.transport, byLoop.finishing⟩
  | act action =>
      obtain ⟨⟨conn, effect⟩, acted, rfl⟩ := Option.map_eq_some_iff.mp stepped
      have after := @conn_view_after log conn effect (VirtualConn.act_acted acted).1.session
      cases VirtualConn.act_cases acted with
      | drainChunk now data rest running head =>
          refine ⟨⟨.idle, ?_⟩, ⟨byLoop.closed, byLoop.transport, byLoop.finishing⟩⟩
          dsimp only
          rw [after]
          simp [WakeLoop.step, ConnLog.view, ConnEffect.taken, ConnEffect.onSession,
            Session.enqueueTx, Session.setSeq]
      | wakeClosed waiting event closed =>
          cases waiting.symm.trans (byLoop.closed closed)
      | wake waiting event opened =>
          have running : log.conn.reader ≠ .ended := by rw [waiting]; decide
          constructor
          · refine ⟨.wake, ?_⟩
            dsimp only
            rw [after]
            simp [WakeLoop.step, ConnLog.view, ConnEffect.taken, ConnEffect.onSession,
              Session.clearRxEvent, waiting, event, ReaderState.phase]
          · exact ⟨fun closed => absurd (byLoop.closed closed) running,
              fun transport => absurd (byLoop.transport transport) running,
              fun finishing => absurd (byLoop.finishing finishing) running⟩
      | pop _ _ draining popped =>
          obtain ⟨moved, kept⟩ := conn_pop_moves byLoop draining popped
          exact ⟨⟨.take, moved⟩, kept⟩
      | finishClose now pending =>
          -- the event is set once more, with nothing new queued
          have ended := byLoop.finishing pending
          refine ⟨⟨.set, ?_⟩, ⟨byLoop.closed, fun _ => ended, fun _ => ended⟩⟩
          dsimp only
          rw [after]
          simp [WakeLoop.step, ConnLog.view, ConnEffect.taken, ConnEffect.onSession,
            Session.enqueueTx]
      | transportLost => exact absurd rfl permitted

theorem opened_view (pool : SessionPool) (sid : Bytes) (target : Text) (now : ℚ)
    (missing : pool.get sid = none) :
    (ConnLog.opened pool sid target now).view = WakeLoop.start Frame UInt8 ∧
      ClosedByLoop (ConnLog.opened pool sid target now).conn := by
  have made := VirtualConn.open_session_made target now missing
  have object : (ConnLog.opened pool sid target now).session =
      ((Session.create sid FlagSYN target now).enqueueTx (synFrame sid target) now).1 := by
    rw [ConnLog.session, ConnLog.opened, made.session]
    exact made.object
  constructor
  · rw [ConnLog.view, object]
    rfl
  · exact ⟨fun closed => (by cases closed), fun transport => (by cases transport),
      fun finishing => (by cases finishing)⟩

end Client

theorem spawned_view (pool : SessionPool) (syn : Frame) (now : ℚ) (activeConns : Int)
    (missing : pool.get syn.sessionId = none) :
    (WorkerLog.spawned (synPool pool syn now) pool.fresh activeConns).view =
      WakeLoop.start Frame UInt8 := by
  have object : (WorkerLog.spawned (synPool pool syn now) pool.fresh activeConns).session =
      (Session.create syn.sessionId syn.flags syn.target now).setSeq (syn.seq + 1) := by
    rcases get_or_create_cases pool syn.sessionId syn.flags syn.target now with
      ⟨ref, found, _⟩ | ⟨_, made⟩
    · cases missing.symm.trans found
    · have session : (WorkerLog.spawned (synPool pool syn now) pool.fresh activeConns).session =
          (synPool pool syn now).objects pool.fresh := rfl
      rw [session, synPool, made, set_seq_objects, if_pos rfl, insert_objects, if_pos rfl]
  rw [WorkerLog.view, object]
  rfl

/-- What holds of a receive loop at every moment: a loop that would sleep has
nothing to take, what is written is what was popped, and what was popped and
what is queued are the frames enqueued. -/
structure ReceivesInOrder (parked : Prop) (s : Session) (enqueued popped : List Frame)
    (written : List Bytes) : Prop where
  awake : parked → s.rxEvent = false → s.rxQ = []
  written : written.flatten = (popped.filter fun f => !f.ends).flatMap Frame.payload
  order : popped ++ s.rxQ = enqueued

theorem in_order_of_view {loop : WakeLoop Frame UInt8} {parked : Prop} {s : Session}
    {enqueued popped : List Frame} {written : List Bytes}
    (sound : loop.Sound Frame.ends Frame.payload) (waiting : parked → loop.phase = .waiting)
    (same : loop = { loop with
      queue := s.rxQ, event := s.rxEvent, given := enqueued, taken := popped
      written := written.flatten }) :
    ReceivesInOrder parked s enqueued popped written := by
  rw [same] at sound
  exact ⟨fun parked => sound.awake (waiting parked), sound.output, sound.conserved⟩

/-- In every run of an undisturbed reader, of the client and of the server. -/
theorem receive_loops_in_order :
    (∀ (pool : SessionPool) (sid : Bytes) (target : Text) (now : ℚ), pool.get sid = none →
      ∀ (history : List ConnEvent) (log : ConnLog),
      connMachine.Run ConnLog.Undisturbed (ConnLog.opened pool sid target now) history log →
      ReceivesInOrder (log.conn.reader = .waiting) log.session log.enqueued log.popped
        log.conn.written ∧
      ∀ f ∈ log.popped, f.ends = true → ∀ (more : List ConnEvent) (later : ConnLog),
        connMachine.Run ConnLog.Undisturbed log more later →
        later.conn.written.flatten = log.conn.written.flatten) ∧
    (∀ (pool : SessionPool) (syn : Frame) (now : ℚ) (activeConns : Int),
      pool.get syn.sessionId = none → ∀ (history : List WorkerEvent) (log : WorkerLog),
      workerMachine.Run WorkerLog.Undisturbed
        (WorkerLog.spawned (synPool pool syn now) pool.fresh activeConns) history log →
      ReceivesInOrder (log.worker.writer = .waiting) log.session log.enqueued log.popped
        log.worker.written ∧
      ∀ f ∈ log.popped, f.ends = true → ∀ (more : List WorkerEvent) (later : WorkerLog),
        workerMachine.Run WorkerLog.Undisturbed log more later →
        later.worker.written.flatten = log.worker.written.flatten) := by
  constructor
  · intro pool sid target now missing history log run
    obtain ⟨fresh, byLoop⟩ := opened_view pool sid target now missing
    have initial : (ConnLog.opened pool sid target now).view.Sound Frame.ends Frame.payload := by
      rw [fresh]
      exact WakeLoop.start_sound
    have moves : ∀ state event next, ClosedByLoop state.conn → ConnLog.Undisturbed state event →
        connMachine.step state event = some next →
        (∃ move, state.view.step Frame.ends Frame.payload move = some next.view) ∧
          ClosedByLoop next.conn :=
      fun _ _ _ byLoop permitted stepped => conn_moves byLoop permitted stepped
    obtain ⟨sound, kept⟩ := WakeLoop.run_sound moves initial byLoop run
    constructor
    · exact in_order_of_view sound (congrArg ReaderState.phase) rfl
    · intro f member stop more later continued
      exact WakeLoop.run_ended moves (sound.ended_of_stop member stop) kept continued
  · intro pool syn now activeConns missing history log run
    have initial : (WorkerLog.spawned (synPool pool syn now) pool.fresh activeConns).view.Sound
        Frame.ends Frame.payload := by
      rw [spawned_view pool syn now activeConns missing]
      exact WakeLoop.start_sound
    have moves : ∀ state event next, True → WorkerLog.Undisturbed state event →
        workerMachine.step state event = some next →
        (∃ move, state.view.step Frame.ends Frame.payload move = some next.view) ∧ True :=
      fun _ _ _ _ permitted stepped => ⟨worker_moves permitted stepped, trivial⟩
    obtain ⟨sound, _⟩ := WakeLoop.run_sound moves initial trivial run
    constructor
    · exact in_order_of_view sound (congrArg WriterState.phase) rfl
    · intro f member stop more later continued
      exact WakeLoop.run_ended moves (sound.ended_of_stop member stop) trivial continued

/-- A chunk arrives behind the first pop of each loop, and a FIN behind the second. -/
theorem two_loops_in_order :
    (∃ log : ConnLog, log.conn.written = [[7], [8]] ∧ log.session.rxQ = [] ∧
      ReceivesInOrder (log.conn.reader = .waiting) log.session log.enqueued log.popped
        log.conn.written) ∧
    ∃ log : WorkerLog, log.worker.written = [[7], [8]] ∧
      ReceivesInOrder (log.worker.writer = .waiting) log.session log.enqueued log.popped
        log.worker.written := by
  have passed : ((connMachine.exec ConnLog.Undisturbed (ConnLog.opened SessionPool.new zeroId
      (literal "a:1") 0) [.enqueueRx (dataFrame zeroId 0 [7]) 1, .act .wake, .act .pop,
        .enqueueRx (dataFrame zeroId 1 [8]) 2, .act .pop, .enqueueRx (finFrame zeroId) 3,
        .act .pop, .act (.finishClose 4)]).any fun log =>
          decide (log.conn.written = [[7], [8]] ∧ log.session.rxQ = [])) = true := by
    decide +kernel
  have served : ((workerMachine.exec WorkerLog.Undisturbed (WorkerLog.spawned
      (synPool SessionPool.new (synFrame zeroId (literal "a:1")) 0) 0 0)
      [.enqueueRx (dataFrame zeroId 0 [7]) 1, .act .begin, .act .dialed, .act .wake, .act .pop,
        .enqueueRx (dataFrame zeroId 1 [8]) 2, .act .pop, .act .pop]).any fun log =>
          decide (log.worker.written = [[7], [8]])) = true := by
    decide +kernel
  obtain ⟨log, run, seen⟩ := StepMachine.run_of_exec_any _ passed
  obtain ⟨workerLog, workerRun, written⟩ := StepMachine.run_of_exec_any _ served
  have client := receive_loops_in_order.1 SessionPool.new zeroId (literal "a:1") 0 rfl _ log run
  have server := receive_loops_in_order.2 SessionPool.new (synFrame zeroId (literal "a:1")) 0 0
    rfl _ workerLog workerRun
  obtain ⟨both, empty⟩ := of_decide_eq_true seen
  exact ⟨⟨log, both, empty, client.1⟩, workerLog, of_decide_eq_true written, server.1⟩

end Astrix
