import Astrix.ExitHandler

/-!
# Upstream workers and the exit server

`_upstream_worker` with its two tasks, and the server they run in. Dialling,
reading and the failures of writing are choices of the environment. A worker
acts on its own `Session` object, whether or not the pool still has it. The
server keeps the suspended handlers with the number of the request each one
answers. `_UpstreamSemaphore` is only read.
-/

namespace Astrix

open PyRuntime

set_option autoImplicit false

def upstreamReadBuf : Nat := 262144

inductive WorkerStage where
  | starting
  | dialing
  | connected
  | ended
  deriving DecidableEq, Repr

inductive WriterState where
  | waiting
  | draining
  | done
  deriving DecidableEq, Repr

/-- `received` and `written` record the chunks that `reader.read` returned and
the payloads given to `writer.write`. -/
structure UpstreamWorker where
  session : Nat
  stage : WorkerStage
  reading : Bool
  seq : Int
  writer : WriterState
  received : List Bytes
  written : List Bytes
  deriving DecidableEq, Repr

def spawnWorker (session : Nat) : UpstreamWorker where
  session := session
  stage := .starting
  reading := false
  seq := 0
  writer := .waiting
  received := []
  written := []

inductive WorkerAct where
  | begin
  | dialed
  | dialFailed (message : Text) (now : ℚ)
  | dialRaised
  | read (data : Bytes) (now : ℚ)
  | readEnded (now : ℚ)
  | wake
  | pop
  | writeFailed
  | writerCancelled
  | finish
  deriving DecidableEq

/-- What one act of a worker does to its session. -/
inductive UpstreamEffect where
  | nothing
  | enqueueTx (frame : Frame) (now : ℚ)
  | clearRxEvent
  | popRx
  deriving DecidableEq

def UpstreamEffect.apply (pool : SessionPool) (session : Nat) : UpstreamEffect → SessionPool
  | .nothing => pool
  | .enqueueTx frame now => pool.enqueueTx session frame now
  | .clearRxEvent => pool.clearRxEvent session
  | .popRx => pool.popRx session

def dialErrorFrame (sid payload : Bytes) : Frame where
  sessionId := sid
  seq := 0
  flags := FlagRST
  target := []
  payload := payload

def upstreamDataFrame (sid : Bytes) (seq : Int) (data : Bytes) : Frame where
  sessionId := sid
  seq := seq
  flags := 0
  target := []
  payload := data

def upstreamFinFrame (sid : Bytes) : Frame where
  sessionId := sid
  seq := 0
  flags := FlagFIN
  target := []
  payload := []

/-- One round of the inner loop of `write_downstream`. -/
def UpstreamWorker.pop (s : Session) (w : UpstreamWorker) : UpstreamWorker × UpstreamEffect :=
  match s.rxQ with
  | [] => ({ w with writer := .waiting }, .nothing)
  | f :: _ =>
      if f.hasFlag (FlagRST ||| FlagFIN) then ({ w with writer := .done }, .popRx)
      else if f.payload ≠ [] then ({ w with written := w.written ++ [f.payload] }, .popRx)
      else (w, .popRx)

/-- The acts of the connected worker: its reader, its writer and the task that
waits for the first of the two to end. -/
def UpstreamWorker.serve (s : Session) (w : UpstreamWorker) :
    WorkerAct → Option (UpstreamWorker × UpstreamEffect)
  | .read data now =>
      if w.reading ∧ data ≠ [] ∧ data.length ≤ upstreamReadBuf then
        some ({ w with seq := w.seq + 1, received := w.received ++ [data] },
          .enqueueTx (upstreamDataFrame s.sessionId w.seq data) now)
      else none
  | .readEnded now =>
      if w.reading then
        some ({ w with reading := false }, .enqueueTx (upstreamFinFrame s.sessionId) now)
      else none
  | .wake =>
      if w.writer = .waiting ∧ s.rxEvent then
        some ({ w with writer := .draining }, .clearRxEvent)
      else none
  | .pop => if w.writer = .draining then some (w.pop s) else none
  | .writeFailed =>
      if w.writer = .draining then some ({ w with writer := .done }, .nothing) else none
  | .writerCancelled =>
      if w.writer ≠ .done ∧ !w.reading then some ({ w with writer := .done }, .nothing) else none
  | .finish =>
      if w.writer = .done ∧ !w.reading then some ({ w with stage := .ended }, .nothing) else none
  | _ => none

def UpstreamWorker.act (s : Session) (w : UpstreamWorker) (act : WorkerAct) :
    Option (UpstreamWorker × UpstreamEffect) :=
  match w.stage, act with
  | .starting, .begin =>
      if s.target = [] then some ({ w with stage := .ended }, .nothing)
      else some ({ w with stage := .dialing }, .nothing)
  | .dialing, .dialed => some ({ w with stage := .connected, reading := true }, .nothing)
  | .dialing, .dialFailed message now =>
      -- the text of the error is encoded strictly, outside any handler
      match encodeUtf8 (literal "dial error: " ++ message) with
      | .ok payload =>
          some ({ w with stage := .ended }, .enqueueTx (dialErrorFrame s.sessionId payload) now)
      | .error _ => some ({ w with stage := .ended }, .nothing)
  | .dialing, .dialRaised => some ({ w with stage := .ended }, .nothing)
  | .connected, act => w.serve s act
  | _, _ => none

/-- Everything a round of the inner loop can be, with what its branch has checked. -/
inductive UpstreamWorker.Pops (s : Session) (w : UpstreamWorker) :
    UpstreamWorker → UpstreamEffect → Prop where
  | emptied (queue : s.rxQ = []) : Pops s w { w with writer := .waiting } .nothing
  | closed (f : Frame) (rest : List Frame) (queue : s.rxQ = f :: rest)
      (closing : f.hasFlag (FlagRST ||| FlagFIN) = true) :
      Pops s w { w with writer := .done } .popRx
  | wrote (f : Frame) (rest : List Frame) (queue : s.rxQ = f :: rest)
      (plain : f.hasFlag (FlagRST ||| FlagFIN) = false) (payload : f.payload ≠ []) :
      Pops s w { w with written := w.written ++ [f.payload] } .popRx
  | skipped (f : Frame) (rest : List Frame) (queue : s.rxQ = f :: rest)
      (plain : f.hasFlag (FlagRST ||| FlagFIN) = false) (payload : f.payload = []) :
      Pops s w w .popRx

/-- Everything an act can be, with what its branch has checked. -/
inductive UpstreamWorker.Acts (s : Session) (w : UpstreamWorker) :
    WorkerAct → UpstreamWorker → UpstreamEffect → Prop where
  | noTarget (stage : w.stage = .starting) (target : s.target = []) :
      Acts s w .begin { w with stage := .ended } .nothing
  | begun (stage : w.stage = .starting) (target : s.target ≠ []) :
      Acts s w .begin { w with stage := .dialing } .nothing
  | dialed (stage : w.stage = .dialing) :
      Acts s w .dialed { w with stage := .connected, reading := true } .nothing
  | dialFailed (message : Text) (now : ℚ) (payload : Bytes) (stage : w.stage = .dialing)
      (encoded : encodeUtf8 (literal "dial error: " ++ message) = .ok payload) :
      Acts s w (.dialFailed message now) { w with stage := .ended }
        (.enqueueTx (dialErrorFrame s.sessionId payload) now)
  | unencodable (message : Text) (now : ℚ) (reason : PyError) (stage : w.stage = .dialing)
      (encoded : encodeUtf8 (literal "dial error: " ++ message) = .error reason) :
      Acts s w (.dialFailed message now) { w with stage := .ended } .nothing
  | dialRaised (stage : w.stage = .dialing) :
      Acts s w .dialRaised { w with stage := .ended } .nothing
  | read (data : Bytes) (now : ℚ) (stage : w.stage = .connected) (reading : w.reading = true)
      (some : data ≠ []) (fits : data.length ≤ upstreamReadBuf) :
      Acts s w (.read data now)
        { w with seq := w.seq + 1, received := w.received ++ [data] }
        (.enqueueTx (upstreamDataFrame s.sessionId w.seq data) now)
  | readEnded (now : ℚ) (stage : w.stage = .connected) (reading : w.reading = true) :
      Acts s w (.readEnded now) { w with reading := false }
        (.enqueueTx (upstreamFinFrame s.sessionId) now)
  | wake (stage : w.stage = .connected) (waiting : w.writer = .waiting)
      (event : s.rxEvent = true) :
      Acts s w .wake { w with writer := .draining } .clearRxEvent
  | pop (w' : UpstreamWorker) (effect : UpstreamEffect) (stage : w.stage = .connected)
      (draining : w.writer = .draining) (popped : w.pop s = (w', effect)) :
      Acts s w .pop w' effect
  | writeFailed (stage : w.stage = .connected) (draining : w.writer = .draining) :
      Acts s w .writeFailed { w with writer := .done } .nothing
  | writerCancelled (stage : w.stage = .connected) (running : w.writer ≠ .done)
      (closed : w.reading = false) :
      Acts s w .writerCancelled { w with writer := .done } .nothing
  | finish (stage : w.stage = .connected) (done : w.writer = .done) (closed : w.reading = false) :
      Acts s w .finish { w with stage := .ended } .nothing

namespace UpstreamWorker

variable {s : Session} {w w' : UpstreamWorker} {act : WorkerAct} {effect : UpstreamEffect}

theorem act_begin (stage : w.stage = .starting) (target : s.target ≠ []) :
    w.act s .begin = some ({ w with stage := .dialing }, .nothing) := by
  unfold UpstreamWorker.act
  rw [stage]
  exact if_neg target

theorem pop_cases (popped : w.pop s = (w', effect)) : w.Pops s w' effect := by
  rw [UpstreamWorker.pop] at popped
  cases queue : s.rxQ with
  | nil =>
      rw [queue] at popped
      cases popped
      exact .emptied queue
  | cons f rest =>
      rw [queue] at popped
      dsimp only at popped
      split_ifs at popped with closing payload
      · cases popped
        exact .closed f rest queue closing
      · cases popped
        exact .wrote f rest queue (Bool.eq_false_iff.mpr closing) payload
      · cases popped
        exact .skipped f rest queue (Bool.eq_false_iff.mpr closing) (not_not.mp payload)

theorem serve_cases (stage : w.stage = .connected) (served : w.serve s act = some (w', effect)) :
    w.Acts s act w' effect := by
  cases act with
  | read data now =>
      simp only [UpstreamWorker.serve] at served
      split_ifs at served with ready
      cases served
      exact .read data now stage ready.1 ready.2.1 ready.2.2
  | readEnded now =>
      simp only [UpstreamWorker.serve] at served
      split_ifs at served with reading
      cases served
      exact .readEnded now stage reading
  | wake =>
      simp only [UpstreamWorker.serve] at served
      split_ifs at served with ready
      cases served
      exact .wake stage ready.1 ready.2
  | pop =>
      simp only [UpstreamWorker.serve] at served
      split_ifs at served with draining
      exact .pop w' effect stage draining (Option.some.inj served)
  | writeFailed =>
      simp only [UpstreamWorker.serve] at served
      split_ifs at served with draining
      cases served
      exact .writeFailed stage draining
  | writerCancelled =>
      simp only [UpstreamWorker.serve] at served
      split_ifs at served with ready
      cases served
      exact .writerCancelled stage ready.1 (by simpa using ready.2)
  | finish =>
      simp only [UpstreamWorker.serve] at served
      split_ifs at served with ready
      cases served
      exact .finish stage ready.1 (by simpa using ready.2)
  | begin | dialed | dialFailed | dialRaised => cases served

/-- The inversion of an act: its branch, and what the branch has checked. -/
theorem act_cases (acted : w.act s act = some (w', effect)) : w.Acts s act w' effect := by
  unfold UpstreamWorker.act at acted
  split at acted
  · next stage =>
      split_ifs at acted with target
      · cases acted
        exact .noTarget stage target
      · cases acted
        exact .begun stage target
  · next stage =>
      cases acted
      exact .dialed stage
  · next message now stage =>
      split at acted
      · next payload encoded =>
          cases acted
          exact .dialFailed message now payload stage encoded
      · next reason encoded =>
          cases acted
          exact .unencodable message now reason stage encoded
  · next stage =>
      cases acted
      exact .dialRaised stage
  · next stage => exact serve_cases stage acted
  · cases acted

end UpstreamWorker

/-- Everything an act can do: its effect on the session, with what it adds to
the record of chunks read and payloads written. -/
inductive Acted (s : Session) (w w' : UpstreamWorker) : UpstreamEffect → Prop where
  | silent (received : w'.received = w.received) (written : w'.written = w.written) :
      Acted s w w' .nothing
  | dialError (payload : Bytes) (now : ℚ) (received : w'.received = w.received)
      (written : w'.written = w.written) :
      Acted s w w' (.enqueueTx (dialErrorFrame s.sessionId payload) now)
  | data (data : Bytes) (now : ℚ) (reading : w.reading = true)
      (received : w'.received = w.received ++ [data]) (written : w'.written = w.written) :
      Acted s w w' (.enqueueTx (upstreamDataFrame s.sessionId w.seq data) now)
  | fin (now : ℚ) (received : w'.received = w.received) (written : w'.written = w.written) :
      Acted s w w' (.enqueueTx (upstreamFinFrame s.sessionId) now)
  | wake (received : w'.received = w.received) (written : w'.written = w.written) :
      Acted s w w' .clearRxEvent
  | skip (f : Frame) (rest : List Frame) (queue : s.rxQ = f :: rest)
      (empty : f.hasFlag (FlagRST ||| FlagFIN) = true ∨ f.payload = [])
      (received : w'.received = w.received) (written : w'.written = w.written) :
      Acted s w w' .popRx
  | write (f : Frame) (rest : List Frame) (queue : s.rxQ = f :: rest)
      (plain : f.hasFlag (FlagRST ||| FlagFIN) = false) (payload : f.payload ≠ [])
      (received : w'.received = w.received) (written : w'.written = w.written ++ [f.payload]) :
      Acted s w w' .popRx

theorem UpstreamWorker.pop_acted {s : Session} {w w' : UpstreamWorker} {effect : UpstreamEffect}
    (popped : w.pop s = (w', effect)) : w'.session = w.session ∧ Acted s w w' effect := by
  cases pop_cases popped with
  | emptied queue => exact ⟨rfl, .silent rfl rfl⟩
  | closed f rest queue closing => exact ⟨rfl, .skip f rest queue (.inl closing) rfl rfl⟩
  | wrote f rest queue plain payload => exact ⟨rfl, .write f rest queue plain payload rfl rfl⟩
  | skipped f rest queue plain payload => exact ⟨rfl, .skip f rest queue (.inr payload) rfl rfl⟩

theorem UpstreamWorker.act_acted {s : Session} {w w' : UpstreamWorker} {act : WorkerAct}
    {effect : UpstreamEffect} (acted : w.act s act = some (w', effect)) :
    w'.session = w.session ∧ Acted s w w' effect := by
  cases act_cases acted with
  | noTarget | begun | dialed | unencodable | dialRaised | writeFailed | writerCancelled
  | finish => exact ⟨rfl, .silent rfl rfl⟩
  | dialFailed message now payload => exact ⟨rfl, .dialError payload now rfl rfl⟩
  | read data now stage reading => exact ⟨rfl, .data data now reading rfl rfl⟩
  | readEnded now => exact ⟨rfl, .fin now rfl rfl⟩
  | wake => exact ⟨rfl, .wake rfl rfl⟩
  | pop _ _ stage draining popped => exact pop_acted popped

structure ExitServer where
  pool : SessionPool
  semaphore : Nat
  workers : List UpstreamWorker
  polls : List (Nat × Poll)

structure Reply where
  request : Nat
  clientId : Bytes
  frames : List Frame
  deriving DecidableEq, Repr

inductive ServerAction where
  | post (request : Nat) (clientId : Bytes) (frames : List Frame) (now atCheck afterScan : ℚ)
  | resume (index : Nat) (atCheck afterScan : ℚ)
  | worker (index : Nat) (act : WorkerAct)
  deriving DecidableEq

namespace ExitServer

def _MaxConcurrentUpstream : Nat := 256

def new : ExitServer where
  pool := SessionPool.new
  semaphore := _MaxConcurrentUpstream
  workers := []
  polls := []

def locked (server : ExitServer) : Bool := server.semaphore == 0

/-- Files the result of a round under its request. -/
def settle (server : ExitServer) (request : Nat) (clientId : Bytes) :
    SessionPool × PollOutcome → ExitServer × Option Reply
  | (pool, .answered frames) => ({ server with pool := pool }, some ⟨request, clientId, frames⟩)
  | (pool, .asleep poll _) =>
      ({ server with pool := pool, polls := server.polls ++ [(request, poll)] }, none)

def accept (server : ExitServer) (frames : List Frame) (now : ℚ) : ExitServer × List Frame :=
  let dispatch := dispatchFrames server.locked now server.pool frames
  ({ server with
      pool := dispatch.pool
      workers := server.workers ++ dispatch.spawned.map spawnWorker }, dispatch.responseFrames)

def react (server : ExitServer) : ServerAction → Option (ExitServer × Option Reply)
  | .post request clientId frames now atCheck afterScan =>
      let (server, responseFrames) := server.accept frames now
      some (server.settle request clientId
        (pollRound server.pool (startPoll clientId responseFrames now) atCheck afterScan))
  | .resume index atCheck afterScan =>
      match server.polls[index]? with
      | some (request, poll) =>
          let server := { server with polls := server.polls.eraseIdx index }
          some (server.settle request poll.clientId
            (resumePoll server.pool poll atCheck afterScan))
      | none => none
  | .worker index act =>
      match server.workers[index]? with
      | some w =>
          match w.act (server.pool.objects w.session) act with
          | some (w', effect) =>
              some ({ server with
                pool := effect.apply server.pool w.session
                workers := server.workers.set index w' }, none)
          | none => none
      | none => none

/-- The start of a handler: dispatch and the first round of its poll. -/
def firstRound (server : ExitServer) (clientId : Bytes) (frames : List Frame)
    (now atCheck afterScan : ℚ) : SessionPool × PollOutcome :=
  pollRound (server.accept frames now).1.pool
    (startPoll clientId (server.accept frames now).2 now) atCheck afterScan

/-- Everything a step of the server can be. -/
theorem react_cases {server later : ExitServer} {action : ServerAction} {reply : Option Reply}
    (reacted : server.react action = some (later, reply)) :
    (∃ request clientId frames now atCheck afterScan,
      action = .post request clientId frames now atCheck afterScan ∧
        ((server.accept frames now).1.settle request clientId
          (server.firstRound clientId frames now atCheck afterScan)) = (later, reply)) ∨
    (∃ index atCheck afterScan request poll,
      action = .resume index atCheck afterScan ∧ server.polls[index]? = some (request, poll) ∧
        ({ server with polls := server.polls.eraseIdx index }.settle request poll.clientId
          (resumePoll server.pool poll atCheck afterScan)) = (later, reply)) ∨
    ∃ index act w w' effect,
      action = .worker index act ∧ server.workers[index]? = some w ∧
        w.act (server.pool.objects w.session) act = some (w', effect) ∧
        later = { server with
          pool := effect.apply server.pool w.session
          workers := server.workers.set index w' } ∧ reply = none := by
  cases action with
  | post request clientId frames now atCheck afterScan =>
      exact .inl ⟨request, clientId, frames, now, atCheck, afterScan, rfl,
        Option.some.inj reacted⟩
  | resume index atCheck afterScan =>
      simp only [react] at reacted
      split at reacted
      · next request poll found =>
          exact .inr (.inl ⟨index, atCheck, afterScan, request, poll, rfl, found,
            Option.some.inj reacted⟩)
      · cases reacted
  | worker index act =>
      simp only [react] at reacted
      split at reacted
      · next w found =>
          split at reacted
          · next w' effect acted =>
              cases reacted
              exact .inr (.inr ⟨index, act, w, w', effect, rfl, found, acted, rfl, rfl⟩)
          · cases reacted
      · cases reacted

theorem settle_workers (server : ExitServer) (request : Nat) (clientId : Bytes)
    (result : SessionPool × PollOutcome) :
    (server.settle request clientId result).1.workers = server.workers ∧
      (server.settle request clientId result).1.pool = result.1 := by
  obtain ⟨pool, outcome⟩ := result
  cases outcome <;> exact ⟨rfl, rfl⟩

/-- What a step makes of the pool and the workers. -/
inductive Moved (server later : ExitServer) : ServerAction → Prop where
  | posted (request : Nat) (clientId : Bytes) (frames : List Frame) (now atCheck afterScan : ℚ)
      (pool : later.pool = (server.firstRound clientId frames now atCheck afterScan).1)
      (workers : later.workers = (server.accept frames now).1.workers) :
      Moved server later (.post request clientId frames now atCheck afterScan)
  | resumed (index : Nat) (atCheck afterScan : ℚ) (request : Nat) (poll : Poll)
      (found : server.polls[index]? = some (request, poll))
      (pool : later.pool = (resumePoll server.pool poll atCheck afterScan).1)
      (workers : later.workers = server.workers) :
      Moved server later (.resume index atCheck afterScan)
  | acted (index : Nat) (act : WorkerAct) (w w' : UpstreamWorker) (effect : UpstreamEffect)
      (found : server.workers[index]? = some w)
      (acted : w.act (server.pool.objects w.session) act = some (w', effect))
      (pool : later.pool = effect.apply server.pool w.session)
      (workers : later.workers = server.workers.set index w') :
      Moved server later (.worker index act)

theorem react_moved {server later : ExitServer} {action : ServerAction} {reply : Option Reply}
    (reacted : server.react action = some (later, reply)) : server.Moved later action := by
  rcases react_cases reacted with ⟨request, clientId, frames, now, atCheck, afterScan, rfl, same⟩ |
    ⟨index, atCheck, afterScan, request, poll, rfl, found, same⟩ |
    ⟨index, act, w, w', effect, rfl, found, acted, rfl, rfl⟩
  · have settled := settle_workers (server.accept frames now).1 request clientId
      (server.firstRound clientId frames now atCheck afterScan)
    rw [same] at settled
    exact .posted request clientId frames now atCheck afterScan settled.2 settled.1
  · have settled := settle_workers { server with polls := server.polls.eraseIdx index } request
      poll.clientId (resumePoll server.pool poll atCheck afterScan)
    rw [same] at settled
    exact .resumed index atCheck afterScan request poll found settled.2 settled.1
  · exact .acted index act w w' effect found acted rfl rfl

end ExitServer

end Astrix
