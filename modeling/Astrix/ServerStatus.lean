import Mathlib.Data.List.Perm.Basic
import Astrix.SealedTunnel

/-!
# What the server says of itself

`/healthz` shows the counters of `Stats`. A request is counted when its handler
starts, its bytes when its body is there, the bytes of its answer when it is sent,
and a connection from the dial to the end of its worker. Handlers and workers
interleave at every await. Whatever they do, no request is answered twice, and the
counters are those of the requests, answers and connections there were.
-/

namespace Astrix

open PyRuntime SessionPool

set_option autoImplicit false

structure Stats where
  pollsServed : Nat
  bytesIn : Nat
  bytesOut : Nat
  activeConns : Int
  decodeFailures : Nat
  startTime : ℚ

def Stats.new (startTime : ℚ) : Stats where
  pollsServed := 0
  bytesIn := 0
  bytesOut := 0
  activeConns := 0
  decodeFailures := 0
  startTime := startTime

/-- The application: `reading` handlers wait for a body, `broken` ones did not get
it, and `sent` holds the answers. -/
structure ExitApp where
  server : ExitServer
  stats : Stats
  reading : Nat
  broken : Nat
  sent : List SealedResponse

inductive AppEvent where
  | arrive
  | breakOff
  | body (request : Nat) (body : Bytes) (now atCheck afterScan : ℚ) (codec : Codec)
  | resume (index : Nat) (atCheck afterScan : ℚ) (codec : Codec)
  | upstream (index : Nat) (act : WorkerAct)

structure Health where
  sessions : Nat
  pollsServed : Nat
  bytesIn : Nat
  bytesOut : Nat
  uptime : ℚ
  deriving DecidableEq

namespace ExitApp

def start (startTime : ℚ) : ExitApp where
  server := ExitServer.new
  stats := Stats.new startTime
  reading := 0
  broken := 0
  sent := []

/-- `_handle_healthz`. -/
def healthz (app : ExitApp) (now : ℚ) : Health where
  sessions := app.server.pool.sessionCount
  pollsServed := app.stats.pollsServed
  bytesIn := app.stats.bytesIn
  bytesOut := app.stats.bytesOut
  uptime := now - app.stats.startTime

/-- The end of a handler. A body that cannot be built is not counted. -/
def answer (prims : Primitives) (codec : Codec) (app : ExitApp) (reply : Reply) : ExitApp :=
  match responseBody prims codec.nonce codec.globals reply.clientId reply.frames with
  | .ok (body, _) =>
      { app with
        stats := { app.stats with bytesOut := app.stats.bytesOut + body.length }
        sent := app.sent ++ [⟨reply.request, ⟨200, body⟩⟩] }
  | .error _ => { app with sent := app.sent ++ [⟨reply.request, internalServerError⟩] }

def serve (prims : Primitives) (codec : Codec) (app : ExitApp) (action : ServerAction) :
    Option ExitApp :=
  (app.server.react action).map fun (server, reply) =>
    let app := { app with server := server }
    match reply with
    | some reply => app.answer prims codec reply
    | none => app

/-- What a worker does to `active_conns`. -/
def connDelta : WorkerAct → Int
  | .dialed => 1
  | .finish => -1
  | _ => 0

def step (prims : Primitives) (app : ExitApp) : AppEvent → Option ExitApp
  | .arrive => some { app with
      stats := { app.stats with pollsServed := app.stats.pollsServed + 1 }
      reading := app.reading + 1 }
  | .breakOff =>
      if app.reading = 0 then none
      else some { app with reading := app.reading - 1, broken := app.broken + 1 }
  | .body request body now atCheck afterScan codec =>
      if app.reading = 0 then none
      else
        let app := { app with
          stats := { app.stats with bytesIn := app.stats.bytesIn + body.length }
          reading := app.reading - 1 }
        match decodeBatch prims body with
        | .ok (clientId, frames) =>
            app.serve prims codec (.post request clientId frames now atCheck afterScan)
        | .error _ => some { app with sent := app.sent ++ [⟨request, badRequest⟩] }
  | .resume index atCheck afterScan codec =>
      app.serve prims codec (.resume index atCheck afterScan)
  | .upstream index act =>
      (app.server.react (.worker index act)).map fun (server, _) =>
        { app with
          server := server
          stats := { app.stats with activeConns := app.stats.activeConns + connDelta act } }

end ExitApp

def appMachine (prims : Primitives) : StepMachine ExitApp AppEvent := ⟨ExitApp.step prims⟩

section Requests

def ServerAction.requests : ServerAction → List Nat
  | .post request _ _ _ _ _ => [request]
  | .resume _ _ _ | .worker _ _ => []

theorem settle_requests (server : ExitServer) (request : Nat) (clientId : Bytes)
    (result : SessionPool × PollOutcome) :
    (((server.settle request clientId result).2.map Reply.request).toList ++
      (server.settle request clientId result).1.polls.map Prod.fst).Perm
        (request :: server.polls.map Prod.fst) := by
  obtain ⟨pool, outcome⟩ := result
  cases outcome with
  | answered frames => exact List.Perm.refl _
  | asleep poll sleepFor =>
      dsimp only [ExitServer.settle]
      rw [List.map_append]
      exact List.perm_append_singleton _ _

/-- A request that came in is answered or waits, and so it stays. -/
theorem react_requests {server later : ExitServer} {action : ServerAction} {reply : Option Reply}
    (reacted : server.react action = some (later, reply)) :
    ((reply.map Reply.request).toList ++ later.polls.map Prod.fst).Perm
      (action.requests ++ server.polls.map Prod.fst) := by
  rcases ExitServer.react_cases reacted with
    ⟨request, clientId, frames, now, atCheck, afterScan, rfl, same⟩ |
    ⟨index, atCheck, afterScan, request, poll, rfl, found, same⟩ |
    ⟨index, act, w, w', effect, rfl, found, acted, rfl, rfl⟩
  · have settled := settle_requests (server.accept frames now).1 request clientId
      (server.firstRound clientId frames now atCheck afterScan)
    rw [same] at settled
    exact settled
  · have settled := settle_requests { server with polls := server.polls.eraseIdx index } request
      poll.clientId (resumePoll server.pool poll atCheck afterScan)
    rw [same] at settled
    obtain ⟨inside, here⟩ := List.getElem?_eq_some_iff.mp found
    have whole : (server.polls[index] :: server.polls.eraseIdx index).Perm server.polls :=
      List.getElem_cons_eraseIdx_perm inside
    rw [here] at whole
    exact settled.trans (whole.map Prod.fst)
  · exact List.Perm.refl _

end Requests

section Connections

def UpstreamWorker.isConnected (w : UpstreamWorker) : Bool := w.stage = .connected

def ExitServer.connected (server : ExitServer) : Nat :=
  server.workers.countP UpstreamWorker.isConnected

/-- What an action does to the number of connected workers. -/
def ServerAction.connDelta : ServerAction → Int
  | .worker _ act => ExitApp.connDelta act
  | .post _ _ _ _ _ _ | .resume _ _ _ => 0

theorem act_connected {s : Session} {w w' : UpstreamWorker} {act : WorkerAct}
    {effect : UpstreamEffect} (acted : w.act s act = some (w', effect)) :
    (if w'.isConnected then 1 else 0 : Int) =
      (if w.isConnected then 1 else 0) + ExitApp.connDelta act := by
  unfold UpstreamWorker.isConnected
  cases UpstreamWorker.act_cases acted with
  | noTarget stage | begun stage | dialed stage | dialRaised stage =>
      rw [stage]
      rfl
  | dialFailed message now payload stage | unencodable message now reason stage =>
      rw [stage]
      rfl
  | read data now stage | readEnded now stage | wake stage | writeFailed stage
  | writerCancelled stage | finish stage =>
      simp [stage, ExitApp.connDelta]
  | pop _ _ stage draining popped =>
      cases UpstreamWorker.pop_cases popped <;> simp [stage, ExitApp.connDelta]

theorem connected_set {workers : List UpstreamWorker} {index : Nat} {w w' : UpstreamWorker}
    (found : workers[index]? = some w) :
    ((workers.set index w').countP UpstreamWorker.isConnected : Int) =
      workers.countP UpstreamWorker.isConnected - (if w.isConnected then 1 else 0) +
        (if w'.isConnected then 1 else 0) := by
  obtain ⟨inside, rfl⟩ := List.getElem?_eq_some_iff.mp found
  have present := @List.boole_getElem_le_countP _ UpstreamWorker.isConnected workers index inside
  rw [List.countP_set inside]
  split_ifs at present ⊢ <;> omega

theorem react_connected {server later : ExitServer} {action : ServerAction} {reply : Option Reply}
    (reacted : server.react action = some (later, reply)) :
    (later.connected : Int) = server.connected + action.connDelta := by
  unfold ExitServer.connected
  cases ExitServer.react_moved reacted with
  | posted request clientId frames now atCheck afterScan pool workers =>
      have waiting : ((dispatchFrames server.locked now server.pool frames).spawned.map
          spawnWorker).countP UpstreamWorker.isConnected = 0 := by
        rw [List.countP_map]
        exact List.countP_eq_zero.mpr fun _ _ => Bool.false_ne_true
      rw [workers, accept_workers, List.countP_append, waiting]
      rfl
  | resumed index atCheck afterScan request poll found pool workers =>
      rw [workers]
      exact (Int.add_zero _).symm
  | acted index act w w' effect found acted pool workers =>
      have delta := act_connected acted
      rw [workers, connected_set found, delta, ServerAction.connDelta]
      omega

end Connections

section Accounts

def AppEvent.arrivals : AppEvent → Nat
  | .arrive => 1
  | .breakOff | .body _ _ _ _ _ _ | .resume _ _ _ _ | .upstream _ _ => 0

def AppEvent.received : AppEvent → Option (Nat × Bytes)
  | .body request bytes _ _ _ _ => some (request, bytes)
  | .arrive | .breakOff | .resume _ _ _ _ | .upstream _ _ => none

/-- The bodies that were read, with their requests. -/
def receivedBodies (history : List AppEvent) : List (Nat × Bytes) :=
  history.filterMap AppEvent.received

/-- The bytes of a response that `bytes_out` counts. -/
def SealedResponse.counted (sent : SealedResponse) : Nat :=
  if sent.response.status = 200 then sent.response.body.length else 0

/-- The counters after `arrived` requests, of which those in `received` had their
bodies read. Such a request is answered or sleeps in its poll. -/
structure Accounts (startTime : ℚ) (arrived : Nat) (received : List (Nat × Bytes))
    (app : ExitApp) : Prop where
  pollsServed : app.stats.pollsServed = arrived
  handlers : arrived = app.reading + app.broken + app.server.polls.length + app.sent.length
  requests : (app.sent.map SealedResponse.request ++ app.server.polls.map Prod.fst).Perm
    (received.map Prod.fst)
  bytesIn : app.stats.bytesIn = (received.map fun entry => entry.2.length).sum
  bytesOut : app.stats.bytesOut = (app.sent.map SealedResponse.counted).sum
  connections : app.stats.activeConns = app.server.connected
  failures : app.stats.decodeFailures = 0
  started : app.stats.startTime = startTime

variable {prims : Primitives} {startTime : ℚ} {arrived : Nat} {received : List (Nat × Bytes)}
  {app later : ExitApp}

theorem accounts_start : Accounts startTime 0 [] (.start startTime) where
  pollsServed := rfl
  handlers := rfl
  requests := List.Perm.refl _
  bytesIn := rfl
  bytesOut := rfl
  connections := rfl
  failures := rfl
  started := rfl

theorem answer_eq (codec : Codec) (reply : Reply) :
    app.answer prims codec reply = { app with
      stats := { app.stats with
        bytesOut := app.stats.bytesOut + (reply.sealed prims codec).counted }
      sent := app.sent ++ [reply.sealed prims codec] } := by
  rw [ExitApp.answer, Reply.sealed, respond]
  cases responseBody prims codec.nonce codec.globals reply.clientId reply.frames with
  | ok result => rfl
  | error error => rfl

/-- What serving an action leaves: its answer, if it has one. -/
structure ServedAction (app : ExitApp) (action : ServerAction) (later : ExitApp) : Prop where
  reading : later.reading = app.reading
  broken : later.broken = app.broken
  stats : later.stats = { app.stats with bytesOut := later.stats.bytesOut }
  bytesOut : later.stats.bytesOut + (app.sent.map SealedResponse.counted).sum =
    app.stats.bytesOut + (later.sent.map SealedResponse.counted).sum
  requests : (later.sent.map SealedResponse.request ++ later.server.polls.map Prod.fst).Perm
    (app.sent.map SealedResponse.request ++ app.server.polls.map Prod.fst ++ action.requests)
  connected : (later.server.connected : Int) = app.server.connected + action.connDelta

theorem serve_served {codec : Codec} {action : ServerAction}
    (served : app.serve prims codec action = some later) : ServedAction app action later := by
  obtain ⟨⟨server, reply⟩, reacted, rfl⟩ := Option.map_eq_some_iff.mp served
  have connected := react_connected reacted
  have requests : (app.sent.map SealedResponse.request ++ ((reply.map Reply.request).toList ++
      server.polls.map Prod.fst)).Perm (app.sent.map SealedResponse.request ++
        app.server.polls.map Prod.fst ++ action.requests) := by
    rw [List.append_assoc]
    exact (react_requests reacted).append_left _ |>.trans
      (List.perm_append_comm.append_left _)
  cases reply with
  | none => exact ⟨rfl, rfl, rfl, rfl, requests, connected⟩
  | some reply =>
      dsimp only
      rw [answer_eq]
      refine ⟨rfl, rfl, rfl, ?_, ?_, connected⟩
      · dsimp only
        rw [List.map_append, List.sum_append, List.map_cons, List.map_nil, List.sum_cons,
          List.sum_nil]
        omega
      · dsimp only
        rw [List.map_append, List.append_assoc]
        exact requests

/-- The requests of an action are accounted for once it is served. -/
theorem accounts_served {action : ServerAction} (served : ServedAction app action later)
    (still : action.connDelta = 0)
    (pollsServed : app.stats.pollsServed = arrived)
    (handlers : arrived = app.reading + app.broken + app.server.polls.length + app.sent.length +
      action.requests.length)
    (requests : (app.sent.map SealedResponse.request ++ app.server.polls.map Prod.fst ++
      action.requests).Perm (received.map Prod.fst))
    (bytesIn : app.stats.bytesIn = (received.map fun entry => entry.2.length).sum)
    (bytesOut : app.stats.bytesOut = (app.sent.map SealedResponse.counted).sum)
    (connections : app.stats.activeConns = app.server.connected)
    (failures : app.stats.decodeFailures = 0) (started : app.stats.startTime = startTime) :
    Accounts startTime arrived received later := by
  have counts := served.requests.length_eq
  have sums := served.bytesOut
  simp only [List.length_append, List.length_map] at counts
  refine ⟨?_, ?_, served.requests.trans requests, ?_, ?_, ?_, ?_, ?_⟩
  · rw [served.stats]
    exact pollsServed
  · rw [served.reading, served.broken]
    omega
  · rw [served.stats]
    exact bytesIn
  · omega
  · rw [served.stats, served.connected, still, Int.add_zero]
    exact connections
  · rw [served.stats]
    exact failures
  · rw [served.stats]
    exact started

theorem accounts_body {request : Nat} {bytes : Bytes} {now atCheck afterScan : ℚ} {codec : Codec}
    (accounts : Accounts startTime arrived received app)
    (stepped : app.step prims (.body request bytes now atCheck afterScan codec) = some later) :
    Accounts startTime arrived (received ++ [(request, bytes)]) later := by
  have handlers := accounts.handlers
  have bytesIn : app.stats.bytesIn + bytes.length =
      ((received ++ [(request, bytes)]).map fun entry => entry.2.length).sum := by
    rw [accounts.bytesIn, List.map_append, List.sum_append]
    rfl
  have requests : (app.sent.map SealedResponse.request ++ app.server.polls.map Prod.fst ++
      [request]).Perm ((received ++ [(request, bytes)]).map Prod.fst) := by
    rw [List.map_append]
    exact accounts.requests.append_right _
  simp only [ExitApp.step] at stepped
  split_ifs at stepped with none
  split at stepped
  · next clientId frames decoded =>
      refine accounts_served (serve_served stepped) rfl accounts.pollsServed ?_ requests bytesIn
        accounts.bytesOut accounts.connections accounts.failures accounts.started
      dsimp only [ServerAction.requests, List.length_singleton]
      omega
  · cases stepped
    refine ⟨accounts.pollsServed, ?_, ?_, bytesIn, ?_, accounts.connections, accounts.failures,
      accounts.started⟩
    · dsimp only
      rw [List.length_append, List.length_singleton]
      omega
    · dsimp only
      rw [List.map_append, List.append_assoc]
      refine (List.perm_append_comm.append_left _).trans ?_
      rw [← List.append_assoc]
      exact requests
    · dsimp only
      rw [accounts.bytesOut, List.map_append, List.sum_append]
      rfl

theorem accounts_step {event : AppEvent} (accounts : Accounts startTime arrived received app)
    (stepped : app.step prims event = some later) :
    Accounts startTime (arrived + event.arrivals) (received ++ event.received.toList)
      later := by
  have handlers := accounts.handlers
  cases event with
  | arrive =>
      cases stepped
      have more : arrived + 1 =
          app.reading + 1 + app.broken + app.server.polls.length + app.sent.length := by
        omega
      rw [AppEvent.received, Option.toList_none, List.append_nil]
      exact ⟨congrArg (· + 1) accounts.pollsServed, more, accounts.requests, accounts.bytesIn,
        accounts.bytesOut, accounts.connections, accounts.failures, accounts.started⟩
  | breakOff =>
      simp only [ExitApp.step] at stepped
      split_ifs at stepped with none
      cases stepped
      have moved : arrived =
          app.reading - 1 + (app.broken + 1) + app.server.polls.length + app.sent.length := by
        omega
      rw [AppEvent.received, Option.toList_none, List.append_nil]
      exact ⟨accounts.pollsServed, moved, accounts.requests, accounts.bytesIn,
        accounts.bytesOut, accounts.connections, accounts.failures, accounts.started⟩
  | body request bytes now atCheck afterScan codec => exact accounts_body accounts stepped
  | resume index atCheck afterScan codec =>
      rw [AppEvent.received, Option.toList_none, List.append_nil]
      refine accounts_served (serve_served stepped) rfl accounts.pollsServed handlers ?_
        accounts.bytesIn accounts.bytesOut accounts.connections accounts.failures accounts.started
      rw [ServerAction.requests, List.append_nil]
      exact accounts.requests
  | upstream index act =>
      obtain ⟨⟨server, reply⟩, reacted, rfl⟩ := Option.map_eq_some_iff.mp stepped
      have connected := react_connected reacted
      have polls : server.polls = app.server.polls := by
        rcases ExitServer.react_cases reacted with ⟨_, _, _, _, _, _, same, _⟩ |
          ⟨_, _, _, _, _, same, _⟩ | ⟨_, _, _, _, _, _, _, _, rfl, _⟩
        · cases same
        · cases same
        · rfl
      rw [AppEvent.received, Option.toList_none, List.append_nil]
      refine ⟨accounts.pollsServed, ?_, ?_, accounts.bytesIn, accounts.bytesOut, ?_,
        accounts.failures, accounts.started⟩
      · dsimp only
        rw [polls]
        exact handlers
      · dsimp only
        rw [polls]
        exact accounts.requests
      · dsimp only
        rw [connected, accounts.connections]
        rfl

def arrivedCount (history : List AppEvent) : Nat := (history.map AppEvent.arrivals).sum

theorem arrived_next (past : List AppEvent) (event : AppEvent) :
    arrivedCount (past ++ [event]) = arrivedCount past + event.arrivals := by
  rw [arrivedCount, List.map_append, List.sum_append]
  rfl

theorem received_next (past : List AppEvent) (event : AppEvent) :
    receivedBodies (past ++ [event]) = receivedBodies past ++ event.received.toList := by
  rw [receivedBodies, List.filterMap_append]
  cases known : event.received with
  | none => rw [List.filterMap_cons_none known]; rfl
  | some received => rw [List.filterMap_cons_some known]; rfl

/-- In every run, whatever handlers and workers do in between: a request whose body
was read is answered once or still waits, and `/healthz` shows the requests that
came, the bytes of their bodies and the bytes of all answers with status 200. -/
theorem healthz_is_exact {history : List AppEvent}
    (run : (appMachine prims).Run StepMachine.anyStep (.start startTime) history app) :
    Accounts startTime (arrivedCount history) (receivedBodies history) app ∧
      ∀ now, app.healthz now =
        { sessions := app.server.pool.sessions.keys.length
          pollsServed := arrivedCount history
          bytesIn := ((receivedBodies history).map fun entry => entry.2.length).sum
          bytesOut := (app.sent.map SealedResponse.counted).sum
          uptime := now - startTime } := by
  have accounts : Accounts startTime (arrivedCount history) (receivedBodies history) app := by
    apply @StepMachine.Run.invariant_with_history _ _ _ _ _ _ _ (fun past state =>
      Accounts startTime (arrivedCount past) (receivedBodies past) state) run
    · exact accounts_start
    · intro past state event later accounts _ stepped
      have next := accounts_step accounts stepped
      rw [arrived_next, received_next]
      exact next
  refine ⟨accounts, fun now => ?_⟩
  rw [ExitApp.healthz, accounts.pollsServed, accounts.bytesIn, accounts.bytesOut,
    accounts.started]
  congr
  exact (List.length_map _).symm

/-- Two handlers at once, of which one is answered before the other. -/
def twoHandlers : List AppEvent :=
  [.arrive, .arrive, .body 1 [65, 65] 0 0 0 freshCodec, .arrive, .breakOff,
    .body 0 [] 0 0 0 freshCodec, .resume 0 9 9 freshCodec]

theorem two_handlers_exact : ∃ app : ExitApp,
    (appMachine tagPrimitives).Run StepMachine.anyStep (.start 0) twoHandlers app ∧
      app.healthz 10 = ⟨0, 3, 2, 18, 10⟩ := by
  obtain ⟨app, run, checked⟩ : ∃ app,
      (appMachine tagPrimitives).Run StepMachine.anyStep (.start 0) twoHandlers app ∧
        (app.server.pool.sessions.keys.length == 0 &&
          (app.sent.map SealedResponse.counted).sum == 18) = true := by
    apply StepMachine.run_of_exec_any
    decide +kernel
  obtain ⟨sessions, sent⟩ := Bool.and_eq_true_iff.mp checked
  refine ⟨app, run, ?_⟩
  rw [(healthz_is_exact run).2 10, beq_iff_eq.mp sessions, beq_iff_eq.mp sent, sub_zero]
  rfl

end Accounts

end Astrix
