import Astrix.Library.StepMachine
import Astrix.OneSession

/-!
# One upstream worker

`_upstream_worker` with what is put on the session's `rx_q` while it runs.
-/

namespace Astrix

open PyRuntime SessionPool

set_option autoImplicit false

inductive WorkerEvent where
  | enqueueRx (frame : Frame) (now : ℚ)
  | act (action : WorkerAct)
  deriving DecidableEq

/-- `enqueued` and `popped` are the frames put on `rx_q` and taken from it, `put`
those that the worker has put on `tx_q`. -/
structure WorkerLog where
  pool : SessionPool
  worker : UpstreamWorker
  enqueued : List Frame
  popped : List Frame
  put : List Frame
  activeConns : Int

/-- The frames an effect takes from a receive queue. -/
def UpstreamEffect.taken (rxQ : List Frame) : UpstreamEffect → List Frame
  | .popRx => rxQ.take 1
  | .nothing | .enqueueTx _ _ | .clearRxEvent => []

/-- What an effect does to the session object. -/
def UpstreamEffect.onSession (s : Session) : UpstreamEffect → Session
  | .nothing => s
  | .enqueueTx frame now => (s.enqueueTx frame now).1
  | .clearRxEvent => s.clearRxEvent
  | .popRx => s.popRx

theorem upstream_effect_object (pool : SessionPool) (session : Nat) (effect : UpstreamEffect) :
    (effect.apply pool session).objects session = effect.onSession (pool.objects session) := by
  cases effect with
  | nothing => rfl
  | enqueueTx frame now => exact (enqueue_tx_objects _ _ _ _ _).trans (if_pos rfl)
  | clearRxEvent => exact (clear_rx_event_objects _ _ _).trans (if_pos rfl)
  | popRx => exact (pop_rx_objects _ _ _).trans (if_pos rfl)

/-- `stats.active_conns` goes up behind the dial and down at the end. -/
def WorkerAct.activeConns : WorkerAct → Int
  | .dialed => 1
  | .finish => -1
  | _ => 0

namespace WorkerLog

/-- A worker just started on a session object. -/
def spawned (pool : SessionPool) (session : Nat) (activeConns : Int) : WorkerLog where
  pool := pool
  worker := spawnWorker session
  enqueued := []
  popped := []
  put := []
  activeConns := activeConns

def session (log : WorkerLog) : Session := log.pool.objects log.worker.session

/-- The worker has acted on its session. -/
def after (log : WorkerLog) (action : WorkerAct) (worker : UpstreamWorker)
    (effect : UpstreamEffect) : WorkerLog :=
  { log with
    pool := effect.apply log.pool log.worker.session
    worker := worker
    popped := log.popped ++ effect.taken log.session.rxQ
    put := log.put ++ effect.frames
    activeConns := log.activeConns + action.activeConns }

def step (log : WorkerLog) : WorkerEvent → Option WorkerLog
  | .enqueueRx frame now =>
      some { log with
        pool := log.pool.enqueueRx log.worker.session frame now
        enqueued := log.enqueued ++ [frame] }
  | .act action =>
      (log.worker.act log.session action).map fun acted => log.after action acted.1 acted.2

theorem after_session (log : WorkerLog) (action : WorkerAct) {worker : UpstreamWorker}
    (same : worker.session = log.worker.session) (effect : UpstreamEffect) :
    (log.after action worker effect).session = effect.onSession log.session := by
  rw [session, after, same]
  exact upstream_effect_object log.pool log.worker.session effect

theorem act_stepped {log later : WorkerLog} {action : WorkerAct}
    (stepped : log.step (.act action) = some later) :
    ∃ worker effect, log.worker.act log.session action = some (worker, effect) ∧
      later = log.after action worker effect := by
  obtain ⟨⟨worker, effect⟩, acted, rfl⟩ := Option.map_eq_some_iff.mp stepped
  exact ⟨worker, effect, acted, rfl⟩

end WorkerLog

def workerMachine : StepMachine WorkerLog WorkerEvent := ⟨WorkerLog.step⟩

end Astrix
