import Astrix.LostConnection
import Astrix.WorkerRuns

/-!
# How an upstream worker ends

A worker whose dial succeeded, or failed in a way that it reports, ends with one
FIN or RST behind the chunks it has read, and takes back what it added to
`stats.active_conns`. The early return for a session without a target and an
error that the handler of the dial does not catch leave nothing behind.
-/

namespace Astrix

open PyRuntime SessionPool

set_option autoImplicit false

/-- The data frames for the chunks read, numbered from 0. -/
def readFrames (sid : Bytes) (chunks : List Bytes) : List Frame :=
  chunks.mapIdx fun index data => upstreamDataFrame sid index data

/-- One terminal frame behind the data frames, and `stats.active_conns` as before. -/
structure WorkerLog.EndsVisibly (sid : Bytes) (activeConns : Int) (log : WorkerLog) : Prop where
  frames : ∃ last, last.ends = true ∧ log.put = readFrames sid log.worker.received ++ [last]
  balanced : log.activeConns = activeConns

/-- The dial succeeds or raises one of the errors that are caught, with a text
that can be encoded. -/
def WorkerEvent.Answered : WorkerEvent → Prop
  | .act .dialRaised => False
  | .act (.dialFailed message _) =>
      ∃ payload, encodeUtf8 (literal "dial error: " ++ message) = .ok payload
  | _ => True

/-- Where a worker stands after a history of events. -/
inductive WorkerLog.Progress (sid : Bytes) (target : Text) (activeConns : Int)
    (history : List WorkerEvent) (log : WorkerLog) : Prop where
  | dialing
      (stage : log.worker.stage = .starting ∨ log.worker.stage = .dialing ∧ target ≠ [])
      (put : log.put = []) (received : log.worker.received = []) (seq : log.worker.seq = 0)
      (balanced : log.activeConns = activeConns)
      (answered : ∀ event ∈ history, event.Answered)
  | connected (stage : log.worker.stage = .connected)
      (put : log.put = readFrames sid log.worker.received ++
        if log.worker.reading then [] else [upstreamFinFrame sid])
      (seq : log.worker.seq = log.worker.received.length)
      (counted : log.activeConns = activeConns + 1) (dialed : target ≠ [])
      (answered : ∀ event ∈ history, event.Answered)
  | ended (stage : log.worker.stage = .ended) (visible : log.EndsVisibly sid activeConns)
      (dialed : target ≠ []) (answered : ∀ event ∈ history, event.Answered)
  | silent (stage : log.worker.stage = .ended) (put : log.put = [])
      (reason : target = [] ∨ ¬ ∀ event ∈ history, event.Answered)

theorem read_frames_append (sid : Bytes) (chunks : List Bytes) (data : Bytes) :
    readFrames sid (chunks ++ [data]) =
      readFrames sid chunks ++ [upstreamDataFrame sid chunks.length data] := by
  simp [readFrames, List.mapIdx_append]

theorem answered_append {history : List WorkerEvent} {event : WorkerEvent}
    (answered : ∀ earlier ∈ history, earlier.Answered) (last : event.Answered) :
    ∀ earlier ∈ history ++ [event], earlier.Answered := by
  intro earlier member
  rcases List.mem_append.mp member with old | new
  · exact answered earlier old
  · rw [List.mem_singleton.mp new]
    exact last

theorem dial_error_ends (sid payload : Bytes) : (dialErrorFrame sid payload).ends = true := by
  simp [Frame.ends, Frame.hasFlag, dialErrorFrame, FlagFIN, FlagRST]

theorem upstream_fin_ends (sid : Bytes) : (upstreamFinFrame sid).ends = true := by
  simp [Frame.ends, Frame.hasFlag, upstreamFinFrame, FlagFIN, FlagRST]

/-- The writer puts nothing and counts nothing. -/
theorem pop_keeps {s : Session} {w w' : UpstreamWorker} {effect : UpstreamEffect}
    (popped : w.pop s = (w', effect)) :
    w'.stage = w.stage ∧ w'.reading = w.reading ∧ w'.received = w.received ∧ w'.seq = w.seq ∧
      effect.frames = [] := by
  cases UpstreamWorker.pop_cases popped with
  | emptied | closed | wrote | skipped => exact ⟨rfl, rfl, rfl, rfl, rfl⟩

theorem acts_before_end {s : Session} {w w' : UpstreamWorker} {action : WorkerAct}
    {effect : UpstreamEffect} (branch : w.Acts s action w' effect) : w.stage ≠ .ended := by
  intro ended
  cases branch with
  | noTarget stage | begun stage | dialed stage | dialRaised stage | wake stage | writeFailed stage
  | writerCancelled stage | finish stage => cases ended.symm.trans stage
  | dialFailed _ _ _ stage | unencodable _ _ _ stage => cases ended.symm.trans stage
  | read _ _ stage | pop _ _ stage => cases ended.symm.trans stage
  | readEnded _ stage => cases ended.symm.trans stage

section Steps

variable {sid : Bytes} {target : Text} {activeConns : Int} {past : List WorkerEvent}
  {log later : WorkerLog} {action : WorkerAct} {worker : UpstreamWorker} {effect : UpstreamEffect}

/-- Up to the dial nothing is put and nothing counted. -/
theorem dial_progress (branch : log.worker.Acts log.session action worker effect)
    (id : log.session.sessionId = sid) (dials : log.session.target = target)
    (stage : log.worker.stage = .starting ∨ log.worker.stage = .dialing ∧ target ≠ [])
    (put : log.put = []) (received : log.worker.received = []) (seq : log.worker.seq = 0)
    (balanced : log.activeConns = activeConns)
    (answered : ∀ event ∈ past, event.Answered) :
    (log.after action worker effect).Progress sid target activeConns (past ++ [.act action]) := by
  have early : log.worker.stage ≠ .connected := by
    rcases stage with first | second
    · rw [first]
      decide
    · rw [second.1]
      decide
  have unchanged : log.activeConns + 0 = activeConns := (add_zero _).trans balanced
  have dialing (dials : log.worker.stage = .dialing) : target ≠ [] := by
    rcases stage with first | second
    · cases first.symm.trans dials
    · exact second.2
  have none : log.put ++ [] = [] := by rw [put, List.append_nil]
  cases branch with
  | noTarget _ empty => exact .silent rfl none (.inl (dials.symm.trans empty))
  | begun _ some =>
      rw [dials] at some
      exact .dialing (.inr ⟨rfl, some⟩) none received seq unchanged
        (answered_append answered trivial)
  | dialed dials =>
      refine .connected rfl ?_ ?_ (congrArg (· + 1) balanced) (dialing dials)
        (answered_append answered trivial)
      · simp [WorkerLog.after, put, received, readFrames, UpstreamEffect.frames]
      · simp [WorkerLog.after, seq, received]
  | dialFailed message now payload dials encoded =>
      refine .ended rfl ⟨⟨_, dial_error_ends sid payload, ?_⟩, unchanged⟩ (dialing dials)
        (answered_append answered ⟨payload, encoded⟩)
      simp [WorkerLog.after, put, received, readFrames, UpstreamEffect.frames, id]
  | unencodable message now reason dials encoded =>
      refine .silent rfl none (.inr fun all => ?_)
      obtain ⟨payload, encodes⟩ := all _ (List.mem_append_right _ (List.mem_singleton.mpr rfl))
      cases encoded.symm.trans encodes
  | dialRaised dials =>
      exact .silent rfl none
        (.inr fun all => all _ (List.mem_append_right _ (List.mem_singleton.mpr rfl)))
  | read _ _ connected | pop _ _ connected => exact absurd connected early
  | readEnded _ connected => exact absurd connected early
  | wake connected | writeFailed connected | writerCancelled connected | finish connected =>
      exact absurd connected early

/-- The reader puts the chunks it reads and, when it ends, the FIN. -/
theorem serve_progress (branch : log.worker.Acts log.session action worker effect)
    (id : log.session.sessionId = sid) (stage : log.worker.stage = .connected)
    (put : log.put = readFrames sid log.worker.received ++
      if log.worker.reading then [] else [upstreamFinFrame sid])
    (seq : log.worker.seq = log.worker.received.length)
    (counted : log.activeConns = activeConns + 1) (dialed : target ≠ [])
    (answered : ∀ event ∈ past, event.Answered) :
    (log.after action worker effect).Progress sid target activeConns (past ++ [.act action]) := by
  have unchanged : log.activeConns + 0 = activeConns + 1 := (add_zero _).trans counted
  cases branch with
  | noTarget other | begun other | dialed other | dialRaised other => cases stage.symm.trans other
  | dialFailed _ _ _ other | unencodable _ _ _ other => cases stage.symm.trans other
  | read data now _ reading =>
      refine .connected stage ?_ ?_ unchanged dialed (answered_append answered trivial)
      · simp [WorkerLog.after, put, reading, read_frames_append, UpstreamEffect.frames, id, seq]
      · simp [WorkerLog.after, seq]
  | readEnded now _ reading =>
      refine .connected stage ?_ seq unchanged dialed (answered_append answered trivial)
      simp [WorkerLog.after, put, reading, UpstreamEffect.frames, id]
  | wake | writeFailed | writerCancelled =>
      refine .connected stage ?_ seq unchanged dialed (answered_append answered trivial)
      simp [WorkerLog.after, put, UpstreamEffect.frames]
  | pop worker effect _ _ popped =>
      obtain ⟨sameStage, reading, received, sameSeq, frames⟩ := pop_keeps popped
      refine .connected (sameStage.trans stage) ?_ ?_ unchanged dialed
        (answered_append answered trivial)
      · simp [WorkerLog.after, put, frames, reading, received]
      · exact sameSeq.trans (seq.trans (congrArg _ (congrArg _ received.symm)))
  | finish _ done closed =>
      refine .ended rfl ⟨⟨_, upstream_fin_ends sid, ?_⟩, ?_⟩ dialed
        (answered_append answered trivial)
      · simp [WorkerLog.after, put, closed, UpstreamEffect.frames]
      · simp [WorkerLog.after, counted, WorkerAct.activeConns]

theorem act_progress (id : log.session.sessionId = sid) (dials : log.session.target = target)
    (progress : log.Progress sid target activeConns past)
    (stepped : log.step (.act action) = some later) :
    later.Progress sid target activeConns (past ++ [.act action]) := by
  obtain ⟨worker, effect, acted, rfl⟩ := WorkerLog.act_stepped stepped
  have branch := UpstreamWorker.act_cases acted
  cases progress with
  | ended stage | silent stage => exact absurd stage (acts_before_end branch)
  | dialing stage put received seq balanced answered =>
      exact dial_progress branch id dials stage put received seq balanced answered
  | connected stage put seq counted dialed answered =>
      exact serve_progress branch id stage put seq counted dialed answered

theorem receive_progress {frame : Frame} {now : ℚ}
    (progress : log.Progress sid target activeConns past)
    (stepped : log.step (.enqueueRx frame now) = some later) :
    later.Progress sid target activeConns (past ++ [.enqueueRx frame now]) := by
  cases stepped
  cases progress with
  | dialing stage put received seq balanced answered =>
      exact .dialing stage put received seq balanced (answered_append answered trivial)
  | connected stage put seq counted dialed answered =>
      exact .connected stage put seq counted dialed (answered_append answered trivial)
  | ended stage visible dialed answered =>
      exact .ended stage ⟨visible.frames, visible.balanced⟩ dialed
        (answered_append answered trivial)
  | silent stage put reason =>
      refine .silent stage put (reason.imp_right fun unanswered all => unanswered ?_)
      exact fun event member => all event (List.mem_append_left _ member)

/-- No event changes the id or the target of the session. -/
theorem step_names {event : WorkerEvent} (stepped : log.step event = some later) :
    later.session.sessionId = log.session.sessionId ∧
      later.session.target = log.session.target := by
  cases event with
  | enqueueRx frame now =>
      cases stepped
      have object : (log.pool.enqueueRx log.worker.session frame now).objects log.worker.session =
          log.session.enqueueRx frame now := (enqueue_rx_objects _ _ _ _ _).trans (if_pos rfl)
      have id := congrArg Session.sessionId object
      have target := congrArg Session.target object
      exact ⟨id, target⟩
  | act action =>
      obtain ⟨worker, effect, acted, rfl⟩ := WorkerLog.act_stepped stepped
      rw [WorkerLog.after_session log action (UpstreamWorker.act_acted acted).1 effect]
      cases effect with
      | nothing | enqueueTx | clearRxEvent | popRx => exact ⟨rfl, rfl⟩

end Steps

theorem run_progress {pool : SessionPool} {session : Nat} {activeConns : Int}
    {history : List WorkerEvent} {log : WorkerLog}
    (run : workerMachine.Run StepMachine.anyStep (.spawned pool session activeConns)
      history log) :
    log.Progress (pool.objects session).sessionId (pool.objects session).target activeConns
      history := by
  have both : (log.session.sessionId = (pool.objects session).sessionId ∧
      log.session.target = (pool.objects session).target) ∧
      log.Progress (pool.objects session).sessionId (pool.objects session).target activeConns
        history := by
    apply run.invariant_with_history
    · refine ⟨⟨rfl, rfl⟩, .dialing (.inl rfl) rfl rfl rfl rfl ?_⟩
      intro event member
      cases member
    · rintro past before event later ⟨⟨id, dials⟩, progress⟩ _ stepped
      obtain ⟨sameId, sameTarget⟩ := step_names stepped
      refine ⟨⟨sameId.trans id, sameTarget.trans dials⟩, ?_⟩
      cases event with
      | enqueueRx frame now => exact receive_progress progress stepped
      | act action => exact act_progress id dials progress stepped
  exact both.2

/-- A worker that has ended leaves one terminal frame behind exactly if its
session had a target and its dial raised nothing that is not caught. -/
theorem worker_ends_visibly_iff (pool : SessionPool) (session : Nat) (activeConns : Int)
    (history : List WorkerEvent) (log : WorkerLog)
    (run : workerMachine.Run StepMachine.anyStep (.spawned pool session activeConns)
      history log) (ended : log.worker.stage = .ended) :
    log.EndsVisibly (pool.objects session).sessionId activeConns ↔
      (pool.objects session).target ≠ [] ∧ ∀ event ∈ history, event.Answered := by
  cases run_progress run with
  | dialing stage =>
      rcases stage with first | second
      · cases first.symm.trans ended
      · cases second.1.symm.trans ended
  | connected stage => cases stage.symm.trans ended
  | ended _ visible dialed answered => exact ⟨fun _ => ⟨dialed, answered⟩, fun _ => visible⟩
  | silent _ put reason =>
      constructor
      · rintro ⟨⟨last, _, frames⟩, _⟩
        rw [put] at frames
        exact absurd frames.symm (List.append_ne_nil_of_right_ne_nil _ (List.cons_ne_nil _ _))
      · rintro ⟨dialed, answered⟩
        exact absurd answered (reason.resolve_left dialed)

/-- A worker that reads two chunks before its upstream ends. -/
theorem two_chunks_end_visibly : ∃ log : WorkerLog,
    log.worker.received = [[7], [8]] ∧ log.EndsVisibly zeroId 3 := by
  have passed : ((workerMachine.exec StepMachine.anyStep (WorkerLog.spawned
      (synPool SessionPool.new (synFrame zeroId (literal "a:1")) 0) 0 3)
      [.act .begin, .act .dialed, .act (.read [7] 1), .act (.read [8] 2), .act (.readEnded 3),
        .act .writerCancelled, .act .finish]).any fun log =>
          decide (log.worker.received = [[7], [8]] ∧ log.worker.stage = .ended)) = true := by
    decide +kernel
  obtain ⟨log, executed, checked⟩ := (Option.any_eq_true _ _).mp passed
  obtain ⟨received, ended⟩ := of_decide_eq_true checked
  have run := StepMachine.run_of_exec _ executed
  refine ⟨log, received, (worker_ends_visibly_iff _ 0 3 _ log run ended).mpr ⟨by decide, ?_⟩⟩
  simp [WorkerEvent.Answered]

/-- A SYN without a target starts a worker that ends without a word. -/
theorem empty_target_ends_silently :
    ¬ ∀ (pool : SessionPool) (session : Nat) (activeConns : Int) (history : List WorkerEvent)
      (log : WorkerLog), workerMachine.Run StepMachine.anyStep (.spawned pool session activeConns)
        history log → log.worker.stage = .ended →
      log.EndsVisibly (pool.objects session).sessionId activeConns := by
  intro always
  have passed : ((workerMachine.exec StepMachine.anyStep (WorkerLog.spawned
      (synPool SessionPool.new (synFrame zeroId []) 0) 0 0) [.act .begin]).any fun log =>
        decide (log.worker.stage = .ended ∧ log.put = [])) = true := by
    decide +kernel
  obtain ⟨log, run, seen⟩ := StepMachine.run_of_exec_any _ passed
  obtain ⟨ended, nothing⟩ := of_decide_eq_true seen
  obtain ⟨last, _, frames⟩ := (always _ _ _ _ log run ended).frames
  rw [nothing] at frames
  exact absurd frames.symm (List.append_ne_nil_of_right_ne_nil _ (List.cons_ne_nil _ _))

end Astrix
