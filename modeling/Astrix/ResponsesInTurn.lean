import Astrix.CrossTalk
import Astrix.Library.ServedInTurn
import Astrix.OneWorker
import Astrix.QueueSteps
import Astrix.ResponseLedger
import Astrix.ResponseReadable

/-!
# How long a frame waits for its response

A round of a poll that is before its deadline scans the sessions, and a scan
that finds frames is answered at once. Each scan takes eight frames of every
session, whichever request it runs for. So a frame that an upstream worker
queued is in a response, once and in its place, after as many scans as its
position in the queue takes, as long as its session is in the pool.
-/

namespace Astrix

open PyRuntime SessionPool

set_option autoImplicit false

section Rounds

variable {pool : SessionPool} {poll : Poll} {sid : Bytes} {r : Nat}

theorem poll_round_scans {atCheck : ℚ} (afterScan : ℚ) (early : atCheck < poll.waitDeadline)
    (quiet : poll.responseFrames = []) :
    (pollRound pool poll atCheck afterScan).1 = (scanSessions pool []).pool ∧
      (pollRound pool poll atCheck afterScan).2.frames = (scanSessions pool []).responseFrames := by
  rw [pollRound, if_neg (not_le.mpr (sub_pos.mpr early)), quiet]
  dsimp only
  split_ifs with found
  · exact ⟨rfl, rfl⟩
  · refine ⟨rfl, ?_⟩
    rw [not_not.mp found, PollOutcome.frames]

/-- A round takes the front of the session's queue exactly when it scans. -/
theorem round_serves_queue (own : pool.Holds OwnFrame AnyFrame) (quiet : poll.responseFrames = [])
    (found : pool.get sid = some r) (atCheck afterScan : ℚ) :
    StepMachine.Serves pollDrainLimit (pool.objects r).txQ
      ((pollRound pool poll atCheck afterScan).1.objects r).txQ
      (sessionFrames sid (pollRound pool poll atCheck afterScan).2.frames)
      (if atCheck < poll.waitDeadline then 1 else 0) := by
  split_ifs with early
  · obtain ⟨after, frames⟩ := @poll_round_scans pool poll atCheck afterScan early quiet
    have only : ∀ s ∈ pool.snapshotAll, (pool.objects s).sessionId = sid → s = r := by
      intro s listed same
      have keyed := get_of_snapshot listed
      rw [same, found] at keyed
      exact (Option.some.inj keyed).symm
    have moved := scan_session own (get_keyed found).2 only []
    have front : ((scanSessions pool []).pool.objects r).txQ =
        (pool.objects r).txQ.drop pollDrainLimit := by
      rw [scan_objects, if_pos (snapshot_of_get found), scanned_tx_q]
    rw [after, frames]
    refine ⟨⟨[], moved.trans (List.append_nil _).symm⟩, Nat.le_refl _, fun _ => ?_⟩
    have length := congrArg List.length moved
    rw [front, List.length_append, List.length_drop] at length
    by_cases long : pollDrainLimit ≤ (pool.objects r).txQ.length
    · left
      have none : (sessionFrames sid ([] : List Frame) ++ (pool.objects r).txQ).length =
          (pool.objects r).txQ.length := rfl
      omega
    · right
      rw [front]
      exact List.drop_eq_nil_of_le (Nat.le_of_not_le long)
  · have elapsed := @poll_round_over pool poll atCheck afterScan (not_lt.mp early)
    rw [elapsed, PollOutcome.frames, quiet]
    exact ⟨⟨[], (List.append_nil _).symm⟩, Nat.zero_le _,
      fun some => absurd some (Nat.lt_irrefl 0)⟩

theorem poll_round_dict (pool : SessionPool) (poll : Poll) (atCheck afterScan : ℚ) :
    (pollRound pool poll atCheck afterScan).1.get sid = pool.get sid := by
  rw [SessionPool.get, SessionPool.get, poll_round_sessions]

/-- What a handler collected is in the reply it gives. -/
theorem settle_replies {server after : ExitServer} {request : Nat} {clientId : Bytes}
    {reply : Option Reply} {atCheck afterScan : ℚ}
    (settled : server.settle request clientId (pollRound pool poll atCheck afterScan) =
      (after, reply)) :
    after.pool = (pollRound pool poll atCheck afterScan).1 ∧
      reply.toList.flatMap Reply.frames = (pollRound pool poll atCheck afterScan).2.frames := by
  generalize result : pollRound pool poll atCheck afterScan = outcome at settled
  obtain ⟨later, outcome⟩ := outcome
  cases outcome with
  | answered frames =>
      cases settled
      exact ⟨rfl, List.flatMap_singleton _ _⟩
  | asleep asleep sleepFor =>
      cases settled
      exact ⟨rfl, (poll_round_asleep (congrArg Prod.snd result)).symm⟩

end Rounds

namespace ServerLog

/-- The action runs a round before its deadline. -/
def scans (log : ServerLog) : ServerAction → Nat
  | .post _ _ _ now atCheck _ => if atCheck < now + LongPollWindow then 1 else 0
  | .resume index atCheck _ =>
      if (log.server.polls[index]?).any fun entry => atCheck < entry.2.waitDeadline then 1 else 0
  | .worker _ _ => 0

/-- The frames of a session in the reply that an action gives. -/
def repliedOf (sid : Bytes) (log : ServerLog) (action : ServerAction) : List Frame :=
  sessionFrames sid (((log.server.react action).bind Prod.snd).toList.flatMap Reply.frames)

/-- The frames of a session in the replies of a history, in that order. -/
def replied (sid : Bytes) (log : ServerLog) (history : List ServerAction) : List Frame :=
  serverMachine.totalTaken (repliedOf sid) log history

/-- No RST and no idle cleanup takes the session out of the pool. -/
def KeepsSession (sid : Bytes) (log : ServerLog) (action : ServerAction) : Prop :=
  ∀ later ∈ log.step action, later.server.pool.get sid = log.server.pool.get sid

instance (sid : Bytes) (log : ServerLog) (action : ServerAction) :
    Decidable (log.KeepsSession sid action) :=
  inferInstanceAs (Decidable (∀ later ∈ log.step action, _))

end ServerLog

section Runs

variable {sid : Bytes} {r : Nat} {log later : ServerLog} {action : ServerAction}

/-- The invariant: own queues, no refusals, and handlers asleep with nothing. -/
structure Collectable (log : ServerLog) : Prop where
  running : Running log
  blank : BlankTx log.server.pool
  quiet : QuietPolls log.server

theorem Collectable.own (collectable : Collectable log) :
    log.server.pool.Holds OwnFrame AnyFrame :=
  collectable.running.accounted.queues.pool.weaken (fun _ _ both => both.1) fun _ _ _ => trivial

theorem Collectable.unrefused (collectable : Collectable log) (frames : List Frame) (now : ℚ) :
    (log.server.accept frames now).2 = [] := by
  rw [ExitServer.accept, collectable.running.unlocked]
  apply (dispatch_refuses false now log.server.pool frames).mpr
  intro locked
  cases locked.1

theorem collectable_start : Collectable ServerLog.start where
  running := running_start
  blank _ _ := rfl
  quiet := List.forall_mem_nil _

theorem effect_put_session {session ref : Nat} {frame : Frame} {effect : UpstreamEffect}
    (put : effect.put session = some (ref, frame)) : ref = session := by
  cases effect with
  | enqueueTx queued now =>
      cases put
      rfl
  | nothing | clearRxEvent | popRx => cases put

/-- What an action enqueues goes on an object that is allocated. -/
theorem put_allocated (collectable : Collectable log) {ref : Nat} {frame : Frame}
    (put : log.server.put action = some (ref, frame)) : ref < log.server.pool.fresh := by
  cases action with
  | worker index act =>
      cases found : log.server.workers[index]? with
      | none => simp [ExitServer.put, found] at put
      | some w =>
          cases acted : w.act (log.server.pool.objects w.session) act with
          | none => simp [ExitServer.put, found, acted] at put
          | some result =>
              simp only [ExitServer.put, found, acted] at put
              rw [effect_put_session put]
              exact collectable.running.owns w (List.mem_of_getElem? found)
  | post | resume => cases put

theorem collectable_step (collectable : Collectable log) (stepped : log.step action = some later) :
    Collectable later := by
  refine ⟨running_step collectable.running stepped, ?_, ?_⟩
  · obtain ⟨⟨server, reply⟩, reacted, rfl⟩ := Option.map_eq_some_iff.mp stepped
    have grown := (ExitServer.react_grows reacted).pool.fresh
    intro s unallocated
    have beyond := grown.trans unallocated
    obtain ⟨n, queue⟩ := (ExitServer.react_queue_step reacted).queues s
    have nothing : valuesAt s (log.server.put action).toList = [] := by
      cases put : log.server.put action with
      | none => rfl
      | some entry =>
          have allocated := put_allocated collectable put
          exact values_at_other (by omega) [entry.2]
    rw [queue, nothing, collectable.blank s beyond, List.drop_nil, List.append_nil]
  · obtain ⟨⟨server, reply⟩, reacted, rfl⟩ := Option.map_eq_some_iff.mp stepped
    exact collectable.quiet.react reacted

/-- What one action does with the session's queue. -/
theorem action_serves (collectable : Collectable log) (found : log.server.pool.get sid = some r)
    (keeps : log.KeepsSession sid action) (stepped : log.step action = some later) :
    StepMachine.Serves pollDrainLimit (log.server.pool.objects r).txQ
      (later.server.pool.objects r).txQ (log.repliedOf sid action) (log.scans action) := by
  have still := (keeps later stepped).trans found
  obtain ⟨⟨server, reply⟩, reacted, rfl⟩ := Option.map_eq_some_iff.mp stepped
  have replies : log.repliedOf sid action =
      sessionFrames sid (reply.toList.flatMap Reply.frames) := by
    rw [ServerLog.repliedOf, reacted]
    rfl
  rcases ExitServer.react_cases reacted with
    ⟨request, clientId, frames, now, atCheck, afterScan, rfl, same⟩ |
    ⟨index, atCheck, afterScan, request, poll, rfl, present, same⟩ |
    ⟨index, act, w, w', effect, rfl, present, acted, rfl, rfl⟩
  · obtain ⟨pool, answered⟩ := settle_replies same
    have dispatched := (@dispatch_frames_holds OwnFrame AnyFrame log.server.locked now
      log.server.pool frames collectable.own (fun _ _ => trivial) fun _ _ _ => rfl).1
    have tx := (dispatch_frames_tx log.server.locked now frames collectable.blank).2 r
    have there : (log.server.accept frames now).1.pool.get sid = some r := by
      rw [← poll_round_dict _ (startPoll clientId (log.server.accept frames now).2 now) atCheck
        afterScan, ← pool]
      exact still
    have serves := @round_serves_queue _ (startPoll clientId (log.server.accept frames now).2 now)
      sid r dispatched (collectable.unrefused frames now) there atCheck afterScan
    rw [replies, answered, pool, ← tx]
    exact serves
  · obtain ⟨pool, answered⟩ := @settle_replies (collectGarbage log.server.pool poll).1
      (collectGarbage log.server.pool poll).2 _ _ _ _ _ atCheck afterScan same
    have quiet : (collectGarbage log.server.pool poll).2.responseFrames = [] := by
      rw [collect_garbage_frames]
      exact collectable.quiet _ (List.mem_of_getElem? present)
    have there : (collectGarbage log.server.pool poll).1.get sid = some r := by
      rw [← poll_round_dict _ (collectGarbage log.server.pool poll).2 atCheck afterScan, ← pool]
      exact still
    have serves := round_serves_queue (collectable.own.garbage poll) quiet there atCheck afterScan
    have deadline : (collectGarbage log.server.pool poll).2.waitDeadline = poll.waitDeadline := by
      rw [collect_garbage_poll, after_gc_deadline]
    have turn : log.scans (.resume index atCheck afterScan) =
        if atCheck < poll.waitDeadline then 1 else 0 := by
      rw [ServerLog.scans, present]
      simp
    rw [deadline, (garbage_kept log.server.pool poll).2 r] at serves
    rw [replies, answered, pool, turn]
    exact serves
  · have queue : ∃ added, ((effect.apply log.server.pool w.session).objects r).txQ =
        (log.server.pool.objects r).txQ ++ added := by
      by_cases own : r = w.session
      · rw [own, upstream_effect_tx]
        exact ⟨_, rfl⟩
      · rw [upstream_effect_other _ _ _ own]
        exact ⟨[], (List.append_nil _).symm⟩
    obtain ⟨added, queue⟩ := queue
    rw [replies]
    exact ⟨⟨added, queue⟩, Nat.zero_le _, fun some => absurd some (Nat.lt_irrefl 0)⟩

/-- From any reachable state of the server, in any run that keeps the session in the
pool: what the replies carry of the session and what is left in its queue is what
was queued, in order, and after `n` scans, whichever requests make them, at least
the first `8 * n` frames of its queue have been replied. -/
theorem queued_frames_replied_in_turn {history continued : List ServerAction}
    (reached : serverMachine.Run StepMachine.anyStep ServerLog.start history log)
    (found : log.server.pool.get sid = some r)
    (run : serverMachine.Run (ServerLog.KeepsSession sid) log continued later) :
    (∃ queued, log.replied sid continued ++ (later.server.pool.objects r).txQ =
        (log.server.pool.objects r).txQ ++ queued) ∧
      (log.server.pool.objects r).txQ.take
          (pollDrainLimit * serverMachine.totalCost ServerLog.scans log continued) <+:
        log.replied sid continued := by
  have collectable : Collectable log :=
    reached.invariant collectable_start fun _ _ _ before _ stepped =>
      collectable_step before stepped
  obtain ⟨_, kept⟩ := run.keeping
    (fun before => Collectable before ∧ before.server.pool.get sid = some r) ⟨collectable, found⟩
    fun before action after held keeps stepped =>
      ⟨collectable_step held.1 stepped, (keeps after stepped).trans held.2⟩
  apply kept.served_in_turn
  intro before action after permitted stepped
  exact action_serves permitted.1.1 permitted.1.2 permitted.2 stepped

/-- Nine chunks are queued while no request is open. -/
def nineChunks : List ServerAction :=
  [.post 0 zeroId [synFrame downloadSid [97]] 0 8 8, .worker 0 .begin, .worker 0 .dialed] ++
    (List.range 9).map fun n => .worker 0 (.read [UInt8.ofNat n] 0)

/-- Two requests, and a chunk that comes between them. -/
def twoRequests : List ServerAction :=
  [.post 1 zeroId [] 8 8 8, .worker 0 (.read [9] 8), .post 2 zeroId [] 8 8 8]

/-- The first request gets eight chunks, the second the rest. -/
theorem nine_chunks_replied : ∃ log later : ServerLog,
    serverMachine.Run StepMachine.anyStep ServerLog.start nineChunks log ∧
      serverMachine.Run (ServerLog.KeepsSession downloadSid) log twoRequests later ∧
      (log.server.pool.objects 0).txQ.length = 9 ∧
      (log.server.pool.objects 0).txQ <+: log.replied downloadSid twoRequests := by
  obtain ⟨log, run, checked⟩ : ∃ log,
      serverMachine.Run StepMachine.anyStep ServerLog.start nineChunks log ∧
        decide (log.server.pool.get downloadSid = some 0 ∧
          (log.server.pool.objects 0).txQ.length = 9 ∧
          (serverMachine.exec (ServerLog.KeepsSession downloadSid) log twoRequests).isSome = true ∧
          serverMachine.totalCost ServerLog.scans log twoRequests = 2) = true :=
    StepMachine.run_of_exec_any _ (by decide +kernel)
  obtain ⟨found, nine, goesOn, twice⟩ := of_decide_eq_true checked
  obtain ⟨later, executed⟩ := Option.isSome_iff_exists.mp goesOn
  have continued := StepMachine.run_of_exec twoRequests executed
  have replied := (queued_frames_replied_in_turn run found continued).2
  rw [twice, List.take_of_length_le (by rw [nine]; decide)] at replied
  exact ⟨log, later, run, continued, nine, replied⟩

end Runs

end Astrix
