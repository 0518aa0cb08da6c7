import Astrix.ClientRuns
import Astrix.ServerRuns
import Astrix.UploadClient
import Astrix.Library.ReservedQueue

/-!
# One step of a transmit queue

Whatever a client or the server does in one step, from every transmit queue some
frames go off the front and at most one frame comes on at the end, which a
connection or an upstream worker enqueues.
-/

namespace Astrix

open PyRuntime SessionPool

set_option autoImplicit false

/-- What a step does to the queues; `put` is the frame that was enqueued, with
its session. -/
structure QueueStep (before after : SessionPool) (put : Option (Nat × Frame)) : Prop where
  queues : ∀ r, ∃ n, (after.objects r).txQ =
    (before.objects r).txQ.drop n ++ valuesAt r put.toList
  counted : Counted before → Counted after

section Steps

variable {before after later : SessionPool}

/-- No frame is enqueued. -/
theorem queue_step_of_drops (queues : ∀ r, ∃ n, (after.objects r).txQ =
      (before.objects r).txQ.drop n) (counted : Counted before → Counted after) :
    QueueStep before after none := by
  refine ⟨fun r => ?_, counted⟩
  obtain ⟨n, queue⟩ := queues r
  exact ⟨n, queue.trans (List.append_nil _).symm⟩

theorem queue_step_of_same (queues : ∀ r, (after.objects r).txQ = (before.objects r).txQ)
    (counted : Counted before → Counted after) : QueueStep before after none :=
  queue_step_of_drops (fun r => ⟨0, queues r⟩) counted

theorem QueueStep.refl (pool : SessionPool) : QueueStep pool pool none :=
  queue_step_of_same (fun _ => rfl) id

theorem QueueStep.drops (step : QueueStep before after none) (r : Nat) :
    ∃ n, (after.objects r).txQ = (before.objects r).txQ.drop n := by
  obtain ⟨n, queue⟩ := step.queues r
  exact ⟨n, queue.trans (List.append_nil _)⟩

theorem QueueStep.trans {put : Option (Nat × Frame)} (first : QueueStep before after none)
    (second : QueueStep after later put) : QueueStep before later put := by
  refine ⟨fun r => ?_, second.counted ∘ first.counted⟩
  obtain ⟨n, dropped⟩ := first.drops r
  obtain ⟨m, queue⟩ := second.queues r
  exact ⟨n + m, by rw [queue, dropped, List.drop_drop]⟩

theorem queue_step_modify (pool : SessionPool) (ref : Nat) (change : Session → Session)
    (sameId : ∀ s, (change s).sessionId = s.sessionId) (txQ : ∀ s, (change s).txQ = s.txQ)
    (txBytes : ∀ s, (change s).txBytes = s.txBytes) :
    QueueStep pool (pool.modify ref change sameId) none := by
  refine queue_step_of_same (fun r => modify_tx pool ref r change sameId txQ) fun counted => ?_
  exact counted_modify counted (by rw [txBytes, txQ]; exact counted ref)

theorem queue_step_drain_tx (pool : SessionPool) (ref maxFrames : Nat) :
    QueueStep pool (pool.drainTx ref maxFrames) none := by
  refine queue_step_of_drops (fun r => ?_) fun counted => counted_drain_tx counted ref maxFrames
  rw [drain_tx_objects]
  split_ifs with here
  · rw [here]
    exact ⟨maxFrames, rfl⟩
  · exact ⟨0, rfl⟩

theorem queue_step_get_or_create (pool : SessionPool) (sid : Bytes) (flags : Nat) (target : Text)
    (now : ℚ) : QueueStep pool (pool.getOrCreate sid flags target now).1 none := by
  refine queue_step_of_drops (fun r => ?_) fun counted =>
    counted_get_or_create counted sid flags target now
  rcases get_or_create_cases pool sid flags target now with ⟨ref, _, same⟩ | ⟨missing, made⟩
  · rw [same]
    exact ⟨0, rfl⟩
  · rw [made, insert_objects]
    split_ifs with new
    · exact ⟨(pool.objects r).txQ.length, (List.drop_length ..).symm⟩
    · exact ⟨0, rfl⟩

theorem queue_step_enqueue_tx (pool : SessionPool) (ref : Nat) (frame : Frame) (now : ℚ) :
    QueueStep pool (pool.enqueueTx ref frame now) (some (ref, frame)) := by
  refine ⟨fun r => ⟨0, ?_⟩, fun counted => counted_enqueue_tx counted ref frame now⟩
  rw [enqueue_tx_objects]
  by_cases here : r = ref
  · subst here
    rw [if_pos rfl]
    simp [Session.enqueueTx, valuesAt]
  · rw [if_neg here]
    simp [valuesAt, Ne.symm here]

theorem queue_step_enqueue_rx (pool : SessionPool) (ref : Nat) (frame : Frame) (now : ℚ) :
    QueueStep pool (pool.enqueueRx ref frame now) none :=
  queue_step_modify _ _ _ _ (fun _ => rfl) fun _ => rfl

theorem queue_step_set_seq (pool : SessionPool) (ref : Nat) (seq : Int) :
    QueueStep pool (pool.setSeq ref seq) none :=
  queue_step_modify _ _ _ _ (fun _ => rfl) fun _ => rfl

theorem queue_step_remove (pool : SessionPool) (sid : Bytes) :
    QueueStep pool (pool.remove sid) none :=
  queue_step_of_same (fun _ => rfl) id

theorem queue_step_cleanup (pool : SessionPool) (timeout now : ℚ) :
    QueueStep pool (pool.cleanupExpired timeout now).1 none := by
  refine cleanup_preserves (P := fun start => QueueStep pool start none)
    (fun start entry _ step => step.trans ?_) (QueueStep.refl pool)
  exact (queue_step_remove start entry.1).trans
    (queue_step_modify _ _ _ _ (fun _ => rfl) fun _ => rfl)

end Steps

section Client

/-- The loop over a snapshot leaves the pool alone or puts the snapshot back. -/
theorem take_frames_pool (snapshot : DrainSnapshot) (now : ℚ) (rest : List Frame) (drain : Drain) :
    (takeFrames snapshot now drain rest).pool = drain.pool ∨
      (takeFrames snapshot now drain rest).pool = drain.pool.rollbackDrain snapshot now := by
  induction rest generalizing drain with
  | nil => exact .inl rfl
  | cons f rest ih =>
      rw [takeFrames]
      cases f.encodedLen with
      | error error => exact .inl rfl
      | ok elen =>
          dsimp only
          split_ifs
          · exact .inr rfl
          · exact ih { drain with
              frames := drain.frames ++ [f]
              totalSize := drain.totalSize + elen }

theorem queue_step_visit (batchSize : Nat) (now : ℚ) (drain : Drain) (sid : Bytes) :
    QueueStep drain.pool (drainSession batchSize now drain sid).pool none := by
  have counted : Counted drain.pool → Counted (drainSession batchSize now drain sid).pool :=
    counted_visit batchSize now sid
  rcases drain.pool.drain_cases sid batchSize with ⟨_, same⟩ | ⟨ref, found, _, taken⟩
  · have unchanged : (drainSession batchSize now drain sid).pool = drain.pool := by
      rw [drainSession, same]
      split_ifs <;> rfl
    rw [unchanged]
    exact QueueStep.refl _
  · refine queue_step_of_drops (fun r => ?_) counted
    have drained := queue_step_drain_tx drain.pool ref batchSize
    rw [drainSession, taken]
    split_ifs with failed
    · exact ⟨0, rfl⟩
    · dsimp only
      split_ifs
      · exact drained.drops r
      · rcases take_frames_pool ⟨sid, (drain.pool.objects ref).txQ.take batchSize,
            ((drain.pool.objects ref).txQ.take batchSize).length,
            totalPayload ((drain.pool.objects ref).txQ.take batchSize)⟩ now
            ((drain.pool.objects ref).txQ.take batchSize)
            { drain with pool := drain.pool.drainTx ref batchSize } with kept | back
        · rw [kept]
          exact drained.drops r
        · rw [back, rollback_found now found, rollback_tx_objects]
          split_ifs with here
          · refine ⟨0, ?_⟩
            rw [here, drain_tx_objects, if_pos rfl]
            exact List.take_append_drop _ _
          · exact drained.drops r

theorem queue_step_drain_all (pool : SessionPool) (batchSize workerId : Nat) (now : ℚ) :
    QueueStep pool (drainAll pool batchSize workerId now).pool none :=
  List.foldlRecOn (motive := fun drain : Drain => QueueStep pool drain.pool none) _ _
    (QueueStep.refl pool) fun drain step sid _ => step.trans (queue_step_visit _ _ drain sid)

/-- The frame that an act of a connection enqueues. -/
def ConnEffect.put (session : Nat) (effect : ConnEffect) : Option (Nat × Frame) :=
  effect.frames.head?.map fun frame => (session, frame)

theorem queue_step_conn_effect (pool : SessionPool) (session : Nat) (effect : ConnEffect) :
    QueueStep pool (effect.apply pool session) (effect.put session) := by
  refine ⟨fun r => ⟨0, ?_⟩, fun counted => counted_conn_effect counted session effect⟩
  by_cases here : r = session
  · subst here
    rw [conn_effect_tx]
    cases effect <;> simp [ConnEffect.put, ConnEffect.frames, valuesAt]
  · rw [conn_effect_other pool session effect here]
    cases effect <;> simp [ConnEffect.put, ConnEffect.frames, valuesAt, Ne.symm here]

namespace Client

/-- The frame that an action enqueues, with its session. -/
def put (client : Client) : ClientAction → Option (Nat × Frame)
  | .openConn sid target now =>
      some ((client.pool.getOrCreate sid FlagSYN target now).2, synFrame sid target)
  | .conn index act =>
      match client.conns[index]? with
      | some conn =>
          match conn.act (client.pool.objects conn.session) act with
          | some (_, effect) => effect.put conn.session
          | none => none
      | none => none
  | _ => none

/-- An action that enqueues nothing. -/
theorem reacted_drops {before after : Client} {request : Nat} {action : ClientAction}
    {sent : Option Post} (reacted : Reacted before request after action sent)
    (nothing : before.put action = none) : QueueStep before.pool after.pool none := by
  cases reacted with
  | opened sid target now pool conns => cases nothing
  | acted index act conn conn' effect found acted pool conns =>
      rw [put, found] at nothing
      dsimp only at nothing
      rw [acted] at nothing
      dsimp only at nothing
      rw [pool, ← nothing]
      exact queue_step_conn_effect before.pool conn.session effect
  | idle action call called unsent pool conns
  | posted action call called returned encodes pool conns =>
      rw [pool]
      exact queue_step_drain_all _ _ _ _
  | wrote index data conn conn' found written pool conns
  | still action pool conns =>
      rw [pool]
      exact QueueStep.refl _

theorem react_queue_step {before after : Client} {request : Nat} {action : ClientAction}
    {sent : Option Post} (reacted : before.react request action = some (after, sent)) :
    QueueStep before.pool after.pool (before.put action) := by
  cases action with
  | openConn sid target now =>
      cases reacted
      exact (queue_step_get_or_create before.pool sid FlagSYN target now).trans
        (queue_step_enqueue_tx _ _ _ _)
  | conn index act =>
      cases react_cases reacted with
      | conn _ _ conn conn' effect found acted =>
          rw [put, found]
          dsimp only
          rw [acted]
          exact queue_step_conn_effect before.pool conn.session effect
  | write index data | work index now | heard index activity now | cooled index
  | health index event | stop =>
      exact reacted_drops (react_reacted reacted) rfl

end Client

end Client

section Server

theorem queue_step_dispatch_frame (locked : Bool) (now : ℚ) (state : Dispatch) (f : Frame) :
    QueueStep state.pool (dispatchFrame locked now state f).pool none := by
  have created : QueueStep state.pool
      ((state.pool.getOrCreate f.sessionId f.flags f.target now).1.setSeq
        (state.pool.getOrCreate f.sessionId f.flags f.target now).2 (f.seq + 1)) none :=
    (queue_step_get_or_create _ _ _ _ _).trans (queue_step_set_seq _ _ _)
  rw [dispatchFrame]
  split_ifs
  · exact created
  · exact created
  · cases state.pool.get f.sessionId with
    | some s => exact queue_step_enqueue_rx _ _ _ _
    | none => exact QueueStep.refl _
  · cases state.pool.get f.sessionId with
    | some s => exact queue_step_set_seq _ _ _
    | none => exact QueueStep.refl _
  · exact queue_step_remove _ _
  · cases state.pool.get f.sessionId with
    | some s => exact queue_step_enqueue_rx _ _ _ _
    | none => exact QueueStep.refl _
  · exact QueueStep.refl _

theorem queue_step_dispatch (locked : Bool) (now : ℚ) (pool : SessionPool) (frames : List Frame) :
    QueueStep pool (dispatchFrames locked now pool frames).pool none :=
  List.foldlRecOn (motive := fun state : Dispatch => QueueStep pool state.pool none) _ _
    (QueueStep.refl pool)
    fun state step f _ => step.trans (queue_step_dispatch_frame locked now state f)

theorem queue_step_drain (pool : SessionPool) (sid : Bytes) (maxFrames : Nat) :
    QueueStep pool (pool.drainTxLimitedTxn sid maxFrames).1 none := by
  rcases drain_cases pool sid maxFrames with ⟨_, same⟩ | ⟨ref, _, _, taken⟩
  · rw [same]
    exact QueueStep.refl _
  · rw [taken]
    exact queue_step_drain_tx _ _ _

theorem queue_step_scan_session (scan : Scan) (s : Nat) :
    QueueStep scan.pool (scanSession scan s).pool none := by
  have drained := queue_step_drain scan.pool (scan.pool.objects s).sessionId pollDrainLimit
  rw [scanSession]
  split_ifs
  · dsimp only
    split_ifs <;> exact drained
  · exact QueueStep.refl _

theorem queue_step_scan (pool : SessionPool) (collected : List Frame) :
    QueueStep pool (scanSessions pool collected).pool none :=
  List.foldlRecOn (motive := fun scan : Scan => QueueStep pool scan.pool none) _ _
    (QueueStep.refl pool) fun scan step s _ => step.trans (queue_step_scan_session scan s)

theorem queue_step_poll_round (pool : SessionPool) (poll : Poll) (atCheck afterScan : ℚ) :
    QueueStep pool (pollRound pool poll atCheck afterScan).1 none := by
  rw [pollRound]
  dsimp only
  split_ifs
  · exact QueueStep.refl _
  · exact queue_step_scan _ _
  · exact queue_step_scan _ _

theorem queue_step_resume (pool : SessionPool) (poll : Poll) (atCheck afterScan : ℚ) :
    QueueStep pool (resumePoll pool poll atCheck afterScan).1 none := by
  have collected : QueueStep pool (collectGarbage pool poll).1 none := by
    rw [collectGarbage]
    split_ifs
    · exact queue_step_cleanup _ _ _
    · exact QueueStep.refl _
  exact collected.trans (queue_step_poll_round _ _ _ _)

/-- The frame that an act of a worker enqueues. -/
def UpstreamEffect.put (session : Nat) : UpstreamEffect → Option (Nat × Frame)
  | .enqueueTx frame _ => some (session, frame)
  | _ => none

theorem queue_step_effect (pool : SessionPool) (session : Nat) (effect : UpstreamEffect) :
    QueueStep pool (effect.apply pool session) (effect.put session) := by
  cases effect with
  | nothing => exact QueueStep.refl _
  | enqueueTx frame now => exact queue_step_enqueue_tx _ _ _ _
  | clearRxEvent =>
      have step : QueueStep pool (pool.clearRxEvent session) none :=
        queue_step_modify _ _ _ _ (fun _ => rfl) fun _ => rfl
      exact step
  | popRx =>
      have step : QueueStep pool (pool.popRx session) none :=
        queue_step_modify _ _ _ _ (fun _ => rfl) fun _ => rfl
      exact step

namespace ExitServer

/-- The frame that an action enqueues, with its session. -/
def put (server : ExitServer) : ServerAction → Option (Nat × Frame)
  | .worker index act =>
      match server.workers[index]? with
      | some w =>
          match w.act (server.pool.objects w.session) act with
          | some (_, effect) => effect.put w.session
          | none => none
      | none => none
  | _ => none

theorem react_queue_step {server later : ExitServer} {action : ServerAction}
    {reply : Option Reply} (reacted : server.react action = some (later, reply)) :
    QueueStep server.pool later.pool (server.put action) := by
  cases react_moved reacted with
  | posted request clientId frames now atCheck afterScan pool workers =>
      rw [pool, firstRound]
      exact (queue_step_dispatch _ _ _ _).trans (queue_step_poll_round _ _ _ _)
  | resumed index atCheck afterScan request poll found pool workers =>
      rw [pool]
      exact queue_step_resume _ _ _ _
  | acted index act w w' effect found acted pool workers =>
      rw [pool, put, found]
      dsimp only
      rw [acted]
      exact queue_step_effect _ _ _

end ExitServer

end Server

end Astrix
