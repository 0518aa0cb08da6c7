import Astrix.ClientQueues

/-!
# Counting the bytes of a queue

`tx_bytes` is kept by hand at every change of `tx_q`. All of them keep it equal
to the payload bytes queued, and so does everything a client does.
-/

namespace Astrix

open PyRuntime SessionPool

set_option autoImplicit false

/-- `tx_bytes` is the payload that is queued. -/
def Counted (pool : SessionPool) : Prop :=
  ∀ r, (pool.objects r).txBytes = totalPayload (pool.objects r).txQ

theorem total_payload_append (first second : List Frame) :
    totalPayload (first ++ second) = totalPayload first + totalPayload second := by
  simp [totalPayload]

theorem counted_modify {pool : SessionPool} (counted : Counted pool) {ref : Nat}
    {change : Session → Session} {sameId : ∀ s, (change s).sessionId = s.sessionId}
    (kept : (change (pool.objects ref)).txBytes = totalPayload (change (pool.objects ref)).txQ) :
    Counted (pool.modify ref change sameId) := by
  intro r
  rw [modify_objects]
  split_ifs
  · exact kept
  · exact counted r

theorem counted_enqueue_tx {pool : SessionPool} (counted : Counted pool) (ref : Nat)
    (frame : Frame) (now : ℚ) : Counted (pool.enqueueTx ref frame now) := by
  apply counted_modify counted
  simp only [Session.enqueueTx, total_payload_append, counted ref]
  rfl

theorem counted_drain_tx {pool : SessionPool} (counted : Counted pool) (ref maxFrames : Nat) :
    Counted (pool.drainTx ref maxFrames) := by
  apply counted_modify counted
  have whole := total_payload_append ((pool.objects ref).txQ.take maxFrames)
    ((pool.objects ref).txQ.drop maxFrames)
  rw [List.take_append_drop] at whole
  simp only [Session.drainTx, counted ref, whole]
  omega

theorem counted_rollback {pool : SessionPool} (counted : Counted pool) {snapshot : DrainSnapshot}
    (now : ℚ) (sum : snapshot.totalPayload = totalPayload snapshot.frames) :
    Counted (pool.rollbackDrain snapshot now) := by
  rw [rollbackDrain]
  cases pool.get snapshot.sessionId with
  | none => exact counted
  | some ref =>
      apply counted_modify counted
      simp only [Session.rollback, total_payload_append, counted ref, sum]
      omega

theorem counted_drain {pool : SessionPool} (counted : Counted pool) (sid : Bytes)
    (maxFrames : Nat) :
    Counted (pool.drainTxLimitedTxn sid maxFrames).1 ∧
      (pool.drainTxLimitedTxn sid maxFrames).2.totalPayload =
        totalPayload (pool.drainTxLimitedTxn sid maxFrames).2.frames := by
  rcases drain_cases pool sid maxFrames with ⟨_, same⟩ | ⟨ref, _, _, taken⟩
  · rw [same]
    exact ⟨counted, rfl⟩
  · rw [taken]
    exact ⟨counted_drain_tx counted ref maxFrames, rfl⟩

theorem counted_get_or_create {pool : SessionPool} (counted : Counted pool) (sid : Bytes)
    (flags : Nat) (target : Text) (now : ℚ) :
    Counted (pool.getOrCreate sid flags target now).1 := by
  rcases get_or_create_cases pool sid flags target now with ⟨ref, _, same⟩ | ⟨missing, made⟩
  · rw [same]
    exact counted
  · rw [made]
    intro other
    rw [insert_objects]
    split_ifs
    · rfl
    · exact counted other

section Drains

theorem counted_take_frames {snapshot : DrainSnapshot} (now : ℚ)
    (sum : snapshot.totalPayload = totalPayload snapshot.frames) (rest : List Frame)
    {drain : Drain} (counted : Counted drain.pool) :
    Counted (takeFrames snapshot now drain rest).pool := by
  induction rest generalizing drain with
  | nil => exact counted
  | cons f rest ih =>
      rw [takeFrames]
      cases f.encodedLen with
      | error error => exact counted
      | ok elen =>
          dsimp only
          split_ifs
          · exact counted_rollback counted now sum
          · exact @ih { drain with
              frames := drain.frames ++ [f]
              totalSize := drain.totalSize + elen } counted

theorem counted_visit (batchSize : Nat) (now : ℚ) {drain : Drain} (sid : Bytes)
    (counted : Counted drain.pool) : Counted (drainSession batchSize now drain sid).pool := by
  obtain ⟨taken, sum⟩ := counted_drain counted sid batchSize
  rw [drainSession]
  split_ifs with failed
  · exact counted
  · dsimp only
    split_ifs
    · exact taken
    · exact @counted_take_frames _ now sum _
        { drain with pool := (drain.pool.drainTxLimitedTxn sid batchSize).1 } taken

theorem counted_drain_all {pool : SessionPool} (counted : Counted pool)
    (batchSize workerId : Nat) (now : ℚ) :
    Counted (drainAll pool batchSize workerId now).pool :=
  List.foldlRecOn (motive := fun drain : Drain => Counted drain.pool) _ _ counted
    fun _ kept sid _ => counted_visit batchSize now sid kept

end Drains

section Effects

variable {pool : SessionPool}

theorem counted_open (counted : Counted pool) (sid : Bytes) (target : Text) (now : ℚ) :
    Counted (VirtualConn.openSession pool sid target now).1 :=
  counted_enqueue_tx (counted_get_or_create counted sid FlagSYN target now) _ _ _

theorem counted_conn_effect (counted : Counted pool) (session : Nat) (effect : ConnEffect) :
    Counted (effect.apply pool session) := by
  cases effect with
  | nothing => exact counted
  | sendData frame nextSeq now =>
      have numbered : Counted (pool.setSeq session nextSeq) :=
        counted_modify counted (counted session)
      exact counted_enqueue_tx numbered session frame now
  | sendFin frame now =>
      have queued := counted_enqueue_tx counted session frame now
      have woken : Counted ((pool.enqueueTx session frame now).setRxEvent session) :=
        counted_modify queued (queued session)
      exact woken
  | clearRxEvent =>
      have cleared : Counted (pool.clearRxEvent session) :=
        counted_modify counted (counted session)
      exact cleared
  | popRx =>
      have popped : Counted (pool.popRx session) := counted_modify counted (counted session)
      exact popped

theorem counted_enqueue_rx (counted : Counted pool) (ref : Nat) (f : Frame) (now : ℚ) :
    Counted (pool.enqueueRx ref f now) :=
  counted_modify counted (counted ref)

theorem counted_dispatch_response (counted : Counted pool) (now : ℚ) (frames : List Frame) :
    Counted (dispatchResponseFrames pool now frames) := by
  apply List.foldlRecOn (motive := Counted) _ _ counted
  intro start kept f _
  unfold dispatchResponseFrame
  cases start.get f.sessionId with
  | none => exact kept
  | some ref => exact counted_enqueue_rx kept ref f now

theorem counted_drop_failed (counted : Counted pool) (frames : List Frame) :
    Counted (dropFailed pool frames) :=
  List.foldlRecOn (motive := Counted) _ _ counted fun _ kept _ _ => kept

end Effects

namespace Client

theorem start_counted (clientId : Bytes) (endpoints : Nat) :
    Counted (start clientId endpoints).pool := fun _ => rfl

theorem react_counted {before after : Client} {request : Nat} {action : ClientAction}
    {sent : Option Post} (counted : Counted before.pool)
    (reacted : Reacted before request after action sent) : Counted after.pool := by
  cases reacted with
  | opened sid target now pool conns =>
      rw [pool]
      exact counted_open counted sid target now
  | wrote index data conn conn' found written pool conns =>
      rw [pool]
      exact counted
  | acted index act conn conn' effect found acted pool conns =>
      rw [pool]
      exact counted_conn_effect counted conn.session effect
  | idle action call called unsent pool conns
  | posted action call called returned encodes pool conns =>
      rw [pool]
      exact counted_drain_all counted _ _ _
  | still action pool conns =>
      rw [pool]
      exact counted

theorem answered_counted {before after : Client} {index : Nat} {answer : Answer} {sent : Nat}
    {rttMs now : ℚ} (counted : Counted before.pool)
    (taken : before.answered index answer sent rttMs now = some after) : Counted after.pool := by
  obtain ⟨w, request, frames, ep, _, _, rfl⟩ := answered_cases taken
  rcases take_answer_pool before.pool (ep.recordPost sent rttMs) frames now answer with
    ⟨respFrames, _, _, same⟩ | ⟨_, same | same⟩
  · dsimp only
    rw [same]
    exact counted_dispatch_response counted now respFrames
  · dsimp only
    rw [same]
    exact counted
  · dsimp only
    rw [same]
    exact counted_drop_failed counted frames

end Client

end Astrix
