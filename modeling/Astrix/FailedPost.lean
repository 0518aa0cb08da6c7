import Astrix.QueueBytes

/-!
# What a failed post leaves behind

No branch on the status puts a drained frame back. A redirect or a rate limit
only counts the failure; any other failure removes the sessions whose SYN was
in the batch. Their virtual connections, and all other sessions of the batch,
stay open. The one drain that loses nothing is the drain that the budget of the
batch had already rolled back.
-/

namespace Astrix

open PyRuntime SessionPool

set_option autoImplicit false

/-- A frame that a virtual connection queues while the post is in flight. -/
structure Enqueued where
  session : Nat
  frame : Frame
  now : ℚ

def enqueueAll (pool : SessionPool) (meanwhile : List Enqueued) : SessionPool :=
  meanwhile.foldl (fun pool entry => pool.enqueueTx entry.session entry.frame entry.now) pool

def enqueuedOn (meanwhile : List Enqueued) (ref : Nat) : List Frame :=
  (meanwhile.filter fun entry => entry.session = ref).map Enqueued.frame

theorem enqueue_all_queue (meanwhile : List Enqueued) (pool : SessionPool) (ref : Nat) :
    ((enqueueAll pool meanwhile).objects ref).txQ =
      (pool.objects ref).txQ ++ enqueuedOn meanwhile ref := by
  induction meanwhile generalizing pool with
  | nil => exact (List.append_nil _).symm
  | cons entry rest ih =>
      have step := ih (pool.enqueueTx entry.session entry.frame entry.now)
      rw [enqueue_tx_objects] at step
      by_cases here : entry.session = ref
      · subst here
        rw [if_pos rfl] at step
        have more : enqueuedOn (entry :: rest) entry.session =
            entry.frame :: enqueuedOn rest entry.session := by
          simp [enqueuedOn]
        rw [more]
        exact step.trans (by simp [Session.enqueueTx])
      · rw [if_neg (Ne.symm here)] at step
        have same : enqueuedOn (entry :: rest) ref = enqueuedOn rest ref := by
          simp [enqueuedOn, here]
        rw [same]
        exact step

theorem enqueue_all_get (meanwhile : List Enqueued) (pool : SessionPool) (sid : Bytes) :
    (enqueueAll pool meanwhile).get sid = pool.get sid := by
  induction meanwhile generalizing pool with
  | nil => rfl
  | cons entry rest ih => exact ih (pool.enqueueTx entry.session entry.frame entry.now)

theorem enqueue_all_counted (meanwhile : List Enqueued) {pool : SessionPool}
    (counted : Counted pool) : Counted (enqueueAll pool meanwhile) := by
  induction meanwhile generalizing pool with
  | nil => exact counted
  | cons entry rest ih => exact ih (counted_enqueue_tx counted entry.session entry.frame entry.now)

/-- Removing sessions leaves the objects as they are. -/
theorem drop_failed_frame (pool : SessionPool) (frames : List Frame) :
    (dropFailed pool frames).objects = pool.objects ∧
      (dropFailed pool frames).fresh = pool.fresh := by
  have all : ∀ (sids : List Bytes) (start : SessionPool),
      (sids.foldl SessionPool.remove start).objects = start.objects ∧
        (sids.foldl SessionPool.remove start).fresh = start.fresh := by
    intro sids
    induction sids with
    | nil => exact fun _ => ⟨rfl, rfl⟩
    | cons sid rest ih => exact fun start => ih (start.remove sid)
  exact all _ pool

theorem drop_failed_get (pool : SessionPool) (frames : List Frame) (sid : Bytes) :
    (dropFailed pool frames).get sid = if sid ∈ failedSids frames then none else pool.get sid := by
  have all : ∀ (sids : List Bytes) (start : SessionPool),
      (sids.foldl SessionPool.remove start).get sid =
        if sid ∈ sids then none else start.get sid := by
    intro sids
    induction sids with
    | nil => exact fun _ => rfl
    | cons other rest ih =>
        intro start
        rw [List.foldl_cons, ih]
        by_cases later : sid ∈ rest
        · rw [if_pos later, if_pos (List.mem_cons_of_mem _ later)]
        · rw [if_neg later]
          by_cases here : sid = other
          · subst here
            rw [if_pos List.mem_cons_self]
            exact OrderedDict.get_erase_self _ _
          · rw [if_neg (by simp [here, later])]
            exact OrderedDict.get_erase_of_ne _ _ _ here
  exact all _ pool

/-- The pool when the iteration is over. -/
def afterPost (prims : Primitives) (pool : SessionPool) (ep : EndpointState) (workerId : Nat)
    (drainedAt : ℚ) (meanwhile : List Enqueued) (status : Nat) (respBody : Bytes) (now : ℚ) :
    SessionPool :=
  let drain := drainAll pool ep.batchSize workerId drainedAt
  (handleAnswer prims (enqueueAll drain.pool meanwhile) ep drain.frames status respBody now).pool

/-- The session has its frames back, ahead of those queued meanwhile, or it is
gone and its virtual connection is closed. -/
def StreamSafe (before after : SessionPool) (meanwhile : List Enqueued) (closed : Nat → Bool)
    (sid : Bytes) (ref : Nat) : Prop :=
  (after.get sid = some ref ∧
      (after.objects ref).txQ = (before.objects ref).txQ ++ enqueuedOn meanwhile ref ∧
      (after.objects ref).txBytes = totalPayload (after.objects ref).txQ) ∨
    (after.get sid = none ∧ closed ref = true)

instance (before after : SessionPool) (meanwhile : List Enqueued) (closed : Nat → Bool)
    (sid : Bytes) (ref : Nat) : Decidable (StreamSafe before after meanwhile closed sid ref) :=
  inferInstanceAs (Decidable (_ ∨ _))

/-- The status makes the carrier remove the sessions whose SYN failed, and this
is one of them. -/
def RemovedBy (status : Nat) (frames : List Frame) (sid : Bytes) : Prop :=
  status ≠ 302 ∧ status ≠ 429 ∧ sid ∈ failedSids frames

theorem after_post_get (prims : Primitives) {pool : SessionPool} {ep : EndpointState}
    {workerId : Nat} {drainedAt : ℚ} (meanwhile : List Enqueued) {status : Nat}
    (respBody : Bytes) (now : ℚ) (failed : status ≠ 200) (sid : Bytes) :
    (RemovedBy status (drainAll pool ep.batchSize workerId drainedAt).frames sid →
      (afterPost prims pool ep workerId drainedAt meanwhile status respBody now).get sid = none) ∧
    (¬ RemovedBy status (drainAll pool ep.batchSize workerId drainedAt).frames sid →
      (afterPost prims pool ep workerId drainedAt meanwhile status respBody now).get sid =
        pool.get sid) := by
  have kept : (enqueueAll (drainAll pool ep.batchSize workerId drainedAt).pool meanwhile).get sid =
      pool.get sid :=
    (enqueue_all_get _ _ _).trans ((untouched_drain_all _ _ _ _).get sid)
  rw [afterPost, handleAnswer]
  dsimp only
  rw [if_neg failed, handleFailure]
  by_cases limited : status = 302 ∨ status = 429
  · rw [if_pos limited]
    refine ⟨fun removed => ?_, fun _ => kept⟩
    rcases limited with redirect | rate
    · exact absurd redirect removed.1
    · exact absurd rate removed.2.1
  · rw [if_neg limited]
    dsimp only
    rw [drop_failed_get]
    constructor
    · intro removed
      rw [if_pos removed.2.2]
    · intro stays
      rw [if_neg, kept]
      intro listed
      exact stays ⟨fun same => limited (.inl same), fun same => limited (.inr same), listed⟩

theorem after_post_objects (prims : Primitives) (pool : SessionPool) (ep : EndpointState)
    (workerId : Nat) (drainedAt : ℚ) (meanwhile : List Enqueued) {status : Nat} (respBody : Bytes)
    (now : ℚ) (failed : status ≠ 200) :
    (afterPost prims pool ep workerId drainedAt meanwhile status respBody now).objects =
      (enqueueAll (drainAll pool ep.batchSize workerId drainedAt).pool meanwhile).objects := by
  rw [afterPost, handleAnswer]
  dsimp only
  rw [if_neg failed, handleFailure]
  split_ifs
  · rfl
  · exact (drop_failed_frame _ _).1

/-- A session with frames in a batch whose post failed is safe exactly when it
was removed and something else had closed its virtual connection, or when it
was not removed and its drain had been rolled back for the budget. -/
theorem failed_post_safe_iff (prims : Primitives) {pool : SessionPool} {ep : EndpointState}
    {workerId : Nat} {drainedAt : ℚ} (meanwhile : List Enqueued) (closed : Nat → Bool)
    {status : Nat} (respBody : Bytes) (now : ℚ) {sid : Bytes} {ref : Nat}
    (own : OwnQueues pool) (counted : Counted pool) (found : pool.get sid = some ref)
    (returned : (drainAll pool ep.batchSize workerId drainedAt).failed = none)
    (carried : sessionFrames sid (drainAll pool ep.batchSize workerId drainedAt).frames ≠ [])
    (failed : status ≠ 200) :
    StreamSafe pool (afterPost prims pool ep workerId drainedAt meanwhile status respBody now)
        meanwhile closed sid ref ↔
      (RemovedBy status (drainAll pool ep.batchSize workerId drainedAt).frames sid ∧
          closed ref = true) ∨
        (¬ RemovedBy status (drainAll pool ep.batchSize workerId drainedAt).frames sid ∧
          LeftBehind pool ep.batchSize workerId drainedAt sid) := by
  have gets := @after_post_get prims pool ep workerId drainedAt meanwhile status respBody now
    failed sid
  by_cases removed : RemovedBy status (drainAll pool ep.batchSize workerId drainedAt).frames sid
  · rw [StreamSafe, gets.1 removed]
    simp [removed]
  · have present := (gets.2 removed).trans found
    have final : (afterPost prims pool ep workerId drainedAt meanwhile status respBody
        now).objects ref =
          (enqueueAll (drainAll pool ep.batchSize workerId drainedAt).pool meanwhile).objects ref :=
      congrFun (after_post_objects prims pool ep workerId drainedAt meanwhile respBody now failed)
        ref
    have bytes := enqueue_all_counted meanwhile
      (counted_drain_all counted ep.batchSize workerId drainedAt) ref
    have queue := enqueue_all_queue meanwhile
      (drainAll pool ep.batchSize workerId drainedAt).pool ref
    have drained := drain_all_session own found returned
    have visited : sid ∈ workerSids pool workerId := by
      by_contra absent
      exact carried (drained.1 absent).2
    rw [StreamSafe, present, final]
    simp only [removed, false_and, not_false_eq_true, true_and, false_or, reduceCtorEq, or_false]
    rw [queue] at bytes ⊢
    by_cases exceeds : LeftBehind pool ep.batchSize workerId drainedAt sid
    · have back := (drained.2 visited).2 exceeds
      rw [back] at bytes ⊢
      exact iff_of_true ⟨rfl, bytes⟩ exceeds
    · obtain ⟨rest, taken⟩ := (drained.2 visited).1 exceeds
      refine iff_of_false (fun both => ?_) exceeds
      have same := List.append_cancel_right both.1
      rw [rest] at same
      have whole := List.take_append_drop ep.batchSize (pool.objects ref).txQ
      rw [same] at whole
      have nothing : (pool.objects ref).txQ.take ep.batchSize = [] :=
        List.append_left_eq_self.mp whole
      exact carried (taken.trans nothing)

def uploadSid : Bytes := List.replicate SessionIDLen 3

/-- A data frame as `_tx_drain_loop` queues it. -/
def uploadFrame (sid : Bytes) (seq : Int) (data : Bytes) : Frame where
  sessionId := sid
  seq := seq
  flags := 0
  target := []
  payload := data

/-- A client with one session and one chunk to send. -/
def uploadPool : SessionPool :=
  let (pool, session) := SessionPool.new.getOrCreate uploadSid FlagSYN [] 0
  pool.enqueueTx session (uploadFrame uploadSid 0 [1, 2, 3]) 0

/-- After a 429 the chunk is gone and the session stays open. -/
theorem rate_limited_post_loses_chunk :
    sessionFrames uploadSid (drainAll uploadPool EndpointState.new.batchSize 0 0).frames =
        [uploadFrame uploadSid 0 [1, 2, 3]] ∧
      ¬ StreamSafe uploadPool
        (afterPost tagPrimitives uploadPool EndpointState.new 0 0 [] 429 [] 0) [] (fun _ => false)
        uploadSid 0 := by
  decide +kernel

theorem rate_limited_post_safe_iff :
    StreamSafe uploadPool (afterPost tagPrimitives uploadPool EndpointState.new 0 0 [] 429 [] 0)
        [] (fun _ => false) uploadSid 0 ↔
      (RemovedBy 429 (drainAll uploadPool EndpointState.new.batchSize 0 0).frames uploadSid ∧
          false = true) ∨
        (¬ RemovedBy 429 (drainAll uploadPool EndpointState.new.batchSize 0 0).frames uploadSid ∧
          LeftBehind uploadPool EndpointState.new.batchSize 0 0 uploadSid) := by
  have own : OwnQueues uploadPool :=
    (new_holds.get_or_create uploadSid FlagSYN [] 0).enqueue_tx rfl
  have created : Counted (SessionPool.new.getOrCreate uploadSid FlagSYN [] 0).1 := by
    intro r
    rcases get_or_create_cases SessionPool.new uploadSid FlagSYN [] 0 with
      ⟨_, _, same⟩ | ⟨missing, made⟩
    · rw [same]
      rfl
    · rw [made, insert_objects]
      split_ifs <;> rfl
  exact failed_post_safe_iff tagPrimitives [] (fun _ => false) [] 0 own
    (counted_enqueue_tx created _ _ _) (by decide +kernel) (by decide +kernel)
    (by decide +kernel) (by decide)

end Astrix
