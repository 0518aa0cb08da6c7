import Astrix.DrainBudget

/-!
# Progress of a round of drains

The three workers of an endpoint split the sessions between them. A drain with
an empty batch takes the first queued frame it finds, if the encoded frame fits
`MaxFramePayload`. A frame whose payload alone reaches that size never does; it
goes back each time and holds up its session for good.
-/

namespace Astrix

open PyRuntime SessionPool

set_option autoImplicit false

/-- The same sessions with the same frames queued. -/
structure SameQueues (before after : SessionPool) : Prop where
  sessions : after.sessions = before.sessions
  queues : ∀ r, (after.objects r).txQ = (before.objects r).txQ

theorem SameQueues.refl (pool : SessionPool) : SameQueues pool pool := ⟨rfl, fun _ => rfl⟩

theorem SameQueues.trans {first second third : SessionPool} (one : SameQueues first second)
    (two : SameQueues second third) : SameQueues first third where
  sessions := two.sessions.trans one.sessions
  queues r := (two.queues r).trans (one.queues r)

theorem SameQueues.front {before after : SessionPool} (same : SameQueues before after)
    (batchSize : Nat) (sid : Bytes) : front after batchSize sid = front before batchSize sid := by
  have get : after.get sid = before.get sid := by
    rw [SessionPool.get, same.sessions]
    rfl
  rw [Astrix.front, Astrix.front, get]
  cases before.get sid with
  | none => rfl
  | some ref =>
      dsimp only
      rw [same.queues ref]

/-- The first frame of a session has no room behind `used` bytes. -/
def NoRoom (pool : SessionPool) (batchSize used : Nat) (sid : Bytes) : Prop :=
  ∀ f ∈ (front pool batchSize sid).head?, MaxFramePayload < used + encodedSize f

theorem SameQueues.no_room_iff {before after : SessionPool} (same : SameQueues before after)
    (batchSize used : Nat) (sid : Bytes) :
    NoRoom after batchSize used sid ↔ NoRoom before batchSize used sid := by
  rw [NoRoom, same.front, NoRoom]

section Drains

variable {batchSize : Nat} {now : ℚ}

/-- A visit that adds nothing to the batch leaves every queue as it was. -/
theorem visit_nothing {drain : Drain} {sid : Bytes} (measured : Measured drain)
    (returned : (drainSession batchSize now drain sid).failed = none)
    (nothing : (drainSession batchSize now drain sid).frames = drain.frames) :
    SameQueues drain.pool (drainSession batchSize now drain sid).pool := by
  refine ⟨(untouched_visit batchSize now drain sid).sessions, fun r => ?_⟩
  by_cases here : drain.pool.get sid = some r
  · have visit := visit_queue measured.budget here returned
    by_cases overflow : Overflows drain batchSize sid
    · exact (visit.2 overflow).1
    · obtain ⟨queue, frames⟩ := visit.1 overflow
      rw [nothing, front_found here, List.self_eq_append_right] at frames
      have whole := List.take_append_drop batchSize (drain.pool.objects r).txQ
      rw [frames, List.nil_append] at whole
      rw [queue, whole]
  · rw [visit_elsewhere measured.budget here returned]

theorem drain_fold_extends (sids : List Bytes) {drain : Drain} (measured : Measured drain)
    (returned : (sids.foldl (drainSession batchSize now) drain).failed = none) :
    ∃ taken, (sids.foldl (drainSession batchSize now) drain).frames = drain.frames ++ taken := by
  induction sids generalizing drain with
  | nil => exact ⟨[], (List.append_nil _).symm⟩
  | cons sid rest ih =>
      obtain ⟨taken, frames, _⟩ := visit_first (drain_fold_failed returned)
      obtain ⟨more, later⟩ := ih (drain_session_measured batchSize now sid measured) returned
      exact ⟨taken ++ more, by rw [List.foldl_cons, later, frames, List.append_assoc]⟩

/-- A drain adds nothing exactly when the first frame of no visited session has
room, and then it leaves the queues alone. -/
theorem drain_fold_nothing (sids : List Bytes) {drain : Drain} (measured : Measured drain)
    (returned : (sids.foldl (drainSession batchSize now) drain).failed = none) :
    ((sids.foldl (drainSession batchSize now) drain).frames = drain.frames ↔
      ∀ sid ∈ sids, NoRoom drain.pool batchSize drain.totalSize sid) ∧
    ((sids.foldl (drainSession batchSize now) drain).frames = drain.frames →
      SameQueues drain.pool (sids.foldl (drainSession batchSize now) drain).pool) := by
  induction sids generalizing drain with
  | nil => exact ⟨iff_of_true rfl (List.forall_mem_nil _), fun _ => SameQueues.refl _⟩
  | cons sid rest ih =>
      have visited := @drain_fold_failed batchSize now rest _ returned
      have measuredAfter := drain_session_measured batchSize now sid measured
      obtain ⟨taken, frames, none⟩ := visit_first visited
      obtain ⟨more, continued⟩ := drain_fold_extends rest measuredAfter returned
      obtain ⟨later, kept⟩ := ih measuredAfter returned
      rw [List.foldl_cons, List.forall_mem_cons]
      by_cases empty : taken = []
      · have nothing : (drainSession batchSize now drain sid).frames = drain.frames := by
          rw [frames, empty, List.append_nil]
        have same := visit_nothing measured visited nothing
        have size := (visit_size measured visited).2 (none.mp empty)
        rw [nothing, size] at later
        rw [nothing] at kept
        refine ⟨?_, fun still => same.trans (kept still)⟩
        rw [later]
        refine Iff.trans ?_ (and_iff_right (none.mp empty)).symm
        exact forall₂_congr fun other _ => same.no_room_iff batchSize drain.totalSize other
      · have grew : (rest.foldl (drainSession batchSize now)
            (drainSession batchSize now drain sid)).frames ≠ drain.frames := by
          rw [continued, frames, List.append_assoc]
          intro still
          rw [List.append_right_eq_self, List.append_eq_nil_iff] at still
          exact empty still.1
        refine ⟨iff_of_false grew fun noRoom => empty (none.mpr noRoom.1), ?_⟩
        exact fun still => absurd still grew

theorem drain_all_nothing {pool : SessionPool} {workerId : Nat}
    (returned : (drainAll pool batchSize workerId now).failed = none) :
    ((drainAll pool batchSize workerId now).frames = [] ↔
      ∀ sid ∈ workerSids pool workerId, NoRoom pool batchSize 0 sid) ∧
    ((drainAll pool batchSize workerId now).frames = [] →
      SameQueues pool (drainAll pool batchSize workerId now).pool) :=
  @drain_fold_nothing batchSize now _ (startDrain pool) (start_measured pool) returned

end Drains

/-- Drains of the given workers, one after the other on the same pool. -/
def roundDrains (pool : SessionPool) (batchSize : Nat) : List (Nat × ℚ) → List Drain
  | [] => []
  | (workerId, now) :: rest =>
      drainAll pool batchSize workerId now ::
        roundDrains (drainAll pool batchSize workerId now).pool batchSize rest

theorem round_returns {pool : SessionPool} (encodable : pool.Holds EncodableTarget AnyFrame)
    (batchSize : Nat) (workers : List (Nat × ℚ)) :
    ∀ drain ∈ roundDrains pool batchSize workers, drain.failed = none := by
  induction workers generalizing pool with
  | nil => exact List.forall_mem_nil _
  | cons worker rest ih =>
      obtain ⟨workerId, now⟩ := worker
      refine List.forall_mem_cons.mpr ⟨drain_all_returns encodable batchSize workerId now, ?_⟩
      exact ih (drain_all_holds encodable batchSize workerId now).1

/-- A round takes nothing exactly when no first frame of the sessions of its
workers fits an empty batch. -/
theorem round_nothing_iff {pool : SessionPool} (encodable : pool.Holds EncodableTarget AnyFrame)
    (batchSize : Nat) (workers : List (Nat × ℚ)) :
    (∀ drain ∈ roundDrains pool batchSize workers, drain.frames = []) ↔
      ∀ workerId ∈ workers.map Prod.fst, ∀ sid ∈ workerSids pool workerId,
        NoRoom pool batchSize 0 sid := by
  induction workers generalizing pool with
  | nil => exact iff_of_true (List.forall_mem_nil _) (List.forall_mem_nil _)
  | cons worker rest ih =>
      obtain ⟨workerId, now⟩ := worker
      have returned := drain_all_returns encodable batchSize workerId now
      obtain ⟨nothing, kept⟩ := drain_all_nothing returned
      have later := ih (drain_all_holds encodable batchSize workerId now).1
      rw [roundDrains, List.forall_mem_cons, List.map_cons, List.forall_mem_cons, nothing, later]
      apply and_congr_right
      intro noRoom
      have same := kept (nothing.mpr noRoom)
      apply forall₂_congr
      intro other _
      rw [workerSids, workerSids, same.sessions]
      exact forall₂_congr fun sid _ => same.no_room_iff batchSize 0 sid

/-- Every element has its place in the stride of one worker. -/
theorem strided_covers {α : Type} {step : Nat} (positive : 0 < step) {items : List α} {x : α}
    (member : x ∈ items) : ∃ skip < step, x ∈ strided step skip items := by
  induction items with
  | nil => cases member
  | cons first rest ih =>
      rcases List.mem_cons.mp member with rfl | later
      · exact ⟨0, positive, List.mem_cons_self⟩
      · obtain ⟨skip, bound, listed⟩ := ih later
        by_cases last : skip = step - 1
        · subst last
          exact ⟨0, positive, List.mem_cons_of_mem _ listed⟩
        · exact ⟨skip + 1, by omega, listed⟩

/-- The first queued frame of a session fits an empty batch. -/
def HeadFits (pool : SessionPool) (sid : Bytes) : Prop :=
  ∃ ref f, pool.get sid = some ref ∧ (pool.objects ref).txQ.head? = some f ∧
    encodedSize f ≤ MaxFramePayload

theorem head_fits_iff {pool : SessionPool} {batchSize : Nat} (positive : 1 ≤ batchSize)
    (sid : Bytes) : HeadFits pool sid ↔ ¬ NoRoom pool batchSize 0 sid := by
  obtain ⟨more, rfl⟩ : ∃ more, batchSize = more + 1 := ⟨batchSize - 1, by omega⟩
  rw [HeadFits, NoRoom, front]
  cases pool.get sid with
  | none => simp
  | some ref =>
      cases queue : (pool.objects ref).txQ with
      | nil => simp [queue]
      | cons f rest => simp [queue]

/-- When the workers of an endpoint have each drained the pool, one of them has
something to post exactly when some session's first frame fits a batch of its own. -/
theorem round_progress_iff (pool : SessionPool)
    (encodable : pool.Holds EncodableTarget AnyFrame) (batchSize : Nat)
    (positive : 1 ≤ batchSize) (workers : List (Nat × ℚ))
    (each : (workers.map Prod.fst).Perm (List.range workersPerEndpoint)) :
    (∃ drain ∈ roundDrains pool batchSize workers, drain.failed = none ∧ drain.frames ≠ []) ↔
      ∃ sid, HeadFits pool sid := by
  have returned := round_returns encodable batchSize workers
  have nothing := round_nothing_iff encodable batchSize workers
  have some : (∃ drain ∈ roundDrains pool batchSize workers,
      drain.failed = none ∧ drain.frames ≠ []) ↔
        ¬ ∀ drain ∈ roundDrains pool batchSize workers, drain.frames = [] := by
    simp only [not_forall, exists_prop]
    exact exists_congr fun drain => and_congr_right fun listed =>
      and_iff_right (returned drain listed)
  rw [some, nothing]
  simp only [not_forall, exists_prop]
  constructor
  · rintro ⟨workerId, _, sid, _, room⟩
    exact ⟨sid, (head_fits_iff positive sid).mpr room⟩
  · rintro ⟨sid, fits⟩
    have known : sid ∈ pool.sessions.keys := by
      obtain ⟨ref, f, found, _⟩ := fits
      by_contra missing
      cases found.symm.trans ((OrderedDict.get_eq_none_iff pool.sessions sid).mpr missing)
    obtain ⟨workerId, bound, listed⟩ := strided_covers (show 0 < workersPerEndpoint by decide) known
    refine ⟨workerId, each.mem_iff.mpr (List.mem_range.mpr bound), sid, listed, ?_⟩
    exact (head_fits_iff positive sid).mp fits

/-- The workers of an endpoint in their order, with one clock reading. -/
def inOrder : List (Nat × ℚ) := [(0, 0), (1, 0), (2, 0)]

theorem syn_makes_progress :
    ∃ drain ∈ roundDrains openedPool 10 inOrder, drain.failed = none ∧ drain.frames ≠ [] :=
  (round_progress_iff openedPool opened_pool_sound.2.2 10 (by decide) inOrder (by decide)).mpr
    ⟨firstSid, 0, synFrame firstSid [97, 58, 49], rfl, rfl, by decide⟩

/-- What a client may have queued, as far as payload and target go. -/
def QueuedLimits : Bytes → Frame → Prop := fun _ f =>
  encodeUtf8 f.target = .ok f.targetBytes ∧ f.targetBytes.length ≤ maxTargetLen ∧
    f.payload.length ≤ MaxFramePayload

/-- The session once its SYN is out, with one chunk queued. -/
def lateChunkPool (chunk : Bytes) : SessionPool :=
  (ConnEffect.sendData (dataFrame firstSid 0 chunk) 1 0).apply (openedPool.drainTx 0 1) 0

theorem late_chunk_front (chunk : Bytes) :
    (lateChunkPool chunk).sessions.keys = [firstSid] ∧
      ((lateChunkPool chunk).objects 0).txQ = [dataFrame firstSid 0 chunk] ∧
      front (lateChunkPool chunk) 10 firstSid = [dataFrame firstSid 0 chunk] := ⟨rfl, rfl, rfl⟩

/-- A chunk as large as one read of the transport can be never leaves. -/
theorem full_chunk_blocks : ¬ ∀ pool : SessionPool, pool.Holds QueuedLimits AnyFrame →
    (∃ sid ref, pool.get sid = some ref ∧ (pool.objects ref).txQ ≠ []) →
      ∀ (batchSize : Nat) (workers : List (Nat × ℚ)), 1 ≤ batchSize →
        (workers.map Prod.fst).Perm (List.range workersPerEndpoint) →
          ∃ drain ∈ roundDrains pool batchSize workers,
            drain.failed = none ∧ drain.frames ≠ [] := by
  intro progress
  obtain ⟨chunk, size⟩ : ∃ chunk : Bytes, chunk.length = 262144 :=
    ⟨List.replicate 262144 0, List.length_replicate⟩
  have opened : openedPool.Holds QueuedLimits AnyFrame :=
    open_holds _ _ _ new_holds ⟨rfl, by decide, by decide⟩
  have limits : (lateChunkPool chunk).Holds QueuedLimits AnyFrame :=
    conn_effect_holds (opened.drain_tx 0 1)
      ⟨rfl, Nat.zero_le _, Nat.le_of_eq size⟩
  have encodable : (lateChunkPool chunk).Holds EncodableTarget AnyFrame :=
    limits.weaken (fun _ _ within => within.1) fun _ _ _ => trivial
  obtain ⟨keys, queue, fronts⟩ := late_chunk_front chunk
  obtain ⟨drain, listed, _, some⟩ := progress (lateChunkPool chunk) limits
    ⟨firstSid, 0, rfl, by simp [queue]⟩ 10 inOrder (by decide) (by decide)
  refine some ((round_nothing_iff encodable 10 inOrder).mpr ?_ drain listed)
  intro workerId _ sid visited f first
  have only : sid = firstSid := by
    have known := (strided_sublist _ _ _).subset visited
    rw [keys] at known
    exact List.mem_singleton.mp known
  rw [only, fronts] at first
  cases first
  rw [data_frame_size, size]
  decide

end Astrix
