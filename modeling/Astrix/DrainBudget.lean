import Astrix.QueueBytes

/-!
# The budget of a drain

`_drain_all` adds up `encoded_len` while it takes frames and stops at
`MaxFramePayload`, so a batch fits every length field of the envelope. It looks
at the budget frame by frame but gives back whole snapshots: where the budget
runs out behind the first frame of a snapshot, the frames in front are both in
the batch and back on the queue.
-/

namespace Astrix

open PyRuntime SessionPool

set_option autoImplicit false

/-- The running total is the size of the batch, and inside the budget. -/
structure Measured (drain : Drain) : Prop where
  size : drain.totalSize = encodedTotal drain.frames
  budget : drain.totalSize ≤ MaxFramePayload
  encodable : ∀ f ∈ drain.frames, encodeUtf8 f.target = .ok f.targetBytes

theorem encoded_total_append (first second : List Frame) :
    encodedTotal (first ++ second) = encodedTotal first + encodedTotal second := by
  simp [encodedTotal]

theorem encoded_len_target {f : Frame} {elen : Nat} (length : f.encodedLen = .ok elen) :
    encodeUtf8 f.target = .ok f.targetBytes ∧ encodedSize f = elen := by
  constructor
  · obtain ⟨targetBytes, target, _⟩ := (bind_ok_iff _ _ _).mp length
    rw [target_bytes_of_ok target]
    exact target
  · rw [encodedSize, length]
    rfl

theorem take_frames_measured (snapshot : DrainSnapshot) (now : ℚ) (rest : List Frame)
    {drain : Drain} (measured : Measured drain) :
    Measured (takeFrames snapshot now drain rest) := by
  induction rest generalizing drain with
  | nil => exact measured
  | cons f rest ih =>
      rw [takeFrames]
      cases length : f.encodedLen with
      | error error => exact ⟨measured.size, measured.budget, measured.encodable⟩
      | ok elen =>
          obtain ⟨target, size⟩ := encoded_len_target length
          dsimp only
          split_ifs with overflow
          · exact ⟨measured.size, measured.budget, measured.encodable⟩
          · refine ih ⟨?_, Nat.le_of_not_lt overflow, fun g member => ?_⟩
            · simp [measured.size, encodedTotal, size]
            · rcases List.mem_append.mp member with old | new
              · exact measured.encodable g old
              · rw [List.mem_singleton.mp new]
                exact target

theorem drain_session_measured (batchSize : Nat) (now : ℚ) {drain : Drain} (sid : Bytes)
    (measured : Measured drain) : Measured (drainSession batchSize now drain sid) := by
  rw [drainSession]
  split_ifs with failed
  · exact measured
  · dsimp only
    split_ifs
    · exact ⟨measured.size, measured.budget, measured.encodable⟩
    · exact take_frames_measured _ now _ ⟨measured.size, measured.budget, measured.encodable⟩

theorem drain_fold_measured (batchSize : Nat) (now : ℚ) (sids : List Bytes) {drain : Drain}
    (measured : Measured drain) : Measured (sids.foldl (drainSession batchSize now) drain) :=
  List.foldlRecOn (motive := Measured) _ _ measured
    fun _ kept sid _ => drain_session_measured batchSize now sid kept

theorem start_measured (pool : SessionPool) : Measured (startDrain pool) :=
  ⟨rfl, Nat.zero_le _, List.forall_mem_nil _⟩

theorem drain_all_measured (pool : SessionPool) (batchSize workerId : Nat) (now : ℚ) :
    Measured (drainAll pool batchSize workerId now) :=
  drain_fold_measured batchSize now _ (start_measured pool)

section Returns

/-- The target of a queued frame encodes. -/
def EncodableTarget : Bytes → Frame → Prop := fun _ f => encodeUtf8 f.target = .ok f.targetBytes

theorem take_frames_returns (snapshot : DrainSnapshot) (now : ℚ) (rest : List Frame)
    {drain : Drain} (encodable : ∀ f ∈ rest, encodeUtf8 f.target = .ok f.targetBytes) :
    (takeFrames snapshot now drain rest).failed = drain.failed := by
  induction rest generalizing drain with
  | nil => rfl
  | cons f rest ih =>
      rw [takeFrames, encoded_len_ok (encodable f List.mem_cons_self)]
      dsimp only
      split_ifs
      · rfl
      · rw [ih fun g member => encodable g (List.mem_cons_of_mem _ member)]

theorem visit_returns {R : Bytes → Frame → Prop} (batchSize : Nat) (now : ℚ) {drain : Drain}
    (sid : Bytes) (encodable : drain.pool.Holds EncodableTarget R) :
    (drainSession batchSize now drain sid).failed = drain.failed := by
  rw [drainSession]
  split_ifs with failed
  · rfl
  · dsimp only
    split_ifs
    · rfl
    · rw [take_frames_returns]
      exact (encodable.drain sid batchSize).2

/-- A drain of frames whose targets encode returns. -/
theorem drain_all_returns {R : Bytes → Frame → Prop} {pool : SessionPool}
    (encodable : pool.Holds EncodableTarget R) (batchSize workerId : Nat) (now : ℚ) :
    (drainAll pool batchSize workerId now).failed = none := by
  have both : (drainAll pool batchSize workerId now).failed = none ∧
      (drainAll pool batchSize workerId now).pool.Holds EncodableTarget R := by
    refine List.foldlRecOn
      (motive := fun drain : Drain => drain.failed = none ∧ drain.pool.Holds EncodableTarget R)
      _ _ ⟨rfl, encodable⟩ fun drain kept sid _ => ?_
    exact ⟨(visit_returns batchSize now sid kept.2).trans kept.1, (visit_holds kept.2).1⟩
  exact both.1

end Returns

def firstSid : Bytes := List.replicate SessionIDLen 7

/-- A session just opened to `a:1`. -/
def openedPool : SessionPool :=
  (VirtualConn.openSession SessionPool.new firstSid [97, 58, 49] 0).1

theorem opened_pool_sound :
    OwnQueues openedPool ∧ Counted openedPool ∧ openedPool.Holds EncodableTarget AnyFrame :=
  ⟨open_holds _ _ _ new_holds rfl, counted_open (fun _ => rfl) _ _ _,
    open_holds _ _ _ new_holds rfl⟩

theorem data_frame_size (sid : Bytes) (seq : Int) (data : Bytes) :
    encodedSize (dataFrame sid seq data) = 30 + data.length := by
  have noTarget : (dataFrame sid seq data).targetBytes = [] := rfl
  have target : encodeUtf8 (dataFrame sid seq data).target =
      .ok (dataFrame sid seq data).targetBytes := rfl
  rw [encoded_size_eq target, noTarget]
  rfl

section SevenSessions

def numberedSid (n : Nat) : Bytes := List.replicate SessionIDLen (UInt8.ofNat n)

/-- Seven sessions just opened to `a:1`; the first worker visits three of them. -/
def sevenPool : SessionPool :=
  (List.range 7).foldl (fun pool n =>
    (VirtualConn.openSession pool (numberedSid n) [97, 58, 49] 0).1) SessionPool.new

/-- In the second of its three sessions a chunk is queued behind the SYN. -/
def sevenPoolWith (chunk : Bytes) : SessionPool :=
  (ConnEffect.sendData (dataFrame (numberedSid 3) 0 chunk) 1 0).apply sevenPool 3

theorem seven_pool_sound (chunk : Bytes) :
    OwnQueues (sevenPoolWith chunk) ∧ Counted (sevenPoolWith chunk) ∧
      (sevenPoolWith chunk).Holds EncodableTarget AnyFrame := by
  have opened : OwnQueues sevenPool ∧ Counted sevenPool ∧
      sevenPool.Holds EncodableTarget AnyFrame := by
    refine List.foldlRecOn (motive := fun pool : SessionPool => OwnQueues pool ∧ Counted pool ∧
      pool.Holds EncodableTarget AnyFrame) _ _ ⟨new_holds, fun _ => rfl, new_holds⟩ ?_
    rintro pool ⟨own, counted, encodable⟩ n _
    exact ⟨open_holds _ _ _ own rfl, counted_open counted _ _ _, open_holds _ _ _ encodable rfl⟩
  exact ⟨conn_effect_holds opened.1 rfl, counted_conn_effect opened.2.1 _ _,
    conn_effect_holds opened.2.2 rfl⟩

theorem seven_pool_fronts (chunk : Bytes) :
    (workerSids (sevenPoolWith chunk) 0).map (front (sevenPoolWith chunk) 10) =
      [[synFrame (numberedSid 0) [97, 58, 49]],
        [synFrame (numberedSid 3) [97, 58, 49], dataFrame (numberedSid 3) 0 chunk],
        [synFrame (numberedSid 6) [97, 58, 49]]] := rfl

theorem chunk_of_length (length : Nat) : ∃ chunk : Bytes, chunk.length = length :=
  ⟨List.replicate length 0, List.length_replicate⟩

end SevenSessions

section Envelope

theorem encoded_size_le_total {f : Frame} {frames : List Frame} (member : f ∈ frames) :
    encodedSize f ≤ encodedTotal frames := by
  obtain ⟨early, late, rfl⟩ := List.append_of_mem member
  have total : encodedTotal (f :: late) = encodedSize f + encodedTotal late := rfl
  rw [encoded_total_append, total]
  omega

/-- A frame takes at least the thirty bytes of its fixed fields. -/
theorem frames_at_least_thirty {frames : List Frame}
    (encodable : ∀ f ∈ frames, encodeUtf8 f.target = .ok f.targetBytes) :
    30 * frames.length ≤ encodedTotal frames := by
  induction frames with
  | nil => exact Nat.le_refl _
  | cons f rest ih =>
      have size := encoded_size_eq (encodable f List.mem_cons_self)
      have others := ih fun g member => encodable g (List.mem_cons_of_mem _ member)
      have total : encodedTotal (f :: rest) = encodedSize f + encodedTotal rest := rfl
      rw [total, List.length_cons]
      simp only [SessionIDLen] at size
      omega

/-- A visit takes from the front of the queue. -/
theorem visit_prefix {batchSize : Nat} {now : ℚ} {drain : Drain} {sid : Bytes}
    (budget : drain.totalSize ≤ MaxFramePayload)
    (returned : (drainSession batchSize now drain sid).failed = none) :
    ∃ taken, taken <+: front drain.pool batchSize sid ∧
      (drainSession batchSize now drain sid).frames = drain.frames ++ taken := by
  cases (drain_session_result budget returned).2 with
  | unqueued nothing frames pool => exact ⟨[], List.nil_prefix, by rw [frames, List.append_nil]⟩
  | noFront ref found nothing frames pool =>
      exact ⟨[], List.nil_prefix, by rw [frames, List.append_nil]⟩
  | taken ref found fits frames pool => exact ⟨_, List.prefix_refl _, frames⟩
  | putBack ref taken found overflow part frames pool => exact ⟨taken, part, frames⟩

/-- The frames of a session in the batch are the first ones of its queue. -/
theorem drain_all_prefix {pool : SessionPool} {batchSize workerId : Nat} {now : ℚ} {sid : Bytes}
    {ref : Nat} (own : OwnQueues pool) (found : pool.get sid = some ref)
    (returned : (drainAll pool batchSize workerId now).failed = none) :
    sessionFrames sid (drainAll pool batchSize workerId now).frames <+:
      (pool.objects ref).txQ := by
  by_cases visited : sid ∈ workerSids pool workerId
  · have once := drain_all_visit own found visited returned
    obtain ⟨taken, part, frames⟩ := visit_prefix once.budget once.returned
    have ownFront := @front_own _ once.own batchSize sid
    have ownTaken : sessionFrames sid taken = taken :=
      session_frames_all fun f member => ownFront f (part.subset member)
    rw [once.frames, frames, session_frames_append, once.unseen, ownTaken, List.nil_append]
    rw [front_found once.found, once.objectBefore] at part
    exact part.trans (List.take_prefix _ _)
  · rw [((drain_all_session own found returned).1 visited).2]
    exact List.nil_prefix

/-- What `_drain_all` returns fits the envelope: the encoded lengths sum to at
most `MaxFramePayload`, so there are at most 8738 frames, the check on their
number passes and every length fits four bytes; and of each session the batch
has the first frames of its queue, in order. -/
theorem drain_fits_envelope (pool : SessionPool) (own : OwnQueues pool)
    (batchSize workerId : Nat) (now : ℚ)
    (returned : (drainAll pool batchSize workerId now).failed = none) :
    (∀ f ∈ (drainAll pool batchSize workerId now).frames,
      f.encodedLen = .ok (encodedSize f) ∧ f.payload.length < 2 ^ 32 ∧
        marshalSize f < 2 ^ 32 ∧ encodedSize f < 2 ^ 32) ∧
      encodedTotal (drainAll pool batchSize workerId now).frames ≤ MaxFramePayload ∧
      (drainAll pool batchSize workerId now).frames.length ≤ 8738 ∧
      (∀ error, raiseIf ((drainAll pool batchSize workerId now).frames.length > 0xFFFF) error =
        .ok ()) ∧
      ∀ sid ref, pool.get sid = some ref →
        sessionFrames sid (drainAll pool batchSize workerId now).frames <+:
          (pool.objects ref).txQ := by
  have measured := drain_all_measured pool batchSize workerId now
  have total : encodedTotal (drainAll pool batchSize workerId now).frames ≤ MaxFramePayload :=
    measured.size ▸ measured.budget
  have thirty := frames_at_least_thirty measured.encodable
  simp only [MaxFramePayload] at total ⊢
  refine ⟨fun f member => ?_, total, by omega, fun error => raise_if_not (by omega),
    fun sid ref found => drain_all_prefix own found returned⟩
  have target := measured.encodable f member
  have size := encoded_size_eq target
  have part := encoded_size_le_total member
  have characters := encode_utf8_length _ _ target
  refine ⟨encoded_len_ok target, ?_, ?_, ?_⟩
  · omega
  · rw [marshalSize]
    omega
  · omega

/-- The first two fronts fill the batch to the last byte, and the third stays. -/
theorem full_batch_fits_envelope : ∃ chunk : Bytes, chunk.length = 262048 ∧
    encodedTotal (drainAll (sevenPoolWith chunk) 10 0 0).frames ≤ MaxFramePayload ∧
      sessionFrames (numberedSid 3) (drainAll (sevenPoolWith chunk) 10 0 0).frames <+:
        [synFrame (numberedSid 3) [97, 58, 49], dataFrame (numberedSid 3) 0 chunk] := by
  obtain ⟨chunk, size⟩ := chunk_of_length 262048
  obtain ⟨own, _, encodable⟩ := seven_pool_sound chunk
  have fits := drain_fits_envelope (sevenPoolWith chunk) own 10 0 0
    (drain_all_returns encodable 10 0 0)
  exact ⟨chunk, size, fits.2.1, fits.2.2.2.2 (numberedSid 3) 3 rfl⟩

end Envelope

section Torn

/-- No snapshot is torn: where the batch, filled up to `used`, has no room for a
front, it has no room for the first frame of it. -/
def NoTear : Nat → List (List Frame) → Prop
  | _, [] => True
  | used, frames :: rest =>
      if used + encodedTotal frames ≤ MaxFramePayload then
        NoTear (used + encodedTotal frames) rest
      else (∀ f ∈ frames.head?, MaxFramePayload < used + encodedSize f) ∧ NoTear used rest

theorem no_tear_cons (used : Nat) (frames : List Frame) (rest : List (List Frame)) :
    NoTear used (frames :: rest) ↔
      if used + encodedTotal frames ≤ MaxFramePayload then
        NoTear (used + encodedTotal frames) rest
      else (∀ f ∈ frames.head?, MaxFramePayload < used + encodedSize f) ∧ NoTear used rest :=
  Iff.rfl

instance noTearDecidable : (used : Nat) → (fronts : List (List Frame)) →
    Decidable (NoTear used fronts)
  | _, [] => isTrue trivial
  | used, frames :: rest =>
      haveI := noTearDecidable (used + encodedTotal frames) rest
      haveI := noTearDecidable used rest
      decidable_of_iff _ (no_tear_cons used frames rest).symm

theorem take_frames_extends (snapshot : DrainSnapshot) (now : ℚ) (rest : List Frame)
    (drain : Drain) :
    ∃ taken, (takeFrames snapshot now drain rest).frames = drain.frames ++ taken := by
  induction rest generalizing drain with
  | nil => exact ⟨[], (List.append_nil _).symm⟩
  | cons f rest ih =>
      rw [takeFrames]
      cases f.encodedLen with
      | error error => exact ⟨[], (List.append_nil _).symm⟩
      | ok elen =>
          dsimp only
          split_ifs
          · exact ⟨[], (List.append_nil _).symm⟩
          · obtain ⟨taken, frames⟩ := ih { drain with
              frames := drain.frames ++ [f]
              totalSize := drain.totalSize + elen }
            exact ⟨f :: taken, by rw [frames, List.append_assoc, List.singleton_append]⟩

/-- The loop takes nothing exactly when the first frame has no room. -/
theorem take_frames_first (snapshot : DrainSnapshot) (now : ℚ) (rest : List Frame)
    {drain : Drain} (returned : (takeFrames snapshot now drain rest).failed = none) :
    ∃ taken, (takeFrames snapshot now drain rest).frames = drain.frames ++ taken ∧
      (taken = [] ↔ ∀ f ∈ rest.head?, MaxFramePayload < drain.totalSize + encodedSize f) := by
  cases rest with
  | nil => exact ⟨[], (List.append_nil _).symm, by simp⟩
  | cons f rest =>
      rw [takeFrames] at returned ⊢
      cases length : f.encodedLen with
      | error error =>
          rw [length] at returned
          cases returned
      | ok elen =>
          obtain ⟨_, size⟩ := encoded_len_target length
          dsimp only
          split_ifs with overflow
          · exact ⟨[], (List.append_nil _).symm, by simpa [size] using overflow⟩
          · obtain ⟨taken, frames⟩ := take_frames_extends snapshot now rest { drain with
              frames := drain.frames ++ [f]
              totalSize := drain.totalSize + elen }
            refine ⟨f :: taken, ?_, by simpa [size] using overflow⟩
            rw [frames, List.append_assoc, List.singleton_append]

theorem visit_first {batchSize : Nat} {now : ℚ} {drain : Drain} {sid : Bytes}
    (returned : (drainSession batchSize now drain sid).failed = none) :
    ∃ taken, (drainSession batchSize now drain sid).frames = drain.frames ++ taken ∧
      (taken = [] ↔ ∀ f ∈ (front drain.pool batchSize sid).head?,
        MaxFramePayload < drain.totalSize + encodedSize f) := by
  have running : drain.failed = none := drain_session_failed returned
  have snapshot : (drain.pool.drainTxLimitedTxn sid batchSize).2.frames =
      front drain.pool batchSize sid ∧
      (drain.pool.drainTxLimitedTxn sid batchSize).2.frameCount =
        (front drain.pool batchSize sid).length := by
    rcases drain.pool.drain_cases sid batchSize with ⟨empty, same⟩ | ⟨ref, found, _, taken⟩
    · rw [same, front]
      cases found : drain.pool.get sid with
      | none => exact ⟨rfl, rfl⟩
      | some ref =>
          dsimp only
          rw [empty ref found, List.take_nil]
          exact ⟨rfl, rfl⟩
    · rw [taken, front_found found]
      exact ⟨rfl, rfl⟩
  rw [drainSession, if_neg (not_not.mpr running)] at returned ⊢
  dsimp only at returned ⊢
  rw [snapshot.1, snapshot.2] at returned ⊢
  split_ifs at returned ⊢ with empty
  · rw [List.length_eq_zero_iff.mp empty]
    exact ⟨[], (List.append_nil _).symm, by simp⟩
  · exact take_frames_first _ now _ returned

/-- The part of the batch that a visit adds, and what it leaves of the queue. -/
theorem visit_conserves_iff {batchSize : Nat} {now : ℚ} {drain : Drain} {sid : Bytes}
    {ref : Nat} (measured : Measured drain) (own : OwnQueues drain.pool)
    (found : drain.pool.get sid = some ref) (unseen : sessionFrames sid drain.frames = [])
    (returned : (drainSession batchSize now drain sid).failed = none) :
    sessionFrames sid (drainSession batchSize now drain sid).frames ++
        ((drainSession batchSize now drain sid).pool.objects ref).txQ =
          (drain.pool.objects ref).txQ ↔
      (Overflows drain batchSize sid → ∀ f ∈ (front drain.pool batchSize sid).head?,
        MaxFramePayload < drain.totalSize + encodedSize f) := by
  have visit := visit_queue measured.budget found returned
  have ownFront := @front_own _ own batchSize sid
  by_cases overflow : Overflows drain batchSize sid
  · obtain ⟨queue, taken, part, frames⟩ := visit.2 overflow
    obtain ⟨first, sameFrames, none⟩ := visit_first returned
    obtain rfl : taken = first := List.append_cancel_left (frames.symm.trans sameFrames)
    have ownTaken : sessionFrames sid taken = taken :=
      session_frames_all fun f member => ownFront f (part.subset member)
    rw [queue, frames, session_frames_append, unseen, ownTaken, List.nil_append,
      List.append_left_eq_self, none]
    exact ⟨fun noRoom _ => noRoom, fun noRoom => noRoom overflow⟩
  · obtain ⟨queue, frames⟩ := visit.1 overflow
    refine iff_of_true ?_ fun torn => absurd torn overflow
    rw [queue, frames, session_frames_append, unseen, session_frames_all ownFront,
      front_found found, List.nil_append, List.take_append_drop]

/-- The budget that a visit uses up when it tears nothing. -/
theorem visit_size {batchSize : Nat} {now : ℚ} {drain : Drain} {sid : Bytes}
    (measured : Measured drain)
    (returned : (drainSession batchSize now drain sid).failed = none) :
    (¬ Overflows drain batchSize sid → (drainSession batchSize now drain sid).totalSize =
      drain.totalSize + encodedTotal (front drain.pool batchSize sid)) ∧
    ((∀ f ∈ (front drain.pool batchSize sid).head?,
        MaxFramePayload < drain.totalSize + encodedSize f) →
      (drainSession batchSize now drain sid).totalSize = drain.totalSize) := by
  have after := drain_session_measured batchSize now sid measured
  constructor
  · intro fits
    rw [after.size, measured.size, ← encoded_total_append]
    cases (drain_session_result measured.budget returned).2 with
    | unqueued nothing frames | noFront _ _ nothing frames =>
        rw [frames, nothing, List.append_nil]
    | taken _ _ _ frames => rw [frames]
    | putBack _ _ _ overflow => exact absurd overflow fits
  · intro noRoom
    obtain ⟨taken, frames, none⟩ := visit_first returned
    rw [after.size, measured.size, frames, none.mpr noRoom, List.append_nil]

/-- Nothing of the pool but the visited session. -/
theorem visit_front_elsewhere {batchSize : Nat} {now : ℚ} {drain : Drain} {sid other : Bytes}
    (measured : Measured drain) (different : other ≠ sid)
    (returned : (drainSession batchSize now drain sid).failed = none) :
    (∀ ref, drain.pool.get other = some ref →
      (drainSession batchSize now drain sid).pool.objects ref = drain.pool.objects ref) ∧
    front (drainSession batchSize now drain sid).pool batchSize other =
      front drain.pool batchSize other := by
  have objects : ∀ ref, drain.pool.get other = some ref →
      (drainSession batchSize now drain sid).pool.objects ref = drain.pool.objects ref := by
    intro ref found
    refine visit_elsewhere measured.budget (fun same => different ?_) returned
    exact (get_keyed found).2.symm.trans (get_keyed same).2
  have stays := (untouched_visit batchSize now drain sid).get other
  refine ⟨objects, ?_⟩
  rw [front, front, stays]
  cases found : drain.pool.get other with
  | none => rfl
  | some ref =>
      dsimp only
      rw [objects ref found]

/-- The fronts of the other queues are what they were. -/
theorem fronts_elsewhere {batchSize : Nat} {now : ℚ} {drain : Drain} {sid : Bytes}
    {rest : List Bytes} (measured : Measured drain) (absent : sid ∉ rest)
    (returned : (drainSession batchSize now drain sid).failed = none) :
    rest.map (front (drainSession batchSize now drain sid).pool batchSize) =
      rest.map (front drain.pool batchSize) := by
  apply List.map_congr_left
  intro other member
  have different : other ≠ sid := fun same => absent (same ▸ member)
  exact (visit_front_elsewhere measured different returned).2

/-- The frames that a visit adds are those of its session. -/
theorem visit_unseen {batchSize : Nat} {now : ℚ} {drain : Drain} {sid other : Bytes}
    (own : OwnQueues drain.pool) (different : other ≠ sid)
    (unseen : sessionFrames other drain.frames = []) :
    sessionFrames other (drainSession batchSize now drain sid).frames = [] := by
  apply session_frames_none
  intro f member same
  rcases (@visit_holds OwnFrame AnyFrame batchSize now drain sid own).2 f member with old | new
  · have listed : f ∈ sessionFrames other drain.frames :=
      List.mem_filter.mpr ⟨old, decide_eq_true same⟩
    rw [unseen] at listed
    cases listed
  · exact different (same.symm.trans new)

/-- The queue visited first: it is split between the batch and what is left of it
exactly when its front is taken whole or not at all. -/
theorem fold_conserves_here {batchSize : Nat} {now : ℚ} {sid : Bytes} {rest : List Bytes}
    {drain : Drain} (absent : sid ∉ rest) (measured : Measured drain) (own : OwnQueues drain.pool)
    (unseen : sessionFrames sid drain.frames = [])
    (returned : ((sid :: rest).foldl (drainSession batchSize now) drain).failed = none) :
    (∀ ref, drain.pool.get sid = some ref →
      sessionFrames sid ((sid :: rest).foldl (drainSession batchSize now) drain).frames ++
        (((sid :: rest).foldl (drainSession batchSize now) drain).pool.objects ref).txQ =
          (drain.pool.objects ref).txQ) ↔
      (Overflows drain batchSize sid → ∀ f ∈ (front drain.pool batchSize sid).head?,
        MaxFramePayload < drain.totalSize + encodedSize f) := by
  have visited := @drain_fold_failed batchSize now rest _ returned
  have ownAfter := (@visit_holds OwnFrame AnyFrame batchSize now drain sid own).1
  have measuredAfter := drain_session_measured batchSize now sid measured
  have stays := (untouched_visit batchSize now drain sid).get sid
  cases found : drain.pool.get sid with
  | none =>
      have nothing : front drain.pool batchSize sid = [] := by rw [front, found]
      rw [nothing]
      simp
  | some ref =>
      obtain ⟨object, frames, _⟩ := fold_elsewhere ownAfter measuredAfter.budget
        (stays.trans found) absent returned
      have visit := visit_conserves_iff measured own found unseen visited
      rw [← visit, ← object, ← frames]
      simp

theorem fold_conserves_iff {batchSize : Nat} {now : ℚ} {sids : List Bytes} {drain : Drain}
    (distinct : sids.Nodup) (measured : Measured drain) (own : OwnQueues drain.pool)
    (unseen : ∀ sid ∈ sids, sessionFrames sid drain.frames = [])
    (returned : (sids.foldl (drainSession batchSize now) drain).failed = none) :
    (∀ sid ∈ sids, ∀ ref, drain.pool.get sid = some ref →
      sessionFrames sid (sids.foldl (drainSession batchSize now) drain).frames ++
        ((sids.foldl (drainSession batchSize now) drain).pool.objects ref).txQ =
          (drain.pool.objects ref).txQ) ↔
      NoTear drain.totalSize (sids.map (front drain.pool batchSize)) := by
  induction sids generalizing drain with
  | nil => exact iff_of_true (List.forall_mem_nil _) trivial
  | cons sid rest ih =>
      obtain ⟨absent, distinct⟩ := List.nodup_cons.mp distinct
      have visited := @drain_fold_failed batchSize now rest _ returned
      have elsewhere : ∀ other ∈ rest, other ≠ sid := fun other member same =>
        absent (same ▸ member)
      have ownAfter := (@visit_holds OwnFrame AnyFrame batchSize now drain sid own).1
      have later := @ih (drainSession batchSize now drain sid) distinct
        (drain_session_measured batchSize now sid measured) ownAfter
        (fun other member => visit_unseen own (elsewhere other member)
          (unseen other (List.mem_cons_of_mem _ member))) returned
      rw [fronts_elsewhere measured absent visited] at later
      have others : (∀ other ∈ rest, ∀ ref, drain.pool.get other = some ref →
          sessionFrames other ((sid :: rest).foldl (drainSession batchSize now) drain).frames ++
            (((sid :: rest).foldl (drainSession batchSize now) drain).pool.objects ref).txQ =
              (drain.pool.objects ref).txQ) ↔
          NoTear (drainSession batchSize now drain sid).totalSize
            (rest.map (front drain.pool batchSize)) := by
        refine Iff.trans (forall₂_congr fun other member => forall_congr' fun ref => ?_) later
        rw [(untouched_visit batchSize now drain sid).get other]
        apply imp_congr_right
        intro found
        rw [(visit_front_elsewhere measured (elsewhere other member) visited).1 ref found]
        rfl
      have size := visit_size measured visited
      rw [List.forall_mem_cons, fold_conserves_here absent measured own
        (unseen sid List.mem_cons_self) returned, others, List.map_cons, no_tear_cons]
      by_cases fits : drain.totalSize + encodedTotal (front drain.pool batchSize sid) ≤
          MaxFramePayload
      · have noOverflow : ¬ Overflows drain batchSize sid := not_not.mpr fits
        rw [if_pos fits, size.1 noOverflow]
        exact and_iff_right fun overflow => absurd overflow noOverflow
      · have overflow : Overflows drain batchSize sid := fits
        rw [if_neg fits, forall_prop_of_true overflow]
        apply and_congr_right
        intro noRoom
        rw [size.2 noRoom]

/-- Over a whole drain: every queue is split between the batch and what is left
of it exactly when no snapshot is torn. -/
theorem drain_all_conserves_iff {pool : SessionPool} (own : OwnQueues pool)
    {batchSize workerId : Nat} {now : ℚ}
    (returned : (drainAll pool batchSize workerId now).failed = none) :
    (∀ sid ref, pool.get sid = some ref →
      sessionFrames sid (drainAll pool batchSize workerId now).frames ++
        ((drainAll pool batchSize workerId now).pool.objects ref).txQ = (pool.objects ref).txQ) ↔
      NoTear 0 ((workerSids pool workerId).map (front pool batchSize)) := by
  have folded := @fold_conserves_iff batchSize now _ (startDrain pool)
    (worker_sids_nodup pool workerId) (start_measured pool) own (fun _ _ => rfl) returned
  refine Iff.trans ⟨fun conserved sid _ => conserved sid, fun conserved sid ref found => ?_⟩ folded
  by_cases visited : sid ∈ workerSids pool workerId
  · exact conserved sid visited ref found
  · obtain ⟨queue, frames⟩ := (drain_all_session own found returned).1 visited
    rw [frames, queue, List.nil_append]

/-- What a drain does to a session's queue and its byte count. -/
def Conserves (pool : SessionPool) (batchSize workerId : Nat) (now : ℚ) : Prop :=
  ∀ sid ref, pool.get sid = some ref →
    sessionFrames sid (drainAll pool batchSize workerId now).frames ++
      ((drainAll pool batchSize workerId now).pool.objects ref).txQ = (pool.objects ref).txQ ∧
    ((drainAll pool batchSize workerId now).pool.objects ref).txBytes +
      totalPayload (sessionFrames sid (drainAll pool batchSize workerId now).frames) =
        (pool.objects ref).txBytes

/-- `_drain_all` loses and duplicates nothing exactly when the budget never runs
out inside a snapshot. -/
theorem drain_conserves_iff (pool : SessionPool) (own : OwnQueues pool) (counted : Counted pool)
    (batchSize workerId : Nat) (now : ℚ)
    (returned : (drainAll pool batchSize workerId now).failed = none) :
    Conserves pool batchSize workerId now ↔
      NoTear 0 ((workerSids pool workerId).map (front pool batchSize)) := by
  have after := counted_drain_all counted batchSize workerId now
  rw [← drain_all_conserves_iff own returned]
  constructor
  · intro conserves sid ref found
    exact (conserves sid ref found).1
  · intro conserves sid ref found
    have queue := conserves sid ref found
    refine ⟨queue, ?_⟩
    rw [counted ref, ← queue, total_payload_append, after ref, Nat.add_comm]

/-- The first two fronts fill the batch to the last byte, and not even the SYN of
the third fits behind them. -/
theorem full_batch_conserves : ∃ chunk : Bytes, chunk.length = 262048 ∧
    Conserves (sevenPoolWith chunk) 10 0 0 := by
  obtain ⟨chunk, size⟩ := chunk_of_length 262048
  obtain ⟨own, counted, encodable⟩ := seven_pool_sound chunk
  refine ⟨chunk, size, (drain_conserves_iff (sevenPoolWith chunk) own counted 10 0 0
    (drain_all_returns encodable 10 0 0)).mpr ?_⟩
  have syn : ∀ n, encodedSize (synFrame (numberedSid n) [97, 58, 49]) = 33 := fun _ => rfl
  have data := data_frame_size (numberedSid 3) 0 chunk
  rw [seven_pool_fronts]
  simp [NoTear, encodedTotal, syn, data, size, MaxFramePayload]

/-- The same session with a chunk queued behind the SYN. -/
def chunkPool (chunk : Bytes) : SessionPool :=
  (ConnEffect.sendData (dataFrame firstSid 0 chunk) 1 0).apply openedPool 0

theorem chunk_pool_sound (chunk : Bytes) :
    OwnQueues (chunkPool chunk) ∧ Counted (chunkPool chunk) ∧
      (chunkPool chunk).Holds EncodableTarget AnyFrame :=
  ⟨conn_effect_holds opened_pool_sound.1 rfl, counted_conn_effect opened_pool_sound.2.1 _ _,
    conn_effect_holds opened_pool_sound.2.2 rfl⟩

theorem chunk_pool_fronts (chunk : Bytes) :
    (workerSids (chunkPool chunk) 0).map (front (chunkPool chunk) 10) =
      [[synFrame firstSid [97, 58, 49], dataFrame firstSid 0 chunk]] := rfl

/-- With a chunk that fits a batch, but not behind the SYN, the SYN goes out and
stays queued. -/
theorem syn_sent_and_kept : ¬ ∀ pool, OwnQueues pool → Counted pool →
    ∀ batchSize workerId now, (drainAll pool batchSize workerId now).failed = none →
      Conserves pool batchSize workerId now := by
  intro conserves
  obtain ⟨chunk, size⟩ := chunk_of_length 262100
  obtain ⟨own, counted, encodable⟩ := chunk_pool_sound chunk
  have returned := drain_all_returns encodable 10 0 0
  have whole := conserves (chunkPool chunk) own counted 10 0 0 returned
  have noTear := (drain_all_conserves_iff own returned).mp fun sid ref found =>
    (whole sid ref found).1
  have syn : encodedSize (synFrame firstSid [97, 58, 49]) = 33 := by decide
  have data := data_frame_size firstSid 0 chunk
  rw [chunk_pool_fronts, no_tear_cons] at noTear
  simp [encodedTotal, syn, data, size, MaxFramePayload] at noTear

end Torn

end Astrix
