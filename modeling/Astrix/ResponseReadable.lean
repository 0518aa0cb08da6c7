import Astrix.BatchEnvelopeSoundness
import Astrix.ServerQueues

/-!
# Which successful responses the client can read

The handler has three ways to build the body of a 200 response. The sealed
batch decodes to the collected frames. The fallback fails on whatever the
encoder failed on, so it never gives a 200. The body for an empty collection is
neither sealed nor encoded, and the client rejects it.
-/

namespace Astrix

open PyRuntime

set_option autoImplicit false

/-- The frames the server makes itself: no target, one byte of flags. -/
structure ServerMade (frame : Frame) : Prop where
  idLength : frame.sessionId.length = SessionIDLen
  noTarget : frame.target = []
  flags : frame.flags ≤ 0xFF

theorem busy_frame_made {sid : Bytes} (idLength : sid.length = SessionIDLen) :
    ServerMade (busyFrame sid) := ⟨idLength, rfl, (by decide : FlagRST ≤ 0xFF)⟩

/-- Every frame an upstream worker queues is server made. -/
theorem worker_effect_made {s : Session} {w w' : UpstreamWorker} {act : WorkerAct}
    {effect : UpstreamEffect} (acted : w.act s act = some (w', effect))
    (idLength : s.sessionId.length = SessionIDLen) (sid : Bytes) :
    effect.Satisfies (fun _ frame => ServerMade frame) sid := by
  cases (UpstreamWorker.act_acted acted).2 with
  | dialError payload now => exact ⟨idLength, rfl, (by decide : FlagRST ≤ 0xFF)⟩
  | data data now => exact ⟨idLength, rfl, Nat.zero_le _⟩
  | fin now => exact ⟨idLength, rfl, (by decide : FlagFIN ≤ 0xFF)⟩
  | silent | wake | skip | write => trivial

theorem server_made_exact {frame : Frame} (made : ServerMade frame) :
    frame.targetBytes.length = frame.target.length := by
  have encoded : encodeUtf8 frame.target = .ok [] := by
    rw [made.noTarget]
    rfl
  rw [target_bytes_of_ok encoded, made.noTarget]
  rfl

theorem pack_into_range {width offset : Nat} {buf result : Bytes} {value : Int}
    (done : packInto width buf offset value = .ok result) : 0 ≤ value ∧ value < 256 ^ width := by
  rw [packInto] at done
  split_ifs at done with guard
  exact ⟨guard.1, guard.2.1⟩

/-- Whatever `marshal` accepts can stand in a batch. -/
theorem marshal_ok_batchable {bufPool later : List Bytes} {frame : Frame} {fdata : Bytes}
    (done : marshal bufPool frame = .ok (fdata, later)) : Batchable frame := by
  obtain ⟨targetBytes, target, done⟩ := (bind_ok_iff _ _ _).mp done
  obtain rfl := target_bytes_of_ok target
  obtain ⟨_, targetLength, done⟩ := (bind_ok_iff _ _ _).mp done
  obtain ⟨_, payloadLength, done⟩ := (bind_ok_iff _ _ _).mp done
  rw [raise_if_ok_iff] at targetLength payloadLength
  obtain ⟨_, packed, _⟩ := (bind_ok_iff _ _ _).mp done
  obtain ⟨seqLower, seqUpper⟩ := pack_into_range packed
  have characters := encode_utf8_length frame.target frame.targetBytes target
  simp only [maxTargetLen, maxPayloadSize] at targetLength payloadLength
  refine ⟨⟨target, by omega, seqLower, seqUpper, by omega⟩, ?_⟩
  simp only [marshalSize, SessionIDLen]
  omega

theorem fallback_frames_batchable {frames : List Frame} {bufPool : List Bytes} {raw : Bytes}
    {result : Bytes × List Bytes} (done : fallbackFrames bufPool raw frames = .ok result) :
    ∀ frame ∈ frames, Batchable frame := by
  induction frames generalizing bufPool raw with
  | nil => exact nofun
  | cons first rest ih =>
      obtain ⟨⟨fdata, later⟩, marshalled, done⟩ := (bind_ok_iff _ _ _).mp done
      obtain ⟨_, _, done⟩ := (bind_ok_iff _ _ _).mp done
      intro frame member
      rcases List.mem_cons.mp member with rfl | other
      · exact marshal_ok_batchable marshalled
      · exact ih done frame other

/-- The fallback succeeds only on batches that the encoder accepts. -/
theorem fallback_needs_encodable (prims : Primitives) (nonce : Nonce) (adaptive : Adaptive)
    {bufPool : List Bytes} {clientId : Bytes} {frames : List Frame}
    {result : Bytes × List Bytes} (idLength : clientId.length = ClientIDLen)
    (made : ∀ frame ∈ frames, ServerMade frame)
    (done : fallbackBody bufPool clientId frames = .ok result) :
    ∃ body later, serverEncodeBatch prims nonce adaptive clientId frames = .ok (body, later) := by
  obtain ⟨_, count, done⟩ := (bind_ok_iff _ _ _).mp done
  rw [raise_if_ok_iff] at count
  have ids : ∀ frame ∈ frames, frame.sessionId.length = SessionIDLen :=
    fun frame member => (made frame member).idLength
  obtain ⟨plaintext, written⟩ := batch_plaintext_of_fits (by omega) idLength ids
    (fallback_frames_batchable done)
    (headers_fit_exact ids fun frame member => server_made_exact (made frame member))
  rw [serverEncodeBatch, encodeBatchWith, bind_ok written]
  exact ⟨_, _, rfl⟩

/-- With something collected, a 200 response is the sealed batch. -/
theorem collected_response_readable {prims : Primitives} (lawful : prims.Lawful) {nonce : Nonce}
    {globals : CodecGlobals} {clientId body : Bytes} {collected : List Frame}
    (idLength : clientId.length = ClientIDLen) (some : collected ≠ [])
    (made : ∀ frame ∈ collected, ServerMade frame)
    (succeeded : respond prims nonce globals clientId collected = ⟨200, body⟩) :
    decodeBatch prims body = .ok (clientId, collected) := by
  rw [respond, responseBody, if_pos some] at succeeded
  cases encoded : serverEncodeBatch prims nonce globals.adaptive clientId collected with
  | ok result =>
      obtain ⟨sealed, later⟩ := result
      rw [encoded] at succeeded
      cases succeeded
      exact (encode_batch_with_decodes lawful (server_raw_form clientId collected)
        (fun frame member => (made frame member).idLength)
        (fun frame member => (made frame member).flags) encoded).1
  | error error =>
      rw [encoded] at succeeded
      cases fallen : fallbackBody globals.bufPool clientId collected with
      | ok result =>
          obtain ⟨_, _, accepted⟩ :=
            fallback_needs_encodable prims nonce globals.adaptive idLength made fallen
          rw [encoded] at accepted
          cases accepted
      | error failure =>
          rw [fallen] at succeeded
          cases succeeded

/-- With nothing collected, the response is a 200 that the client rejects. -/
theorem empty_response_unreadable (prims : Primitives) (nonce : Nonce) (globals : CodecGlobals)
    {clientId : Bytes} (idLength : clientId.length = ClientIDLen) :
    ∃ body, respond prims nonce globals clientId [] = ⟨200, body⟩ ∧
      ∀ decoded, decodeBatch prims body ≠ .ok decoded := by
  refine ⟨clientId ++ bigEndian 2 0, rfl, fun decoded accepted => ?_⟩
  have length : (clientId ++ bigEndian 2 0).length = 18 := by
    rw [List.length_append, big_endian_length, idLength]
    rfl
  have nonempty : clientId ++ bigEndian 2 0 ≠ [] := by
    intro empty
    rw [empty] at length
    cases length
  obtain ⟨plaintext, opened⟩ := decode_batch_opens nonempty accepted
  exact short_body_rejected prims _ (by omega) plaintext opened

/-- The semaphore is taken and the batch asks for a session. -/
def Refused (locked : Bool) (frames : List Frame) : Prop :=
  locked = true ∧ ∃ f ∈ frames, f.hasFlag FlagSYN = true

theorem dispatch_frame_refuses (locked : Bool) (now : ℚ) (state : Dispatch) (f : Frame) :
    (dispatchFrame locked now state f).responseFrames = [] ↔
      state.responseFrames = [] ∧ ¬ (locked = true ∧ f.hasFlag FlagSYN = true) := by
  rw [dispatchFrame]
  split_ifs with syn full fin ack rst data
  · simp [full, syn]
  · simp [full]
  · cases state.pool.get f.sessionId <;> simp [syn]
  · cases state.pool.get f.sessionId <;> simp [syn]
  · simp [syn]
  · cases state.pool.get f.sessionId <;> simp [syn]
  · simp [syn]

theorem dispatch_refuses (locked : Bool) (now : ℚ) (pool : SessionPool) (frames : List Frame) :
    (dispatchFrames locked now pool frames).responseFrames = [] ↔ ¬ Refused locked frames := by
  have all : ∀ (rest : List Frame) (state : Dispatch),
      (rest.foldl (dispatchFrame locked now) state).responseFrames = [] ↔
        state.responseFrames = [] ∧ ¬ Refused locked rest := by
    intro rest
    induction rest with
    | nil =>
        intro state
        have accepted : ¬ Refused locked [] := fun ⟨_, _, member, _⟩ => nomatch member
        exact (and_iff_left accepted).symm
    | cons f rest ih =>
        intro state
        rw [List.foldl_cons, ih, dispatch_frame_refuses]
        simp only [Refused, List.exists_mem_cons_iff]
        rw [and_assoc, ← not_or, ← and_or_left]
  exact (all frames _).trans (and_iff_right rfl)

/-- The poll reaches its deadline and every scan before finds all queues empty. -/
def Lapses (poll : Poll) (pool : SessionPool) : List Gap → Prop
  | [] => False
  | gap :: rest =>
      let (pool, poll) := collectGarbage (gap.apply pool) poll
      poll.waitDeadline ≤ gap.atCheck ∨ NothingQueued pool ∧
        Lapses { poll with nowT := gap.afterScan } pool rest

/-- One round of a poll that has collected nothing so far. -/
theorem resume_round_collects {poll : Poll} (none : poll.responseFrames = [])
    (pool : SessionPool) (gap : Gap) (rest : List Gap) {collected : List Frame}
    (later : ∀ poll' pool' sleepFor, poll'.responseFrames = [] →
      (awaitPoll pool' (.asleep poll' sleepFor) rest).2 = .answered collected →
        (collected = [] ↔ Lapses poll' pool' rest))
    (finished : (awaitPoll (resumePoll (gap.apply pool) poll gap.atCheck gap.afterScan).1
        (resumePoll (gap.apply pool) poll gap.atCheck gap.afterScan).2 rest).2 =
      .answered collected) :
    collected = [] ↔ Lapses poll pool (gap :: rest) := by
  have noFrames : (collectGarbage (gap.apply pool) poll).2.responseFrames = [] := by
    rw [collect_garbage_frames]
    exact none
  rw [Lapses]
  simp only [resumePoll] at finished
  revert finished noFrames
  generalize collectGarbage (gap.apply pool) poll = garbage
  obtain ⟨pool, poll⟩ := garbage
  intro finished noFrames
  dsimp only at noFrames finished ⊢
  by_cases ended : poll.waitDeadline ≤ gap.atCheck
  · rw [poll_round_over _ ended, await_answered, noFrames] at finished
    cases finished
    exact iff_of_true rfl (.inl ended)
  · rw [or_iff_right ended]
    by_cases queued : NothingQueued pool
    · obtain ⟨sleepFor, asleep⟩ := poll_round_nothing gap.afterScan ended noFrames queued
      rw [asleep] at finished
      rw [and_iff_right queued]
      exact later _ _ _ noFrames finished
    · obtain ⟨frames, _⟩ := scan_something queued poll.responseFrames
      rw [poll_round_found _ ended frames, await_answered] at finished
      cases finished
      exact iff_of_false frames fun both => queued both.1

theorem await_collects (gaps : List Gap) (pool : SessionPool) {poll : Poll}
    (none : poll.responseFrames = []) (sleepFor : ℚ) {collected : List Frame}
    (finished : (awaitPoll pool (.asleep poll sleepFor) gaps).2 = .answered collected) :
    collected = [] ↔ Lapses poll pool gaps := by
  induction gaps generalizing pool poll sleepFor with
  | nil => cases finished
  | cons gap rest ih =>
      exact resume_round_collects none pool gap rest
        (fun poll' pool' sleepFor' none' finished' => ih pool' none' sleepFor' finished') finished

theorem poll_round_keeps {poll : Poll} (some : poll.responseFrames ≠ []) (pool : SessionPool)
    (atCheck afterScan : ℚ) :
    ∃ frames, frames ≠ [] ∧ (pollRound pool poll atCheck afterScan).2 = .answered frames := by
  by_cases ended : poll.waitDeadline ≤ atCheck
  · rw [poll_round_over _ ended]
    exact ⟨_, some, rfl⟩
  · have found : (scanSessions pool poll.responseFrames).responseFrames ≠ [] := by
      rw [scan_response_frames]
      exact List.append_ne_nil_of_left_ne_nil some _
    rw [poll_round_found _ ended found]
    exact ⟨_, found, rfl⟩

/-- No busy refusal, and the long poll that follows the dispatch lapses. -/
def AnswersEmpty (locked : Bool) (now : ℚ) (clientId : Bytes) (frames : List Frame)
    (pool : SessionPool) : List Gap → Prop
  | [] => False
  | gap :: rest =>
      ¬ Refused locked frames ∧
        Lapses (startPoll clientId [] now)
          (dispatchFrames locked now (gap.apply pool) frames).pool
          ({ gap with effects := [] } :: rest)

theorem collected_nothing_iff {prims : Primitives} {locked : Bool} {body clientId : Bytes}
    {now : ℚ} {pool : SessionPool} {gaps : List Gap} {frames collected : List Frame}
    (decoded : decodeBatch prims body = .ok (clientId, frames))
    (finished : (handleTunnelPost prims locked body now pool gaps).2 =
      .polling clientId (.answered collected)) :
    collected = [] ↔ AnswersEmpty locked now clientId frames pool gaps := by
  cases gaps with
  | nil => cases finished
  | cons gap rest =>
      rw [handleTunnelPost, decoded] at finished
      simp only [HandlerState.polling.injEq, true_and] at finished
      rw [AnswersEmpty]
      by_cases none : (dispatchFrames locked now (gap.apply pool) frames).responseFrames = []
      · rw [and_iff_right ((dispatch_refuses _ _ _ _).mp none)]
        rw [none, ← resume_start] at finished
        exact resume_round_collects rfl _ { gap with effects := [] } rest
          (fun poll' pool' sleepFor none' finished' =>
            await_collects rest pool' none' sleepFor finished') finished
      · obtain ⟨answer, some, answered⟩ := @poll_round_keeps
          (startPoll clientId
            (dispatchFrames locked now (gap.apply pool) frames).responseFrames now) none
          (dispatchFrames locked now (gap.apply pool) frames).pool gap.atCheck gap.afterScan
        rw [answered, await_answered] at finished
        cases finished
        exact iff_of_false some fun both => none ((dispatch_refuses _ _ _ _).mpr both.1)

/-- Between two rounds the workers queue server-made frames only. -/
def Gap.Made (gap : Gap) : Prop :=
  ∀ entry ∈ gap.effects, ∀ sid, entry.2.Satisfies (fun _ frame => ServerMade frame) sid

/-- The transmit queues hold server-made frames. -/
abbrev QueuesMade (pool : SessionPool) : Prop :=
  pool.Holds (fun _ frame => ServerMade frame) fun _ _ => True

theorem gap_made {gap : Gap} (made : gap.Made) {pool : SessionPool} (queues : QueuesMade pool) :
    QueuesMade (gap.apply pool) := by
  obtain ⟨effects, atCheck, afterScan⟩ := gap
  induction effects generalizing pool with
  | nil => exact queues
  | cons entry rest ih =>
      exact ih (queues.effect (made entry List.mem_cons_self _))
        fun other member => made other (List.mem_cons_of_mem _ member)

theorem await_made {gaps : List Gap} (made : ∀ gap ∈ gaps, gap.Made) {pool : SessionPool}
    {outcome : PollOutcome} (queues : QueuesMade pool)
    (collected : ∀ frame ∈ outcome.frames, ServerMade frame) :
    ∀ frame ∈ (awaitPoll pool outcome gaps).2.frames, ServerMade frame := by
  induction gaps generalizing pool outcome with
  | nil => cases outcome <;> exact collected
  | cons gap rest ih =>
      have queuesNext := gap_made (made gap List.mem_cons_self) queues
      have madeRest := fun other member => made other (List.mem_cons_of_mem gap member)
      cases outcome with
      | answered frames => exact ih madeRest queuesNext collected
      | asleep poll sleepFor =>
          have resumed := resume_poll_holds gap.atCheck gap.afterScan queuesNext
            (fun _ _ frameMade => frameMade) collected
          exact ih madeRest resumed.1 resumed.2

theorem collected_made {prims : Primitives} {locked : Bool} {body clientId : Bytes} {now : ℚ}
    {pool : SessionPool} {gaps : List Gap} {frames collected : List Frame}
    (decoded : decodeBatch prims body = .ok (clientId, frames)) (queues : QueuesMade pool)
    (made : ∀ gap ∈ gaps, gap.Made)
    (finished : (handleTunnelPost prims locked body now pool gaps).2 =
      .polling clientId (.answered collected)) :
    ∀ frame ∈ collected, ServerMade frame := by
  cases gaps with
  | nil => cases finished
  | cons gap rest =>
      rw [handleTunnelPost, decoded] at finished
      simp only [HandlerState.polling.injEq, true_and] at finished
      have dispatched := dispatch_frames_holds locked now
        (gap_made (made gap List.mem_cons_self) queues) (fun _ _ => trivial)
        (fun f member _ => busy_frame_made ((decode_batch_fields decoded).2 f member).1)
      have round := poll_round_holds (startPoll clientId
        (dispatchFrames locked now (gap.apply pool) frames).responseFrames now)
        gap.atCheck gap.afterScan dispatched.1 (fun _ _ frameMade => frameMade) dispatched.2
      have all := await_made (fun other member => made other (List.mem_cons_of_mem gap member))
        round.1 round.2
      rw [finished] at all
      exact all

/-- A finished request either gets a response that its client decodes to the
request's client id and the collected frames, or nothing was refused and its
long poll ran to the deadline with all queues empty. -/
theorem success_response_readable_iff {prims : Primitives} (lawful : prims.Lawful)
    {locked : Bool} {body clientId : Bytes} {now : ℚ} {pool : SessionPool}
    {gaps : List Gap} {frames collected : List Frame} (nonce : Nonce) (globals : CodecGlobals)
    (decoded : decodeBatch prims body = .ok (clientId, frames)) (queues : QueuesMade pool)
    (made : ∀ gap ∈ gaps, gap.Made)
    (finished : (handleTunnelPost prims locked body now pool gaps).2 =
      .polling clientId (.answered collected)) :
    (∀ response, respond prims nonce globals clientId collected = ⟨200, response⟩ →
        decodeBatch prims response = .ok (clientId, collected)) ↔
      ¬ AnswersEmpty locked now clientId frames pool gaps := by
  have idLength := (decode_batch_fields decoded).1
  rw [← collected_nothing_iff decoded finished]
  constructor
  · intro readable nothing
    rw [nothing] at readable
    obtain ⟨response, succeeded, rejected⟩ :=
      empty_response_unreadable prims nonce globals idLength
    exact rejected _ (readable response succeeded)
  · intro some response succeeded
    exact collected_response_readable lawful idLength some
      (collected_made decoded queues made finished) succeeded

/-- The sealed batch of one FIN frame, as a client posts it. -/
def finBody : Bytes :=
  match clientEncodeBatch tagPrimitives zeroNonce ⟨0, false⟩ (List.replicate ClientIDLen 7)
      [upstreamFinFrame (List.replicate SessionIDLen 1)] with
  | .ok (body, _) => body
  | .error _ => []

/-- One round before the deadline and one at it. -/
def lapsingGaps : List Gap := [⟨[], 0, 0⟩, ⟨[], 8, 8⟩]

theorem lapsed_poll_response_unreadable :
    (handleTunnelPost tagPrimitives false finBody 0 SessionPool.new lapsingGaps).2 =
        .polling (List.replicate ClientIDLen 7) (.answered []) ∧
      respond tagPrimitives zeroNonce ⟨⟨0, false⟩, []⟩ (List.replicate ClientIDLen 7) [] =
        ⟨200, List.replicate ClientIDLen 7 ++ [0, 0]⟩ ∧
      decodeBatch tagPrimitives (List.replicate ClientIDLen 7 ++ [0, 0]) ≠
        .ok (List.replicate ClientIDLen 7, []) := by
  decide +kernel

theorem download_response_readable :
    (∀ response, respond tagPrimitives zeroNonce ⟨⟨0, false⟩, []⟩ (List.replicate ClientIDLen 7)
          [upstreamDataFrame downloadSid 0 [1, 2, 3]] = ⟨200, response⟩ →
        decodeBatch tagPrimitives response = .ok (List.replicate ClientIDLen 7,
          [upstreamDataFrame downloadSid 0 [1, 2, 3]])) ↔
      ¬ AnswersEmpty false 0 (List.replicate ClientIDLen 7)
        [upstreamFinFrame (List.replicate SessionIDLen 1)] downloadPool [promptGap] := by
  have queues : QueuesMade downloadPool :=
    (SessionPool.new_holds.get_or_create downloadSid FlagSYN [] 0).enqueue_tx
      ⟨rfl, rfl, Nat.zero_le _⟩
  have made : ∀ gap ∈ [promptGap], gap.Made := by
    intro gap member
    rw [List.mem_singleton.mp member]
    exact nofun
  have decoded : decodeBatch tagPrimitives finBody = .ok (List.replicate ClientIDLen 7,
      [upstreamFinFrame (List.replicate SessionIDLen 1)]) := by
    decide +kernel
  exact success_response_readable_iff tag_primitives_lawful zeroNonce ⟨⟨0, false⟩, []⟩ decoded
    queues made (by decide +kernel)

end Astrix
