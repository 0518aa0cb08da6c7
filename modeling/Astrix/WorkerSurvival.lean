import Astrix.BatchEnvelopeSoundness
import Astrix.FailedPost

/-!
# What ends a carrier worker

One iteration of `_worker_loop` from its head. The loop catches cancellation
only, so an exception of the encoder or of the decoder ends the task. The
encoder asks for a nonce, and the decoder meets whatever text the relay passes
on with status 200.
-/

namespace Astrix

open PyRuntime SessionPool

set_option autoImplicit false

/-- What the surroundings contribute to one iteration: the pool after
`wait_for_activity` and its result, and the answer to the post. -/
structure Surroundings where
  drainedAt : ℚ
  activity : Bool
  poolAfterWait : SessionPool
  status : Nat
  respBody : Bytes
  rttMs : ℚ
  answeredAt : ℚ

/-- The iteration from the encoder on. -/
def postFrames (prims : Primitives) (nonce : NonceCall) (adaptive : Adaptive) (clientId : Bytes)
    (pool : SessionPool) (ep : EndpointState) (world : Surroundings) (frames : List Frame) :
    IterationEnd :=
  match clientEncodeBatch prims nonce adaptive clientId frames with
  | .error error => .raised error
  | .ok (body, _) =>
      (handleAnswer prims pool (ep.recordPost body.length world.rttMs) frames world.status
        world.respBody world.answeredAt).finish

/-- The frames an iteration posts, if its drains return. -/
def postedFrames (pool : SessionPool) (ep : EndpointState) (workerId : Nat)
    (world : Surroundings) : Option (List Frame) :=
  if ep.isDead then none
  else
    let first := drainAll pool ep.batchSize workerId world.drainedAt
    if first.frames ≠ [] then some first.frames
    else if world.activity then
      let second := drainAll world.poolAfterWait ep.batchSize workerId world.drainedAt
      if second.frames ≠ [] then some second.frames else none
    else none

/-- One iteration of `_worker_loop` while the carrier runs. -/
def workerIteration (prims : Primitives) (nonce : NonceCall) (adaptive : Adaptive)
    (clientId : Bytes) (pool : SessionPool) (ep : EndpointState) (workerId : Nat) (world : Surroundings) :
    IterationEnd :=
  if ep.isDead then .sleepThenLoopHead ep.backoff
  else
    let first := drainAll pool ep.batchSize workerId world.drainedAt
    match first.failed with
    | some error => .raised error
    | none =>
        if first.frames ≠ [] then
          postFrames prims nonce adaptive clientId first.pool ep world first.frames
        else if world.activity then
          let second := drainAll world.poolAfterWait ep.batchSize workerId world.drainedAt
          match second.failed with
          | some error => .raised error
          | none =>
              if second.frames ≠ [] then
                postFrames prims nonce adaptive clientId second.pool ep world second.frames
              else .loopHead
        else .loopHead

def IterationEnd.Survives (finish : IterationEnd) : Prop := ∀ error, finish ≠ .raised error

theorem loop_head_survives : IterationEnd.loopHead.Survives := nofun

theorem sleep_survives (seconds : ℚ) : (IterationEnd.sleepThenLoopHead seconds).Survives := nofun

/-- What the encoder needs of a batch: a count that fits two bytes, fields in
their ranges, and headers that fit the buffer sized in characters. -/
structure Encodable (frames : List Frame) : Prop where
  count : frames.length ≤ 0xFFFF
  fields : ∀ frame ∈ frames, Batchable frame
  headers : HeadersFit (framesSize frames) frames

/-- The call of `AESGCM.generate_nonce` returns. -/
def NonceCall.Returns (nonce : NonceCall) : Prop := ∃ made : Nonce, nonce = .ok made

theorem client_encode_returns_iff (prims : Primitives) (nonce : NonceCall) (adaptive : Adaptive)
    {clientId : Bytes} {frames : List Frame} (idLength : clientId.length = ClientIDLen)
    (ids : ∀ frame ∈ frames, frame.sessionId.length = SessionIDLen) :
    (∃ result, clientEncodeBatch prims nonce adaptive clientId frames = .ok result) ↔
      nonce.Returns ∧ Encodable frames := by
  constructor
  · rintro ⟨result, encoded⟩
    obtain ⟨plaintext, written, encoded⟩ := (bind_ok_iff _ _ _).mp encoded
    obtain ⟨count, _, fields, headers, _⟩ := batch_plaintext_ok written ids
    refine ⟨?_, count, fields, headers⟩
    cases nonce with
    | ok made => exact ⟨made, rfl⟩
    | error error => cases encoded
  · rintro ⟨⟨made, rfl⟩, encodable⟩
    obtain ⟨plaintext, written⟩ := batch_plaintext_of_fits encodable.count idLength ids
      encodable.fields encodable.headers
    rw [clientEncodeBatch, encodeBatchWith, bind_ok written]
    exact ⟨_, rfl⟩

theorem client_encode_ok_iff (prims : Primitives) (nonce : Nonce) (adaptive : Adaptive)
    {clientId : Bytes} {frames : List Frame} (idLength : clientId.length = ClientIDLen)
    (ids : ∀ frame ∈ frames, frame.sessionId.length = SessionIDLen) :
    (∃ result, clientEncodeBatch prims nonce adaptive clientId frames = .ok result) ↔
      Encodable frames := by
  rw [client_encode_returns_iff prims nonce adaptive idLength ids]
  exact and_iff_right ⟨nonce, rfl⟩

/-- The answer is one the worker can handle. -/
def Handleable (prims : Primitives) (status : Nat) (respBody : Bytes) : Prop :=
  status = 200 → respBody = [] ∨ ∃ decoded, decodeBatch prims respBody = .ok decoded

theorem handle_answer_survives_iff (prims : Primitives) (pool : SessionPool) (ep : EndpointState)
    (frames : List Frame) (status : Nat) (respBody : Bytes) (now : ℚ) :
    (handleAnswer prims pool ep frames status respBody now).finish.Survives ↔
      Handleable prims status respBody := by
  rw [handleAnswer, Handleable]
  by_cases succeeded : status = 200
  · rw [if_pos succeeded]
    dsimp only
    by_cases empty : respBody = []
    · rw [if_neg (not_not.mpr empty)]
      exact iff_of_true loop_head_survives fun _ => .inl empty
    · rw [if_pos empty]
      cases decoded : decodeBatch prims respBody with
      | ok result => exact iff_of_true loop_head_survives fun _ => .inr ⟨result, rfl⟩
      | error error =>
          refine iff_of_false (fun survives => survives error rfl) fun handled => ?_
          rcases handled succeeded with nothing | ⟨result, accepted⟩
          · exact empty nothing
          · cases accepted
  · rw [if_neg succeeded, handleFailure]
    split_ifs
    · exact iff_of_true (sleep_survives _) fun same => absurd same succeeded
    · exact iff_of_true loop_head_survives fun same => absurd same succeeded

/-- The batch gets through the encoder and the answer is one the worker can handle. -/
structure PostSurvives (prims : Primitives) (nonce : NonceCall) (world : Surroundings)
    (frames : List Frame) : Prop where
  nonce : nonce.Returns
  encodable : Encodable frames
  answer : Handleable prims world.status world.respBody

theorem post_frames_survives_iff (prims : Primitives) (nonce : NonceCall) (adaptive : Adaptive)
    {clientId : Bytes} (pool : SessionPool) (ep : EndpointState) (world : Surroundings)
    {frames : List Frame} (idLength : clientId.length = ClientIDLen)
    (ids : ∀ frame ∈ frames, frame.sessionId.length = SessionIDLen) :
    (postFrames prims nonce adaptive clientId pool ep world frames).Survives ↔
      PostSurvives prims nonce world frames := by
  have encodes := client_encode_returns_iff prims nonce adaptive idLength ids
  rw [postFrames]
  cases encoded : clientEncodeBatch prims nonce adaptive clientId frames with
  | error error =>
      refine iff_of_false (fun survives => survives error rfl) fun survives => ?_
      obtain ⟨result, accepted⟩ := encodes.mpr ⟨survives.nonce, survives.encodable⟩
      rw [encoded] at accepted
      cases accepted
  | ok result =>
      obtain ⟨body, later⟩ := result
      obtain ⟨made, encodable⟩ := encodes.mp ⟨_, encoded⟩
      dsimp only
      rw [handle_answer_survives_iff]
      exact ⟨fun handled => ⟨made, encodable, handled⟩, fun survives => survives.answer⟩

/-- Session ids of queued frames have their full length. -/
abbrev QueuedIds (pool : SessionPool) : Prop :=
  pool.Holds (fun _ frame => frame.sessionId.length = SessionIDLen) AnyFrame

theorem drained_ids {pool : SessionPool} (ids : QueuedIds pool) (batchSize workerId : Nat)
    (now : ℚ) : ∀ frame ∈ (drainAll pool batchSize workerId now).frames,
      frame.sessionId.length = SessionIDLen := by
  intro frame member
  obtain ⟨_, _, idLength⟩ := (drain_all_holds ids batchSize workerId now).2 frame member
  exact idLength

/-- An iteration whose drains return goes back to the loop head if and only if
it posts nothing, or a nonce is made, its batch can be encoded and the answer is not
a 200 with a body that does not decode. -/
theorem worker_survives_iff (prims : Primitives) (nonce : NonceCall) (adaptive : Adaptive)
    {clientId : Bytes} {pool : SessionPool} {ep : EndpointState} {workerId : Nat}
    {world : Surroundings} (idLength : clientId.length = ClientIDLen)
    (ids : QueuedIds pool) (laterIds : QueuedIds world.poolAfterWait)
    (returned : (drainAll pool ep.batchSize workerId world.drainedAt).failed = none)
    (laterReturned : world.activity = true →
      (drainAll world.poolAfterWait ep.batchSize workerId world.drainedAt).failed = none) :
    (workerIteration prims nonce adaptive clientId pool ep workerId world).Survives ↔
      ∀ frames ∈ postedFrames pool ep workerId world,
        PostSurvives prims nonce world frames := by
  have posts : ∀ (drained : SessionPool) (frames : List Frame),
      (∀ frame ∈ frames, frame.sessionId.length = SessionIDLen) →
      ((postFrames prims nonce adaptive clientId drained ep world frames).Survives ↔
        ∀ posted ∈ some frames, PostSurvives prims nonce world posted) := by
    intro drained frames frameIds
    rw [post_frames_survives_iff prims nonce adaptive drained ep world idLength frameIds]
    simp
  have idle : ∀ finish : IterationEnd, finish.Survives → (finish.Survives ↔
      ∀ posted ∈ (none : Option (List Frame)), PostSurvives prims nonce world posted) :=
    fun finish survives => iff_of_true survives nofun
  unfold workerIteration postedFrames
  by_cases dead : ep.isDead = true
  · rw [if_pos dead, if_pos dead]
    exact idle _ (sleep_survives _)
  · rw [if_neg dead, if_neg dead]
    dsimp only
    rw [returned]
    dsimp only
    by_cases some : (drainAll pool ep.batchSize workerId world.drainedAt).frames ≠ []
    · rw [if_pos some, if_pos some]
      exact posts _ _ (drained_ids ids _ _ _)
    · rw [if_neg some, if_neg some]
      by_cases active : world.activity = true
      · rw [if_pos active, if_pos active, laterReturned active]
        dsimp only
        split_ifs
        · exact posts _ _ (drained_ids laterIds _ _ _)
        · exact idle _ loop_head_survives
      · rw [if_neg active, if_neg active]
        exact idle _ loop_head_survives

/-- What the relay script passes on, with status 200, when the exit server is
not reachable. -/
def relayErrorWorld : Surroundings where
  drainedAt := 0
  activity := false
  poolAfterWait := SessionPool.new
  status := 200
  respBody := asciiBytes "Exception: Address unavailable"
  rttMs := 5
  answeredAt := 0

/-- With the package as it is no nonce is made; with one, the relay's text ends the worker. -/
theorem relay_error_ends_worker :
    ¬ (workerIteration tagPrimitives (.error .attributeError) ⟨0, false⟩
        (List.replicate ClientIDLen 7) uploadPool EndpointState.new 0 relayErrorWorld).Survives ∧
      ¬ (workerIteration tagPrimitives zeroNonce ⟨0, false⟩ (List.replicate ClientIDLen 7)
        uploadPool EndpointState.new 0 relayErrorWorld).Survives := by
  have unsealed : workerIteration tagPrimitives (.error .attributeError) ⟨0, false⟩
      (List.replicate ClientIDLen 7) uploadPool EndpointState.new 0 relayErrorWorld =
        .raised .attributeError := by
    decide +kernel
  have ended : workerIteration tagPrimitives zeroNonce ⟨0, false⟩ (List.replicate ClientIDLen 7)
      uploadPool EndpointState.new 0 relayErrorWorld = .raised .binasciiError := by
    decide +kernel
  exact ⟨fun survives => survives _ unsealed, fun survives => survives _ ended⟩

theorem relay_error_survival_iff :
    (workerIteration tagPrimitives zeroNonce ⟨0, false⟩ (List.replicate ClientIDLen 7) uploadPool
        EndpointState.new 0 relayErrorWorld).Survives ↔
      ∀ frames ∈ postedFrames uploadPool EndpointState.new 0 relayErrorWorld,
        PostSurvives tagPrimitives zeroNonce relayErrorWorld frames := by
  have ids : QueuedIds uploadPool :=
    (new_holds.get_or_create uploadSid FlagSYN [] 0).enqueue_tx rfl
  exact worker_survives_iff tagPrimitives zeroNonce ⟨0, false⟩ rfl ids new_holds
    (by decide +kernel) nofun

end Astrix
