import Astrix.DrainBudget
import Astrix.EndpointBackoff

/-!
# The size of a request

The batch size of an endpoint stays in its range. `_drain_all` takes it as a
limit for each queue and not for the batch, so a post holds at most as many
frames only where the fronts of the visited queues do not add up to more.
-/

namespace Astrix

open PyRuntime SessionPool

set_option autoImplicit false

def EndpointState.InRange (ep : EndpointState) : Prop :=
  _BatchSizeMin ≤ ep.batchSize ∧ ep.batchSize ≤ _BatchSizeMax

/-- What a drain may take from the queues that it visits. -/
def visitedFronts (pool : SessionPool) (batchSize workerId : Nat) : List (List Frame) :=
  (workerSids pool workerId).map (front pool batchSize)

/-- More frames of the fronts than the batch size fit one batch. -/
def FrontsExceed (pool : SessionPool) (batchSize workerId : Nat) : Prop :=
  ∃ chosen : List Frame, chosen.Sublist (visitedFronts pool batchSize workerId).flatten ∧
    batchSize < chosen.length ∧ encodedTotal chosen ≤ MaxFramePayload

/-- A drain that the event makes finds no more at the fronts than the batch size. -/
def FrontsWithin (state : RunningClient) : ClientEvent → Prop
  | .act action => ∀ call, state.client.drainCall action = some call →
      ¬ FrontsExceed state.client.pool call.batchSize call.workerId
  | .answered _ _ _ _ _ => True

/-- The post holds a frame, and not more than the batch size of the endpoint
whose worker makes it. -/
def PostWithin (client : Client) (action : ClientAction) (post : Post) : Prop :=
  ∃ (index : Nat) (now : ℚ) (w : CarrierWorker) (ep : EndpointState),
    (action = .work index now ∨ action = .heard index true now) ∧
      client.workers[index]? = some w ∧ client.endpoints[w.endpoint]? = some ep ∧
        1 ≤ post.frames.length ∧ post.frames.length ≤ ep.batchSize

section Drains

theorem fold_sublist {batchSize : Nat} {now : ℚ} {sids : List Bytes} {drain : Drain}
    (distinct : sids.Nodup) (measured : Measured drain)
    (returned : (sids.foldl (drainSession batchSize now) drain).failed = none) :
    ∃ taken, taken.Sublist (sids.map (front drain.pool batchSize)).flatten ∧
      (sids.foldl (drainSession batchSize now) drain).frames = drain.frames ++ taken := by
  induction sids generalizing drain with
  | nil => exact ⟨[], List.nil_sublist _, (List.append_nil _).symm⟩
  | cons sid rest ih =>
      obtain ⟨absent, distinct⟩ := List.nodup_cons.mp distinct
      have visited := @drain_fold_failed batchSize now rest _ returned
      obtain ⟨first, part, here⟩ := visit_prefix measured.budget visited
      obtain ⟨others, within, later⟩ :=
        ih distinct (drain_session_measured batchSize now sid measured) returned
      rw [fronts_elsewhere measured absent visited] at within
      refine ⟨first ++ others, ?_, ?_⟩
      · rw [List.map_cons, List.flatten_cons]
        exact part.sublist.append within
      · rw [List.foldl_cons, later, here, List.append_assoc]

theorem fold_whole {batchSize : Nat} {now : ℚ} {sids : List Bytes} {drain : Drain}
    (distinct : sids.Nodup) (measured : Measured drain)
    (fits : drain.totalSize + encodedTotal (sids.map (front drain.pool batchSize)).flatten ≤
      MaxFramePayload)
    (returned : (sids.foldl (drainSession batchSize now) drain).failed = none) :
    (sids.foldl (drainSession batchSize now) drain).frames =
      drain.frames ++ (sids.map (front drain.pool batchSize)).flatten := by
  induction sids generalizing drain with
  | nil => exact (List.append_nil _).symm
  | cons sid rest ih =>
      obtain ⟨absent, distinct⟩ := List.nodup_cons.mp distinct
      have visited := @drain_fold_failed batchSize now rest _ returned
      have fronts := fronts_elsewhere measured absent visited
      rw [List.map_cons, List.flatten_cons, encoded_total_append] at fits
      have room : ¬ Overflows drain batchSize sid := by
        rw [Overflows]
        omega
      have size := (visit_size measured visited).1 room
      have here : (drainSession batchSize now drain sid).frames =
          drain.frames ++ front drain.pool batchSize sid := by
        cases (drain_session_result measured.budget visited).2 with
        | unqueued nothing frames | noFront _ _ nothing frames =>
            rw [frames, nothing, List.append_nil]
        | taken _ _ _ frames => exact frames
        | putBack _ _ _ overflow => exact absurd overflow room
      have later := ih distinct (drain_session_measured batchSize now sid measured)
        (by rw [fronts, size]; omega) returned
      rw [List.foldl_cons, later, fronts, here, List.map_cons, List.flatten_cons,
        List.append_assoc]

/-- A batch is taken from the fronts of the visited queues, in their order. -/
theorem drained_from_fronts {pool : SessionPool} {batchSize workerId : Nat} {now : ℚ}
    (returned : (drainAll pool batchSize workerId now).failed = none) :
    (drainAll pool batchSize workerId now).frames.Sublist
      (visitedFronts pool batchSize workerId).flatten := by
  obtain ⟨taken, within, frames⟩ := fold_sublist (worker_sids_nodup pool workerId)
    (start_measured pool) returned
  have whole : (drainAll pool batchSize workerId now).frames = taken := frames
  rw [whole]
  exact within

theorem drained_within {pool : SessionPool} {batchSize workerId : Nat} {now : ℚ}
    (returned : (drainAll pool batchSize workerId now).failed = none)
    (within : ¬ FrontsExceed pool batchSize workerId) :
    (drainAll pool batchSize workerId now).frames.length ≤ batchSize := by
  have measured := drain_all_measured pool batchSize workerId now
  by_contra exceeds
  exact within ⟨_, drained_from_fronts returned, Nat.lt_of_not_le exceeds,
    measured.size ▸ measured.budget⟩

/-- Where all fronts fit one batch, this is what has to hold. -/
theorem drained_within_iff {pool : SessionPool} {batchSize workerId : Nat} {now : ℚ}
    (fits : encodedTotal (visitedFronts pool batchSize workerId).flatten ≤ MaxFramePayload)
    (returned : (drainAll pool batchSize workerId now).failed = none) :
    (drainAll pool batchSize workerId now).frames.length ≤ batchSize ↔
      ¬ FrontsExceed pool batchSize workerId := by
  have whole : (drainAll pool batchSize workerId now).frames =
      (visitedFronts pool batchSize workerId).flatten :=
    fold_whole (worker_sids_nodup pool workerId) (start_measured pool)
      (by rw [startDrain, Nat.zero_add]; exact fits) returned
  constructor
  · rintro short ⟨chosen, part, more, _⟩
    have length := part.length_le
    rw [← whole] at length
    omega
  · exact drained_within returned

end Drains

section Posts

variable {before after : Client} {request : Nat} {action : ClientAction}

theorem send_posted {index : Nat} {w : CarrierWorker} {idle : WorkerPhase} {drain : Drain}
    {post : Post} (sent : before.send index w request idle drain = (after, some post)) :
    drain.failed = none ∧ drain.frames ≠ [] ∧ post.frames = drain.frames := by
  unfold Client.send at sent
  dsimp only at sent
  cases failed : drain.failed with
  | some error =>
      rw [failed] at sent
      cases sent
  | none =>
      rw [failed] at sent
      dsimp only at sent
      split_ifs at sent with empty
      · cases sent
      · cases written : batchPlaintext before.clientId drain.frames with
        | error error =>
            rw [written] at sent
            cases sent
        | ok plaintext =>
            rw [written] at sent
            cases sent
            exact ⟨rfl, empty, rfl⟩

/-- The post of a worker that drains by the batch size of its endpoint. -/
theorem send_within {state : RunningClient} {post : Post} {index : Nat} {now : ℚ}
    {w : CarrierWorker} {ep : EndpointState} {idle : WorkerPhase}
    (within : FrontsWithin state (.act action))
    (acts : action = .work index now ∨ action = .heard index true now)
    (found : state.client.workers[index]? = some w)
    (present : state.client.endpoints[w.endpoint]? = some ep)
    (called : state.client.drainCall action = some ⟨ep.batchSize, w.workerId, now⟩)
    (sent : state.client.send index w request idle
      (drainAll state.client.pool ep.batchSize w.workerId now) = (after, some post)) :
    PostWithin state.client action post := by
  obtain ⟨returned, some, frames⟩ := send_posted sent
  refine ⟨index, now, w, ep, acts, found, present, ?_, ?_⟩
  · rw [frames]
    exact List.length_pos_iff.mpr some
  · rw [frames]
    exact drained_within returned (within _ called)

theorem post_within {state : RunningClient} {post : Post}
    (within : FrontsWithin state (.act action))
    (reacted : state.client.react request action = some (after, some post)) :
    PostWithin state.client action post := by
  cases Client.react_cases reacted with
  | work index now w ep _ _ found head present worked =>
      unfold Client.work at worked
      split_ifs at worked with stopped dead
      · cases worked
      · cases worked
      · have called : state.client.drainCall (.work index now) =
            some ⟨ep.batchSize, w.workerId, now⟩ := by
          simp [Client.drainCall, Client.workerCall, found, present, head, stopped, dead]
        exact send_within within (.inl rfl) found present called worked
  | heard index activity now w ep _ _ found waiting present worked =>
      unfold Client.hear at worked
      cases activity with
      | false => cases worked
      | true =>
          have called : state.client.drainCall (.heard index true now) =
              some ⟨ep.batchSize, w.workerId, now⟩ := by
            simp [Client.drainCall, Client.workerCall, found, present, waiting]
          exact send_within within (.inr rfl) found present called worked

end Posts

section Sizes

theorem adapt_in_range {ep : EndpointState} (inRange : ep.InRange) (count : Nat) :
    (ep.adaptBatchSize count).InRange := by
  obtain ⟨lower, upper⟩ := inRange
  rw [EndpointState.adaptBatchSize]
  split_ifs
  · exact ⟨le_min (by decide) (lower.trans (Nat.le_add_right _ _)), min_le_left _ _⟩
  · exact ⟨le_max_left _ _, max_le (by decide) ((Nat.sub_le _ _).trans upper)⟩
  · exact ⟨lower, upper⟩

theorem take_answer_in_range {ep : EndpointState} (inRange : ep.InRange) (pool : SessionPool)
    (frames : List Frame) (now : ℚ) (answer : Answer) :
    (takeAnswer pool ep frames now answer).ep.InRange := by
  cases answer with
  | frames respFrames bodyLength =>
      exact @adapt_in_range { ep with
        consecutiveFailures := 0
        totalBytesRecv := ep.totalBytesRecv + bodyLength } inRange respFrames.length
  | emptyBody | unreadable error => exact inRange
  | failed status =>
      rw [takeAnswer, handleFailure]
      split_ifs <;> exact inRange

theorem health_in_range {ep : EndpointState} (inRange : ep.InRange) (event : EndpointEvent) :
    (ep.health event).InRange := by
  cases event with
  | markDead | forceFailures =>
      rw [EndpointState.health]
      split_ifs <;> exact inRange
  | revive => exact inRange

/-- The batch sizes of a client are in their range. -/
def SizesInRange (client : Client) : Prop := ∀ ep ∈ client.endpoints, ep.InRange

theorem sizes_kept : EndpointKept (fun _ => True) EndpointState.InRange where
  health _ event inRange := health_in_range inRange event
  answered ep pool frames sent rttMs now answer _ inRange :=
    @take_answer_in_range (ep.recordPost sent rttMs) inRange pool frames now answer

theorem sizes_in_range {allowed : RunningClient → ClientEvent → Prop} {start final : RunningClient}
    {history : List ClientEvent} (fresh : SizesInRange start.client)
    (run : clientMachine.Run allowed start history final) : SizesInRange final.client :=
  sizes_kept.run (fun _ event _ => untimed event) fresh run

end Sizes

/-- From any client with fresh endpoints: the batch sizes stay in their range, and
while the fronts are within them at every drain, so are the posts. -/
theorem posts_within_batch_size {start state : RunningClient} {history : List ClientEvent}
    (fresh : ∀ ep ∈ start.client.endpoints, ep.batchSize = _BatchSizeDefault)
    (run : clientMachine.Run FrontsWithin start history state) :
    (∀ ep ∈ state.client.endpoints,
        _BatchSizeMin ≤ ep.batchSize ∧ ep.batchSize ≤ _BatchSizeMax) ∧
      ∀ (action : ClientAction) (request : Nat) (after : Client) (post : Post),
        FrontsWithin state (.act action) →
          state.client.react request action = some (after, some post) →
            PostWithin state.client action post := by
  constructor
  · apply sizes_in_range _ run
    intro ep member
    rw [EndpointState.InRange, fresh ep member]
    decide
  · intro action request after post within reacted
    exact post_within within reacted

/-- A client of one endpoint; its first worker visits every third session. -/
def freshClient : RunningClient := RunningClient.start (List.replicate ClientIDLen 7) 1

def opens (n : Nat) : ClientEvent :=
  .act (.openConn (UInt8.ofNat n :: List.replicate 15 0) [97, 58, 49] 0)

/-- No worker drains in the step. -/
def undrained (state : RunningClient) : ClientEvent → Bool
  | .act action => (state.client.drainCall action).isNone
  | .answered _ _ _ _ _ => true

theorem undrained_within {state : RunningClient} {event : ClientEvent}
    (none : undrained state event = true) : FrontsWithin state event := by
  cases event with
  | act action =>
      intro call called
      rw [undrained, called] at none
      cases none
  | answered index answer sent rttMs now => trivial

/-- Twenty-two connections are opened; eight of them are the first worker's, and
its batch size is eight. -/
theorem eight_syns_within : ∃ (state : RunningClient) (after : Client) (post : Post),
    state.client.react state.requests (.work 0 0) = some (after, some post) ∧
      post.frames.length = 8 ∧ PostWithin state.client (.work 0 0) post := by
  have passed : ((clientMachine.exec (fun state event => undrained state event = true) freshClient
      ((List.range 22).map opens)).any fun state =>
        decide (((state.client.drainCall (.work 0 0)).all fun call =>
            (visitedFronts state.client.pool call.batchSize call.workerId).flatten.length ≤
              call.batchSize) = true) &&
          (state.client.react state.requests (.work 0 0)).any fun reacted =>
            reacted.2.any fun post => post.frames.length = 8) = true := by
    decide +kernel
  obtain ⟨state, run, checked⟩ := StepMachine.run_of_exec_any _ passed
  rw [Bool.and_eq_true] at checked
  obtain ⟨few, posts⟩ := checked
  obtain ⟨⟨after, sent⟩, reacted, posted⟩ := (Option.any_eq_true _ _).mp posts
  obtain ⟨post, rfl, eight⟩ := (Option.any_eq_true _ _).mp posted
  have within : FrontsWithin state (.act (.work 0 0)) := by
    intro call called
    rintro ⟨chosen, part, more, _⟩
    rw [called] at few
    have fronts := of_decide_eq_true (of_decide_eq_true few)
    exact absurd (part.length_le.trans fronts) (Nat.not_le.mpr more)
  have run' := run.weaken fun _ _ none => undrained_within none
  exact ⟨state, after, post, reacted, of_decide_eq_true eight,
    (posts_within_batch_size (by decide) run').2 _ _ _ _ within reacted⟩

/-- The first worker posts, if it looks now, more than the batch size. -/
def postsTooMany (state : RunningClient) : Bool :=
  match state.client.react state.requests (.work 0 0), state.client.workers[0]? with
  | some (_, some post), some w =>
      (state.client.endpoints[w.endpoint]?).all fun ep => ep.batchSize < post.frames.length
  | _, _ => false

/-- Twenty-five connections are opened; nine of them are the first worker's. -/
theorem nine_syns_posted :
    ¬ ∀ (start state : RunningClient) (history : List ClientEvent),
      (∀ ep ∈ start.client.endpoints, ep.batchSize = _BatchSizeDefault) →
      clientMachine.Run StepMachine.anyStep start history state →
        (∀ ep ∈ state.client.endpoints,
            _BatchSizeMin ≤ ep.batchSize ∧ ep.batchSize ≤ _BatchSizeMax) ∧
          ∀ (action : ClientAction) (request : Nat) (after : Client) (post : Post),
            state.client.react request action = some (after, some post) →
              PostWithin state.client action post := by
  intro always
  obtain ⟨state, run, tooMany⟩ : ∃ state, clientMachine.Run StepMachine.anyStep freshClient
      ((List.range 25).map opens) state ∧ postsTooMany state = true :=
    StepMachine.run_of_exec_any _ (by decide +kernel)
  unfold postsTooMany at tooMany
  split at tooMany
  · next after post w reacted found =>
      obtain ⟨index, now, w', ep, acts, found', present, _, within⟩ :=
        (always freshClient state _ (by decide) run).2 (.work 0 0) _ _ _ reacted
      rcases acts with same | other
      · cases same
        rw [found] at found'
        cases found'
        rw [present] at tooMany
        exact absurd within (Nat.not_le.mpr (of_decide_eq_true tooMany))
      · cases other
  · cases tooMany

end Astrix
