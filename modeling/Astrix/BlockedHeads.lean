import Astrix.BatchSizes
import Astrix.QueueSteps

/-!
# Queues behind a head that fits no batch

Apart from the drains, a client only adds frames behind its queues. A drain puts
a whole snapshot back as soon as one frame of it has no room, so frames at the
front of a queue that together exceed `MaxFramePayload` stay there as long as
every drain asks for all of them. Such a session is not silent: each post may
repeat a beginning of the same frames.
-/

namespace Astrix

open PyRuntime SessionPool

set_option autoImplicit false

/-- Objects stay where they are and get frames behind their queues only. -/
structure QueuesGrow (before after : SessionPool) : Prop where
  fresh : before.fresh ≤ after.fresh
  queues : ∀ r < before.fresh, (before.objects r).txQ <+: (after.objects r).txQ

namespace QueuesGrow

theorem refl (pool : SessionPool) : QueuesGrow pool pool :=
  ⟨Nat.le_refl _, fun _ _ => List.prefix_refl _⟩

theorem trans {first second third : SessionPool} (one : QueuesGrow first second)
    (two : QueuesGrow second third) : QueuesGrow first third where
  fresh := one.fresh.trans two.fresh
  queues r allocated :=
    (one.queues r allocated).trans (two.queues r (Nat.lt_of_lt_of_le allocated one.fresh))

theorem foldl {α : Type} {items : List α} {next : SessionPool → α → SessionPool}
    (each : ∀ pool item, QueuesGrow pool (next pool item)) (pool : SessionPool) :
    QueuesGrow pool (items.foldl next pool) :=
  List.foldlRecOn (motive := fun reached => QueuesGrow pool reached) _ _ (refl pool)
    fun reached grown item _ => grown.trans (each reached item)

end QueuesGrow

section Growth

theorem queues_grow_modify (pool : SessionPool) (ref : Nat) (change : Session → Session)
    (sameId : ∀ s, (change s).sessionId = s.sessionId) (kept : ∀ s, s.txQ <+: (change s).txQ) :
    QueuesGrow pool (pool.modify ref change sameId) := by
  refine ⟨Nat.le_refl _, fun r _ => ?_⟩
  rw [modify_objects]
  split_ifs with here
  · rw [here]
    exact kept _
  · exact List.prefix_refl _

theorem queues_grow_enqueue_tx (pool : SessionPool) (ref : Nat) (frame : Frame) (now : ℚ) :
    QueuesGrow pool (pool.enqueueTx ref frame now) :=
  queues_grow_modify _ _ _ _ fun s => List.prefix_append s.txQ [frame]

theorem queues_grow_get_or_create (pool : SessionPool) (sid : Bytes) (flags : Nat) (target : Text)
    (now : ℚ) : QueuesGrow pool (pool.getOrCreate sid flags target now).1 := by
  rcases get_or_create_cases pool sid flags target now with ⟨ref, _, same⟩ | ⟨missing, made⟩
  · rw [same]
    exact QueuesGrow.refl pool
  · rw [made]
    refine ⟨Nat.le_succ _, fun r allocated => ?_⟩
    rw [insert_objects, if_neg (Nat.ne_of_lt allocated)]

theorem queues_grow_conn_effect (pool : SessionPool) (session : Nat) (effect : ConnEffect) :
    QueuesGrow pool (effect.apply pool session) := by
  constructor
  · cases effect <;> exact Nat.le_refl _
  · intro r _
    by_cases here : r = session
    · rw [here, conn_effect_tx]
      exact List.prefix_append _ _
    · rw [conn_effect_other pool session effect here]

theorem queues_grow_dispatch_response (pool : SessionPool) (now : ℚ) (frames : List Frame) :
    QueuesGrow pool (dispatchResponseFrames pool now frames) := by
  apply QueuesGrow.foldl
  intro start f
  unfold dispatchResponseFrame
  cases start.get f.sessionId with
  | none => exact QueuesGrow.refl start
  | some ref => exact queues_grow_modify _ _ _ _ fun s => List.prefix_refl s.txQ

theorem queues_grow_drop_failed (pool : SessionPool) (frames : List Frame) :
    QueuesGrow pool (dropFailed pool frames) := by
  apply QueuesGrow.foldl
  intro start sid
  exact ⟨Nat.le_refl _, fun _ _ => List.prefix_refl _⟩

variable {before after : Client}

/-- An action that drains nothing takes nothing from a queue. -/
theorem react_grows {request : Nat} {action : ClientAction} {sent : Option Post}
    (reacted : before.react request action = some (after, sent))
    (undrained : before.drainCall action = none) : QueuesGrow before.pool after.pool := by
  cases Client.react_reacted reacted with
  | opened sid target now pool conns =>
      rw [pool]
      exact (queues_grow_get_or_create before.pool sid FlagSYN target now).trans
        (queues_grow_enqueue_tx _ _ _ _)
  | acted index act conn conn' effect found acted pool conns =>
      rw [pool]
      exact queues_grow_conn_effect _ _ _
  | idle _ call called | posted _ call called =>
      cases undrained.symm.trans called
  | wrote _ _ _ _ _ _ pool | still _ pool =>
      rw [pool]
      exact QueuesGrow.refl _

theorem answered_grows {index : Nat} {answer : Answer} {sent : Nat} {rttMs now : ℚ}
    (taken : before.answered index answer sent rttMs now = some after) :
    QueuesGrow before.pool after.pool := by
  obtain ⟨w, request, frames, ep, _, _, rfl⟩ := Client.answered_cases taken
  rcases Client.take_answer_pool before.pool (ep.recordPost sent rttMs) frames now answer with
    ⟨respFrames, _, _, same⟩ | ⟨_, same | same⟩
  · dsimp only
    rw [same]
    exact queues_grow_dispatch_response before.pool now respFrames
  · dsimp only
    rw [same]
    exact QueuesGrow.refl _
  · dsimp only
    rw [same]
    exact queues_grow_drop_failed before.pool frames

end Growth

/-- Frames that no batch has room for, in a queue whose targets encode. -/
structure Oversized (head : List Frame) : Prop where
  encodable : ∀ f ∈ head, encodeUtf8 f.target = .ok f.targetBytes
  large : MaxFramePayload < encodedTotal head

theorem Oversized.nonempty {head : List Frame} (oversized : Oversized head) : 0 < head.length := by
  cases head with
  | nil => cases oversized.large
  | cons f rest => exact Nat.succ_pos _

section Visits

variable {head : List Frame}

/-- The loop over a snapshot ends inside the frames that have no room. -/
theorem take_frames_oversized (snapshot : DrainSnapshot) (now : ℚ) (rest : List Frame)
    {drain : Drain} (encodable : ∀ f ∈ head, encodeUtf8 f.target = .ok f.targetBytes)
    (budget : drain.totalSize ≤ MaxFramePayload)
    (large : MaxFramePayload < drain.totalSize + encodedTotal head) :
    (takeFrames snapshot now drain (head ++ rest)).pool = drain.pool.rollbackDrain snapshot now ∧
      ∃ taken, taken <+: head ∧ taken.length < head.length ∧
        (takeFrames snapshot now drain (head ++ rest)).frames = drain.frames ++ taken := by
  induction head generalizing drain with
  | nil =>
      have nothing : drain.totalSize + encodedTotal [] = drain.totalSize := Nat.add_zero _
      omega
  | cons f later ih =>
      have total : encodedTotal (f :: later) = encodedSize f + encodedTotal later := rfl
      rw [List.cons_append, takeFrames, encoded_len_ok (encodable f List.mem_cons_self)]
      dsimp only
      split_ifs with overflow
      · exact ⟨rfl, [], List.nil_prefix, Nat.succ_pos _, (List.append_nil _).symm⟩
      · have continued := @ih { drain with
            frames := drain.frames ++ [f]
            totalSize := drain.totalSize + encodedSize f }
            (fun g member => encodable g (List.mem_cons_of_mem _ member))
            (Nat.le_of_not_lt overflow) (by dsimp only; omega)
        obtain ⟨back, taken, part, shorter, frames⟩ := continued
        refine ⟨back, f :: taken, (List.prefix_cons_inj f).mpr part, ?_, ?_⟩
        · exact Nat.succ_lt_succ shorter
        · rw [frames, List.append_assoc, List.singleton_append]

/-- A visit of another session leaves an object alone, also when it raises. -/
theorem visit_other_object {batchSize : Nat} {now : ℚ} {drain : Drain} {sid : Bytes} {r : Nat}
    (elsewhere : drain.pool.get sid ≠ some r) :
    (drainSession batchSize now drain sid).pool.objects r = drain.pool.objects r := by
  rw [drainSession]
  split_ifs with failed
  · rfl
  · rcases drain.pool.drain_cases sid batchSize with ⟨_, same⟩ | ⟨ref, found, _, taken⟩
    · rw [same]
      rfl
    · have different : r ≠ ref := fun same => elsewhere (same ▸ found)
      have drained : (drain.pool.drainTx ref batchSize).objects r = drain.pool.objects r := by
        rw [drain_tx_objects, if_neg different]
      rw [taken]
      dsimp only
      split_ifs
      · exact drained
      · rcases take_frames_pool ⟨sid, (drain.pool.objects ref).txQ.take batchSize,
            ((drain.pool.objects ref).txQ.take batchSize).length,
            totalPayload ((drain.pool.objects ref).txQ.take batchSize)⟩ now
            ((drain.pool.objects ref).txQ.take batchSize)
            { drain with pool := drain.pool.drainTx ref batchSize } with kept | back
        · rw [kept]
          exact drained
        · rw [back, rollback_found now found, rollback_tx_objects, if_neg different]
          exact drained

variable {batchSize : Nat} {now : ℚ} {ref : Nat}

/-- A visit of the session puts everything back, and its batch gets a proper
beginning of the frames. -/
theorem visit_oversized {drain : Drain} {sid : Bytes} (budget : drain.totalSize ≤ MaxFramePayload)
    (found : drain.pool.get sid = some ref) (oversized : Oversized head)
    (ready : head <+: (drain.pool.objects ref).txQ) (asked : head.length ≤ batchSize) :
    ((drainSession batchSize now drain sid).pool.objects ref).txQ =
        (drain.pool.objects ref).txQ ∧
      ∃ taken, taken <+: head ∧ taken.length < head.length ∧
        (drainSession batchSize now drain sid).frames = drain.frames ++ taken := by
  rw [drainSession]
  split_ifs with failed
  · exact ⟨rfl, [], List.nil_prefix, oversized.nonempty, (List.append_nil _).symm⟩
  · rcases drain.pool.drain_cases sid batchSize with ⟨empty, _⟩ | ⟨other, same, _, taken⟩
    · have short := ready.length_le
      rw [empty ref found] at short
      exact absurd oversized.nonempty (Nat.not_lt.mpr short)
    · cases found.symm.trans same
      have asksAll : head <+: (drain.pool.objects ref).txQ.take batchSize := by
        rw [List.prefix_take_iff]
        exact ⟨ready, asked⟩
      obtain ⟨rest, whole⟩ := asksAll
      have count : ((drain.pool.objects ref).txQ.take batchSize).length ≠ 0 := by
        have length := congrArg List.length whole
        have some := oversized.nonempty
        rw [List.length_append] at length
        omega
      rw [taken]
      dsimp only
      rw [if_neg count]
      generalize snapped : DrainSnapshot.mk sid ((drain.pool.objects ref).txQ.take batchSize)
        ((drain.pool.objects ref).txQ.take batchSize).length
        (totalPayload ((drain.pool.objects ref).txQ.take batchSize)) = snapshot
      have stopped := @take_frames_oversized head snapshot now rest
        { drain with pool := drain.pool.drainTx ref batchSize } oversized.encodable budget
        (Nat.lt_of_lt_of_le oversized.large (Nat.le_add_left _ _))
      obtain ⟨back, part⟩ := stopped
      have foundSame : (drain.pool.drainTx ref batchSize).get snapshot.sessionId = some ref := by
        rw [← snapped]
        exact found
      rw [← whole, back]
      refine ⟨?_, part⟩
      rw [rollback_found now foundSame, rollback_tx_objects, if_pos rfl, drain_tx_objects,
        if_pos rfl, ← snapped]
      exact List.take_append_drop _ _

theorem visit_keeps_oversized {drain : Drain} (budget : drain.totalSize ≤ MaxFramePayload)
    (sid : Bytes) (oversized : Oversized head) (ready : head <+: (drain.pool.objects ref).txQ)
    (asked : head.length ≤ batchSize) :
    ((drainSession batchSize now drain sid).pool.objects ref).txQ =
      (drain.pool.objects ref).txQ := by
  by_cases found : drain.pool.get sid = some ref
  · exact (visit_oversized budget found oversized ready asked).1
  · rw [visit_other_object found]

/-- A whole drain leaves the queue as it was. -/
theorem drain_all_keeps_oversized {pool : SessionPool} (workerId : Nat) (oversized : Oversized head)
    (ready : head <+: (pool.objects ref).txQ) (asked : head.length ≤ batchSize) :
    ((drainAll pool batchSize workerId now).pool.objects ref).txQ = (pool.objects ref).txQ := by
  have kept : Measured (drainAll pool batchSize workerId now) ∧
      ((drainAll pool batchSize workerId now).pool.objects ref).txQ = (pool.objects ref).txQ := by
    apply List.foldlRecOn (motive := fun drain : Drain =>
      Measured drain ∧ (drain.pool.objects ref).txQ = (pool.objects ref).txQ)
    · exact ⟨start_measured pool, rfl⟩
    · intro drain held sid _
      refine ⟨drain_session_measured batchSize now sid held.1, ?_⟩
      rw [visit_keeps_oversized held.1.budget sid oversized (by rw [held.2]; exact ready) asked]
      exact held.2
  exact kept.2

/-- Of the session a batch has a proper beginning of the frames. -/
theorem drain_all_posts_oversized {pool : SessionPool} {workerId : Nat} {sid : Bytes}
    (own : OwnQueues pool) (found : pool.get sid = some ref) (oversized : Oversized head)
    (ready : head <+: (pool.objects ref).txQ) (asked : head.length ≤ batchSize)
    (returned : (drainAll pool batchSize workerId now).failed = none) :
    sessionFrames sid (drainAll pool batchSize workerId now).frames <+: head ∧
      (sessionFrames sid (drainAll pool batchSize workerId now).frames).length < head.length := by
  by_cases visited : sid ∈ workerSids pool workerId
  · have once := drain_all_visit own found visited returned
    have readyBefore : head <+:
        ((drainBefore pool batchSize workerId now sid).pool.objects ref).txQ := by
      rw [once.objectBefore]
      exact ready
    obtain ⟨_, taken, part, shorter, frames⟩ :=
      @visit_oversized head batchSize now ref _ sid once.budget once.found oversized readyBefore
        asked
    have ownTaken : sessionFrames sid taken = taken := by
      apply session_frames_all
      intro f member
      have queued := once.own.tx ref f (readyBefore.subset (part.subset member))
      exact queued.trans (SessionPool.get_keyed once.found).2
    rw [once.frames, frames, session_frames_append, once.unseen, ownTaken, List.nil_append]
    exact ⟨part, shorter⟩
  · rw [((drain_all_session own found returned).1 visited).2]
    exact ⟨List.nil_prefix, oversized.nonempty⟩

end Visits

/-- Every drain of the step asks for at least `count` frames of a session. -/
def AsksFor (count : Nat) (state : RunningClient) : ClientEvent → Prop
  | .act action => ∀ call, state.client.drainCall action = some call → count ≤ call.batchSize
  | .answered _ _ _ _ _ => True

section Runs

variable {head : List Frame} {ref : Nat} {state later : RunningClient}

/-- The object exists, and the frames are the first of its queue. -/
structure StartsWith (head : List Frame) (ref : Nat) (state : RunningClient) : Prop where
  allocated : ref < state.client.pool.fresh
  ready : head <+: (state.client.pool.objects ref).txQ

theorem StartsWith.grow (starts : StartsWith head ref state)
    (grown : QueuesGrow state.client.pool later.client.pool) : StartsWith head ref later where
  allocated := Nat.lt_of_lt_of_le starts.allocated grown.fresh
  ready := starts.ready.trans (grown.queues ref starts.allocated)

theorem drained_starts_with {action : ClientAction} {call : Client.DrainCall}
    (oversized : Oversized head) (starts : StartsWith head ref state)
    (asked : AsksFor head.length state (.act action))
    (called : state.client.drainCall action = some call)
    (pool : later.client.pool = (call.run state.client.pool).pool) :
    StartsWith head ref later := by
  have unallocated := (untouched_drain_all state.client.pool call.batchSize call.workerId
    call.now).fresh
  constructor
  · rw [pool]
    exact Nat.lt_of_lt_of_le starts.allocated (Nat.le_of_eq unallocated.symm)
  · rw [pool, Client.DrainCall.run, drain_all_keeps_oversized call.workerId oversized starts.ready
      (asked call called)]
    exact starts.ready

theorem starts_with_step {event : ClientEvent} (oversized : Oversized head)
    (starts : StartsWith head ref state) (asked : AsksFor head.length state event)
    (stepped : state.step event = some later) : StartsWith head ref later := by
  rcases client_step_cases stepped with ⟨action, sent, rfl, reacted⟩ |
    ⟨index, answer, sent, rttMs, now, rfl, taken⟩
  · cases called : state.client.drainCall action with
    | none => exact starts.grow (react_grows reacted called)
    | some call =>
        cases Client.react_reacted reacted with
        | opened | wrote | acted => cases called
        | idle _ other same _ pool | posted _ other same _ _ pool =>
            cases called.symm.trans same
            exact drained_starts_with oversized starts asked called pool
        | still _ pool =>
            exact starts.grow (by rw [pool]; exact QueuesGrow.refl _)
  · exact starts.grow (answered_grows taken)

/-- The only part of a session that a post has is a proper beginning of the frames. -/
def PostsPart (head : List Frame) (ref : Nat) (state : RunningClient) : Prop :=
  ∀ (action : ClientAction) (after : Client) (post : Post),
    AsksFor head.length state (.act action) →
      state.client.react state.requests action = some (after, some post) →
        ∀ sid, state.client.pool.get sid = some ref →
          sessionFrames sid post.frames <+: head ∧
            (sessionFrames sid post.frames).length < head.length

theorem starts_with_posts (sound : QueuesSound state) (oversized : Oversized head)
    (starts : StartsWith head ref state) : PostsPart head ref state := by
  intro action after post asked reacted sid found
  cases Client.react_reacted reacted with
  | posted _ call called returned encodes pool conns =>
      exact drain_all_posts_oversized sound.own found oversized starts.ready (asked call called)
        returned

theorem drain_call_batch {client : Client} {action : ClientAction} {call : Client.DrainCall}
    (called : client.drainCall action = some call) :
    ∃ ep ∈ client.endpoints, call.batchSize = ep.batchSize := by
  have found : ∀ index phase ready now, client.workerCall index phase ready now = some call →
      ∃ ep ∈ client.endpoints, call.batchSize = ep.batchSize := by
    intro index phase ready now same
    unfold Client.workerCall at same
    split at same
    · next w _ =>
        split at same
        · next ep present =>
            split_ifs at same
            cases same
            exact ⟨ep, List.mem_of_getElem? present, rfl⟩
        · cases same
    · cases same
  cases action with
  | work index now => exact found _ _ _ _ called
  | heard index activity now =>
      cases activity with
      | true => exact found _ _ _ _ called
      | false => cases called
  | openConn | write | conn | cooled | health | stop => cases called

/-- Every drain asks for one frame at least. -/
theorem asks_for_one (sizes : SizesInRange state.client) (event : ClientEvent) :
    AsksFor 1 state event := by
  cases event with
  | act action =>
      intro call called
      obtain ⟨ep, member, same⟩ := drain_call_batch called
      rw [same]
      exact (sizes ep member).1
  | answered => trivial

end Runs

/-- From any reachable state of a client: frames at the front of a session's queue
that no batch has room for stay at its front in every run whose drains ask for
all of them, and no post has all of them. -/
theorem oversized_head_stays {clientId : Bytes} {endpoints : Nat}
    {history continued : List ClientEvent} {state later : RunningClient} {head : List Frame}
    {ref : Nat}
    (reached : clientMachine.Run StepMachine.anyStep (RunningClient.start clientId endpoints)
      history state)
    (oversized : Oversized head) (starts : StartsWith head ref state)
    (run : clientMachine.Run (AsksFor head.length) state continued later) :
    StartsWith head ref later ∧ PostsPart head ref later := by
  have both : QueuesSound later ∧ StartsWith head ref later := by
    apply @StepMachine.Run.invariant _ _ _ _ _ _ _
      (fun reached => QueuesSound reached ∧ StartsWith head ref reached) run
    · exact ⟨client_queues_sound reached, starts⟩
    · intro before event after kept asked stepped
      exact ⟨queues_sound_step kept.1 stepped, starts_with_step oversized kept.2 asked stepped⟩
  exact ⟨both.2, starts_with_posts both.1 oversized both.2⟩

/-- A connection is opened and one full read of the transport is queued. -/
def fullRead (chunk : Bytes) : List ClientEvent :=
  [.act (.openConn firstSid [97, 58, 49] 0), .act (.write 0 chunk), .act (.conn 0 (.drainChunk 0))]

def fullReadClient (chunk : Bytes) : RunningClient :=
  (clientMachine.exec StepMachine.anyStep freshClient (fullRead chunk)).getD freshClient

/-- The worker that visits the session drains it, and its frames are where they were. -/
theorem full_read_stays : ∃ (chunk : Bytes) (later : RunningClient),
    chunk.length = 262144 ∧
      clientMachine.Run (AsksFor 2) (fullReadClient chunk) [.act (.work 0 0)] later ∧
      StartsWith [synFrame firstSid [97, 58, 49], dataFrame firstSid 0 chunk] 0 later ∧
      PostsPart [synFrame firstSid [97, 58, 49], dataFrame firstSid 0 chunk] 0 later := by
  obtain ⟨chunk, size⟩ : ∃ chunk : Bytes, chunk.length = 262144 :=
    ⟨List.replicate 262144 0, List.length_replicate⟩
  have reached : clientMachine.Run StepMachine.anyStep freshClient (fullRead chunk)
      (fullReadClient chunk) := StepMachine.run_of_exec _ rfl
  have syn : encodedSize (synFrame firstSid [97, 58, 49]) = 33 := by decide
  have oversized : Oversized [synFrame firstSid [97, 58, 49], dataFrame firstSid 0 chunk] := by
    constructor
    · intro f member
      rcases List.mem_pair.mp member with same | same <;> rw [same] <;> rfl
    · simp [encodedTotal, syn, data_frame_size, size, MaxFramePayload]
  obtain ⟨later, stepped⟩ : ∃ later, (fullReadClient chunk).step (.act (.work 0 0)) = some later :=
    ⟨_, rfl⟩
  have asked : AsksFor 2 (fullReadClient chunk) (.act (.work 0 0)) := by
    intro call called
    cases called
    decide
  have drained : clientMachine.Run (AsksFor 2) (fullReadClient chunk) [.act (.work 0 0)] later :=
    .single asked stepped
  have starts : StartsWith [synFrame firstSid [97, 58, 49], dataFrame firstSid 0 chunk] 0
      (fullReadClient chunk) := ⟨Nat.zero_lt_one, List.prefix_refl _⟩
  have stays := oversized_head_stays reached oversized starts drained
  exact ⟨chunk, later, size, drained, stays⟩

/-- A first frame larger than a batch stays in every run, and none of the session
is posted any more. -/
theorem oversized_frame_stays {clientId : Bytes} {endpoints : Nat}
    {history continued : List ClientEvent} {state later : RunningClient} {f : Frame} {ref : Nat}
    (reached : clientMachine.Run StepMachine.anyStep (RunningClient.start clientId endpoints)
      history state)
    (encodable : encodeUtf8 f.target = .ok f.targetBytes)
    (large : MaxFramePayload < encodedSize f) (starts : StartsWith [f] ref state)
    (run : clientMachine.Run StepMachine.anyStep state continued later) :
    StartsWith [f] ref later ∧
      ∀ (action : ClientAction) (after : Client) (post : Post),
        later.client.react later.requests action = some (after, some post) →
          ∀ sid, later.client.pool.get sid = some ref → sessionFrames sid post.frames = [] := by
  have oversized : Oversized [f] :=
    ⟨fun g member => by rw [List.mem_singleton.mp member]; exact encodable, large⟩
  have fresh : SizesInRange (RunningClient.start clientId endpoints).client := by
    intro ep member
    rw [List.eq_of_mem_replicate member]
    exact ⟨by decide, by decide⟩
  have kept : (QueuesSound later ∧ SizesInRange later.client) ∧ StartsWith [f] ref later := by
    apply @StepMachine.Run.invariant _ _ _ _ _ _ _ (fun reached =>
      (QueuesSound reached ∧ SizesInRange reached.client) ∧ StartsWith [f] ref reached) run
    · exact ⟨⟨client_queues_sound reached, sizes_in_range fresh reached⟩, starts⟩
    · intro before event after held permitted stepped
      have sizes := sizes_in_range held.1.2 (StepMachine.Run.single permitted stepped)
      exact ⟨⟨queues_sound_step held.1.1 stepped, sizes⟩,
        starts_with_step oversized held.2 (asks_for_one held.1.2 event) stepped⟩
  refine ⟨kept.2, fun action after post reacted sid found => ?_⟩
  have part := starts_with_posts kept.1.1 oversized kept.2 action after post
    (asks_for_one kept.1.2 _) reacted sid found
  exact List.eq_nil_of_length_eq_zero (Nat.lt_one_iff.mp part.2)

end Astrix
