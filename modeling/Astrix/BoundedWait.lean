import Astrix.ClientDirectory
import Astrix.Library.ServedInTurn
import Astrix.QuietWorkers

/-!
# How long a queued frame waits

As long as the fronts that a drain looks at fit one batch, every visit of a
session by its worker takes a batch size of frames from its queue. Whatever is
queued and answered in between, a frame has then been posted, once and in its
place, after as many visits as its position in the queue takes.
-/

namespace Astrix

open PyRuntime SessionPool

set_option autoImplicit false

section Drains

variable {pool : SessionPool} {batchSize workerId : Nat} {now : ℚ} {sid : Bytes} {ref : Nat}

theorem encoded_total_sublist {part whole : List Frame} (within : part.Sublist whole) :
    encodedTotal part ≤ encodedTotal whole := by
  induction within with
  | slnil => exact Nat.le_refl _
  | @cons part whole f _ ih =>
      have total : encodedTotal (f :: whole) = encodedSize f + encodedTotal whole := rfl
      omega
  | @cons_cons part whole f _ ih =>
      have total : encodedTotal (f :: whole) = encodedSize f + encodedTotal whole := rfl
      have partTotal : encodedTotal (f :: part) = encodedSize f + encodedTotal part := rfl
      omega

/-- Where all fronts fit one batch no session is left behind. -/
theorem not_left_behind (own : OwnQueues pool) (found : pool.get sid = some ref)
    (visited : sid ∈ workerSids pool workerId)
    (fits : encodedTotal (visitedFronts pool batchSize workerId).flatten ≤ MaxFramePayload)
    (returned : (drainAll pool batchSize workerId now).failed = none) :
    ¬ LeftBehind pool batchSize workerId now sid := by
  have once := drain_all_visit own found visited returned
  have beforeReturned := drain_session_failed once.returned
  have front : front (drainBefore pool batchSize workerId now sid).pool batchSize sid =
      front pool batchSize sid := by
    rw [front_found once.found, front_found found, once.objectBefore]
  have earlier : (workerSids pool workerId).takeWhile (fun other => other ≠ sid) ++ [sid] <+:
      workerSids pool workerId := by
    obtain ⟨first, rest, split, absent⟩ := List.eq_append_cons_of_mem visited
    have stops : (first ++ sid :: rest).takeWhile (fun other => decide (other ≠ sid)) = first := by
      rw [List.takeWhile_append_of_pos, List.takeWhile_cons_of_neg, List.append_nil]
      · simp
      · intro other member
        exact decide_eq_true fun same => absent (same ▸ member)
    rw [split, stops]
    exact ⟨rest, by rw [List.append_assoc, List.singleton_append]⟩
  have distinct : ((workerSids pool workerId).takeWhile fun other => other ≠ sid).Nodup :=
    (List.takeWhile_sublist _).nodup (worker_sids_nodup pool workerId)
  obtain ⟨taken, within, frames⟩ := fold_sublist distinct (start_measured pool) beforeReturned
  have measured := drain_fold_measured batchSize now
    ((workerSids pool workerId).takeWhile fun other => other ≠ sid) (start_measured pool)
  have size : (drainBefore pool batchSize workerId now sid).totalSize = encodedTotal taken := by
    have all : (drainBefore pool batchSize workerId now sid).frames = taken := frames
    rw [← all]
    exact measured.size
  have all : encodedTotal (taken ++ Astrix.front pool batchSize sid) ≤
      encodedTotal (visitedFronts pool batchSize workerId).flatten := by
    apply encoded_total_sublist
    have both := within.append (List.Sublist.refl (Astrix.front pool batchSize sid))
    apply both.trans
    obtain ⟨rest, split⟩ := earlier
    have mapped := congrArg (fun sids => (sids.map (Astrix.front pool batchSize)).flatten) split
    rw [visitedFronts, ← mapped]
    simp only [List.map_append, List.map_cons, List.map_nil, List.flatten_append,
      List.flatten_cons, List.flatten_nil, List.append_nil]
    exact List.sublist_append_left _ _
  rw [LeftBehind, Overflows, front, size]
  rw [encoded_total_append] at all
  omega

end Drains

/-- Every drain of the event asks for at least `b` frames of a session, finds fronts
that fit one batch, and does not end its worker. -/
def DrainsWhole (b : Nat) (state : RunningClient) : ClientEvent → Prop
  | .act action => ∀ call, state.client.drainCall action = some call →
      b ≤ call.batchSize ∧ ¬ state.client.Raises call ∧
        encodedTotal (visitedFronts state.client.pool call.batchSize call.workerId).flatten ≤
          MaxFramePayload
  | .answered _ _ _ _ _ => True

/-- The session stays in the pool and its workers drain whole fronts. -/
structure InTurn (b : Nat) (sid : Bytes) (state : RunningClient) (event : ClientEvent) : Prop where
  drains : DrainsWhole b state event
  kept : sid ∉ state.dropped event

namespace RunningClient

/-- The event drains for a worker that visits the session. -/
def visits (sid : Bytes) (state : RunningClient) : ClientEvent → Nat
  | .act action => if (state.client.drainCall action).any fun call =>
      sid ∈ workerSids state.client.pool call.workerId then 1 else 0
  | .answered _ _ _ _ _ => 0

/-- The frames of the session that the posts of a history carry. -/
def sent (sid : Bytes) (state : RunningClient) (history : List ClientEvent) : List Frame :=
  clientMachine.totalTaken (fun reached event => postedOf sid (reached.posted event)) state history

end RunningClient

section Turns

variable {b : Nat} {sid : Bytes} {ref : Nat} {state later : RunningClient} {event : ClientEvent}

/-- What one event does with the queue: it posts from the front and adds behind,
and a visit takes a batch size of frames or everything. -/
abbrev TurnTaken (b : Nat) (sid : Bytes) (ref : Nat) (state later : RunningClient)
    (event : ClientEvent) : Prop :=
  StepMachine.Serves b (state.client.pool.objects ref).txQ (later.client.pool.objects ref).txQ
    (postedOf sid (state.posted event)) (state.visits sid event)

theorem visits_once (sid : Bytes) (state : RunningClient) (event : ClientEvent) :
    state.visits sid event ≤ 1 := by
  cases event with
  | act action =>
      rw [RunningClient.visits]
      split_ifs <;> omega
  | answered => exact Nat.zero_le _

theorem turn_undrained (allocated : ref < state.client.pool.fresh)
    (grown : QueuesGrow state.client.pool later.client.pool)
    (silent : state.posted event = none) (unvisited : state.visits sid event = 0) :
    TurnTaken b sid ref state later event := by
  obtain ⟨queued, queue⟩ := grown.queues ref allocated
  refine ⟨⟨queued, ?_⟩, visits_once sid state event,
    fun some => absurd unvisited (Nat.ne_of_gt some)⟩
  rw [silent, queue]
  rfl

theorem turn_drained {action : ClientAction} {call : Client.DrainCall}
    (own : OwnQueues state.client.pool) (found : state.client.pool.get sid = some ref)
    (drains : DrainsWhole b state (.act action))
    (called : state.client.drainCall action = some call)
    (posted : postedOf sid (state.posted (.act action)) =
      sessionFrames sid (call.run state.client.pool).frames)
    (pool : later.client.pool = (call.run state.client.pool).pool) :
    TurnTaken b sid ref state later (.act action) := by
  obtain ⟨asked, quiet, fits⟩ := drains call called
  have returned : (call.run state.client.pool).failed = none :=
    not_not.mp fun failed => quiet (.inl failed)
  obtain ⟨elsewhere, here⟩ := drain_all_session own found returned
  by_cases visited : sid ∈ workerSids state.client.pool call.workerId
  · obtain ⟨queue, frames⟩ :=
      (here visited).1 (not_left_behind own found visited fits returned)
    refine ⟨⟨[], ?_⟩, visits_once sid state _, ?_⟩
    · rw [posted, pool, Client.DrainCall.run, queue, frames, List.take_append_drop,
        List.append_nil]
    · intro _
      rw [posted, pool, Client.DrainCall.run, queue, frames, List.length_take]
      by_cases long : call.batchSize ≤ (state.client.pool.objects ref).txQ.length
      · left
        rw [min_eq_left long]
        exact asked
      · right
        exact List.drop_eq_nil_of_le (Nat.le_of_not_le long)
  · obtain ⟨queue, frames⟩ := elsewhere visited
    refine ⟨⟨[], ?_⟩, visits_once sid state _, ?_⟩
    · rw [posted, pool, Client.DrainCall.run, queue, frames, List.append_nil]
      rfl
    · intro some
      rw [RunningClient.visits, called] at some
      simp [visited] at some

theorem posted_of_react {action : ClientAction} {after : Client} {sent : Option Post}
    (reacted : state.client.react state.requests action = some (after, sent)) :
    state.posted (.act action) = sent := by
  rw [RunningClient.posted, reacted]
  rfl

theorem uncalled_visits {action : ClientAction} (uncalled : state.client.drainCall action = none) :
    state.visits sid (.act action) = 0 := by
  rw [RunningClient.visits, uncalled]
  rfl

theorem send_drained {client after : Client} {index request : Nat} {w : CarrierWorker}
    {idle : WorkerPhase} {call : Client.DrainCall} {sent : Option Post}
    (result : client.send index w request idle (call.run client.pool) = (after, sent)) :
    after.pool = (call.run client.pool).pool ∧
      (¬ client.Raises call →
        sent.toList.flatMap Post.frames = (call.run client.pool).frames) := by
  unfold Client.send at result
  dsimp only at result
  cases failed : (call.run client.pool).failed with
  | some error =>
      rw [failed] at result
      cases result
      refine ⟨rfl, fun quiet => absurd (.inl fun none => ?_) quiet⟩
      cases failed.symm.trans none
  | none =>
      rw [failed] at result
      dsimp only at result
      split_ifs at result with empty
      · cases result
        exact ⟨rfl, fun _ => empty.symm⟩
      · cases written : batchPlaintext client.clientId (call.run client.pool).frames with
        | error error =>
            rw [written] at result
            cases result
            refine ⟨rfl, fun quiet => absurd (.inr ⟨empty, fun encodes => ?_⟩) quiet⟩
            rw [Client.Encodes, written] at encodes
            cases encodes
        | ok plaintext =>
            rw [written] at result
            cases result
            exact ⟨rfl, fun _ => List.flatMap_singleton _ _⟩

/-- A drain that does not end its worker posts what it took. -/
theorem react_drained {before after : Client} {request : Nat} {action : ClientAction}
    {call : Client.DrainCall} {sent : Option Post}
    (reacted : before.react request action = some (after, sent))
    (called : before.drainCall action = some call) :
    after.pool = (call.run before.pool).pool ∧
      (¬ before.Raises call →
        sent.toList.flatMap Post.frames = (call.run before.pool).frames) := by
  cases Client.react_cases reacted with
  | openConn | write | conn | cooled | health | stop => cases called
  | work index now w ep _ _ found head present worked =>
      simp only [Client.drainCall, Client.workerCall, found, present, head, true_and] at called
      unfold Client.work at worked
      split_ifs at called worked with ready stopped dead
      · simp [stopped] at ready
      · simp [dead] at ready
      · cases called
        exact send_drained worked
  | heard index activity now w ep _ _ found waiting present worked =>
      cases activity with
      | false => cases called
      | true =>
          simp only [Client.drainCall, Client.workerCall, found, present, waiting, true_and,
            if_true] at called
          cases called
          exact send_drained worked

theorem turn_taken (own : OwnQueues state.client.pool)
    (found : state.client.pool.get sid = some ref) (drains : DrainsWhole b state event)
    (stepped : state.step event = some later) : TurnTaken b sid ref state later event := by
  have allocated := (get_keyed found).1
  rcases client_step_cases stepped with ⟨action, sent, rfl, reacted⟩ |
    ⟨index, answer, sent, rttMs, now, rfl, taken⟩
  · have posted := posted_of_react reacted
    cases called : state.client.drainCall action with
    | none =>
        have silent : sent = none := by
          cases Client.react_reacted reacted with
          | posted _ call same => cases called.symm.trans same
          | opened | wrote | acted | idle | still => rfl
        exact turn_undrained allocated (react_grows reacted called) (posted.trans silent)
          (uncalled_visits called)
    | some call =>
        obtain ⟨pool, frames⟩ := react_drained reacted called
        apply turn_drained own found drains called _ pool
        rw [posted, postedOf, frames (drains call called).2.1]
  · exact turn_undrained allocated (answered_grows taken) rfl rfl

/-- From any reachable state, in any run whose drains find fronts that fit one batch
and that keeps the session: what the posts carry of the session and what is left
in its queue is what was queued, in order, and after `n` visits of the session at
least the first `b * n` frames of its queue have been posted. -/
theorem queued_frames_posted_in_turn {clientId : Bytes} {endpoints : Nat}
    {history continued : List ClientEvent}
    (reached : clientMachine.Run StepMachine.anyStep (RunningClient.start clientId endpoints)
      history state)
    (found : state.client.pool.get sid = some ref)
    (run : clientMachine.Run (InTurn b sid) state continued later) :
    (∃ queued, state.sent sid continued ++ (later.client.pool.objects ref).txQ =
        (state.client.pool.objects ref).txQ ++ queued) ∧
      (state.client.pool.objects ref).txQ.take
          (b * clientMachine.totalCost (RunningClient.visits sid) state continued) <+:
        state.sent sid continued := by
  obtain ⟨_, kept⟩ := run.keeping
    (fun reached => QueuesSound reached ∧ reached.client.pool.get sid = some ref)
    ⟨client_queues_sound reached, found⟩
    fun before event after held permitted stepped =>
      ⟨queues_sound_step held.1 stepped, step_get held.2 permitted.kept stepped⟩
  apply kept.served_in_turn
  intro before event after permitted stepped
  obtain ⟨⟨sound, held⟩, inTurn⟩ := permitted
  exact turn_taken sound.own held inTurn.drains stepped

/-- Three chunks queued behind a SYN that is already out. -/
def threeChunks : List ClientEvent :=
  [.act (.openConn firstSid [97, 58, 49] 0), .act (.work 0 0), .answered 0 (.failed 429) 100 50 0,
    .act (.cooled 0)] ++
    [[1], [2], [3]].flatMap fun chunk => [.act (.write 0 chunk), .act (.conn 0 (.drainChunk 0))]

/-- One visit, with a chunk queued before it and one behind. -/
def oneVisit : List ClientEvent :=
  [.act (.write 0 [4]), .act (.conn 0 (.drainChunk 0)), .act (.work 0 0), .act (.write 0 [5]),
    .act (.conn 0 (.drainChunk 0))]

instance (b : Nat) (state : RunningClient) (event : ClientEvent) :
    Decidable (DrainsWhole b state event) :=
  match event with
  | .act action => inferInstanceAs (Decidable (∀ call ∈ state.client.drainCall action, _))
  | .answered _ _ _ _ _ => isTrue trivial

instance (b : Nat) (sid : Bytes) (state : RunningClient) (event : ClientEvent) :
    Decidable (InTurn b sid state event) :=
  decidable_of_iff (DrainsWhole b state event ∧ sid ∉ state.dropped event)
    ⟨fun both => ⟨both.1, both.2⟩, fun inTurn => ⟨inTurn.drains, inTurn.kept⟩⟩

/-- The queue of the visited session is posted, first frame first. -/
theorem three_chunks_posted : ∃ state later : RunningClient,
    clientMachine.Run StepMachine.anyStep freshClient threeChunks state ∧
      clientMachine.Run (InTurn 8 firstSid) state oneVisit later ∧
      (state.client.pool.objects 0).txQ.map Frame.payload = [[1], [2], [3]] ∧
      (state.client.pool.objects 0).txQ <+: state.sent firstSid oneVisit := by
  obtain ⟨state, run, checked⟩ : ∃ state,
      clientMachine.Run StepMachine.anyStep freshClient threeChunks state ∧
        decide (state.client.pool.get firstSid = some 0 ∧
          (state.client.pool.objects 0).txQ.map Frame.payload = [[1], [2], [3]] ∧
          (clientMachine.exec (InTurn 8 firstSid) state oneVisit).isSome = true ∧
          clientMachine.totalCost (RunningClient.visits firstSid) state oneVisit = 1) = true :=
    StepMachine.run_of_exec_any _ (by decide +kernel)
  obtain ⟨found, payloads, goesOn, once⟩ := of_decide_eq_true checked
  obtain ⟨later, executed⟩ := Option.isSome_iff_exists.mp goesOn
  have continued := StepMachine.run_of_exec oneVisit executed
  have posted := (queued_frames_posted_in_turn run found continued).2
  have short : (state.client.pool.objects 0).txQ.length ≤ 8 := by
    have three := congrArg List.length payloads
    rw [List.length_map] at three
    rw [three]
    decide
  rw [once, List.take_of_length_le short] at posted
  exact ⟨state, later, run, continued, payloads, posted⟩

end Turns

end Astrix
