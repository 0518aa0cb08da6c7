import Astrix.UploadServer

/-!
# One session's chunks on the server

The data frames that the worker of a session queued are those that left in
replies, followed by those in the transmit queue. A scan moves the front of the
queue into the reply; refusals and closing frames are not data.
-/

namespace Astrix

open PyRuntime SessionPool

set_option autoImplicit false

/-- The frames that carry chunks. -/
def dataFrames (frames : List Frame) : List Frame := frames.filter fun f => f.flags = 0

@[simp] theorem data_frames_append (first second : List Frame) :
    dataFrames (first ++ second) = dataFrames first ++ dataFrames second :=
  List.filter_append _ _

theorem data_frames_none {frames : List Frame} (closing : ∀ f ∈ frames, f.flags ≠ 0) :
    dataFrames frames = [] :=
  List.filter_eq_nil_iff.mpr fun f member same => closing f member (of_decide_eq_true same)

/-- Data frames of one session in a response. -/
def chunkFrames (sid : Bytes) (frames : List Frame) : List Frame :=
  dataFrames (sessionFrames sid frames)

theorem chunk_frames_none {sid : Bytes} {frames : List Frame}
    (closing : ∀ f ∈ frames, f.flags ≠ 0) : chunkFrames sid frames = [] :=
  data_frames_none fun f member => closing f (List.mem_filter.mp member).1

section Scan

variable {sid : Bytes} {r : Nat} {pool : SessionPool}

theorem scan_unseen (own : pool.Holds OwnFrame AnyFrame) (unseen : Unseen sid pool)
    (collected : List Frame) :
    sessionFrames sid (scanSessions pool collected).responseFrames =
      sessionFrames sid collected := by
  have none : sessionFrames sid
      (pool.snapshotAll.flatMap fun s => (pool.objects s).txQ.take pollDrainLimit) = [] := by
    apply session_frames_none
    intro f member same
    obtain ⟨s, listed, queued⟩ := List.mem_flatMap.mp member
    have bound := (get_keyed (get_of_snapshot listed)).1
    rw [own.tx s f (List.mem_of_mem_take queued)] at same
    exact unseen s bound same
  rw [scan_response_frames, session_frames_append, none, List.append_nil]

end Scan

/-- The bytes that the workers of an object read. -/
def readBytes (r : Nat) (workers : List UpstreamWorker) : Bytes :=
  (workers.filter fun w => w.session = r).flatMap fun w => w.received.flatten

theorem only_worker {r : Nat} {workers : List UpstreamWorker} {w : UpstreamWorker}
    (once : workersOf r workers ≤ 1) (member : w ∈ workers) (own : w.session = r) :
    readBytes r workers = w.received.flatten := by
  have listed : w ∈ workers.filter fun w => w.session = r :=
    List.mem_filter.mpr ⟨member, decide_eq_true own⟩
  have single : (workers.filter fun w => w.session = r).length ≤ 1 := by
    rw [← List.countP_eq_length_filter]
    exact once
  have alone : (workers.filter fun w => w.session = r) = [w] := by
    generalize workers.filter (fun w => w.session = r) = mine at listed single
    cases mine with
    | nil => cases listed
    | cons first rest =>
        have none : rest = [] := List.length_eq_zero_iff.mp (by simpa using single)
        rw [none] at listed ⊢
        rw [List.mem_singleton.mp listed]
  rw [readBytes, alone, List.flatMap_singleton]

/-- Another object's worker acted. -/
theorem read_bytes_other {r index : Nat} {workers : List UpstreamWorker} {w w' : UpstreamWorker}
    (found : workers[index]? = some w) (session : w'.session = w.session)
    (other : w.session ≠ r) : readBytes r (workers.set index w') = readBytes r workers := by
  obtain ⟨inside, here⟩ := List.getElem?_eq_some_iff.mp found
  have whole : workers = workers.take index ++ w :: workers.drop (index + 1) := by
    rw [← here, ← List.drop_eq_getElem_cons inside, List.take_append_drop]
  have otherLater : w'.session ≠ r := session ▸ other
  rw [List.set_eq_take_append_cons_drop, if_pos inside]
  conv_rhs => rw [whole]
  simp [readBytes, List.filter_append, other, otherLater]

theorem read_bytes_append (r : Nat) (workers more : List UpstreamWorker) :
    readBytes r (workers ++ more) = readBytes r workers ++ readBytes r more := by
  simp [readBytes]

theorem read_bytes_spawned (r : Nat) (spawned : List Nat) :
    readBytes r (spawned.map spawnWorker) = [] := by
  apply List.flatMap_eq_nil_iff.mpr
  intro w member
  obtain ⟨s, _, rfl⟩ := List.mem_map.mp (List.mem_filter.mp member).1
  rfl

theorem read_bytes_accepted (r : Nat) (server : ExitServer) (frames : List Frame) (now : ℚ) :
    readBytes r (server.accept frames now).1.workers = readBytes r server.workers := by
  rw [accept_workers, read_bytes_append, read_bytes_spawned, List.append_nil]

/-- The object of the session, its worker if it got one, and the data frames
that were queued for the client: they carry what the worker read. -/
structure Fetching (sid : Bytes) (r : Nat) (pool : SessionPool) (workers : List UpstreamWorker)
    (left : List Frame) : Prop where
  placed : Placed sid r pool
  once : workersOf r workers ≤ 1
  read : payloads (left ++ dataFrames (pool.objects r).txQ) = readBytes r workers

/-- `left` are the data frames that left the server in replies. -/
def Downstreamed (sid : Bytes) (pool : SessionPool) (workers : List UpstreamWorker)
    (left : List Frame) : Prop :=
  (Unseen sid pool ∧ left = []) ∨ ∃ r, Fetching sid r pool workers left

section Server

variable {A B : Bytes → Bytes → Prop} {sid : Bytes} {pool later : SessionPool}
  {workers : List UpstreamWorker} {left : List Frame}

/-- Nothing happened to the session's transmit queue. -/
theorem Downstreamed.kept (downstreamed : Downstreamed sid pool workers left)
    (kept : Kept pool later) (same : ∀ r, (later.objects r).txQ = (pool.objects r).txQ) :
    Downstreamed sid later workers left := by
  rcases downstreamed with ⟨unseen, none⟩ | ⟨r, fetching⟩
  · exact .inl ⟨unseen.same_ids kept.fresh kept.ids, none⟩
  · refine .inr ⟨r, fetching.placed.same_ids kept.fresh kept.ids, fetching.once, ?_⟩
    rw [same]
    exact fetching.read

theorem Downstreamed.round (downstreamed : Downstreamed sid pool workers left)
    (own : pool.Holds OwnFrame AnyFrame) {poll : Poll}
    (quiet : ∀ f ∈ poll.responseFrames, f.flags ≠ 0) (atCheck afterScan : ℚ) :
    Downstreamed sid (pollRound pool poll atCheck afterScan).1 workers
      (left ++ chunkFrames sid (pollRound pool poll atCheck afterScan).2.frames) := by
  have kept := kept_poll_round pool poll atCheck afterScan
  have none : dataFrames (sessionFrames sid poll.responseFrames) = [] := chunk_frames_none quiet
  rcases downstreamed with ⟨unseen, nothing⟩ | ⟨r, fetching⟩
  · refine .inl ⟨unseen.same_ids kept.fresh kept.ids, ?_⟩
    rw [nothing, List.nil_append, chunkFrames]
    rcases poll_round_cases pool poll atCheck afterScan with ⟨_, frames⟩ | ⟨_, frames⟩
    · rw [frames, none]
    · rw [frames, scan_unseen own unseen, none]
  · refine .inr ⟨r, fetching.placed.same_ids kept.fresh kept.ids, fetching.once, ?_⟩
    have moved : chunkFrames sid (pollRound pool poll atCheck afterScan).2.frames ++
        dataFrames ((pollRound pool poll atCheck afterScan).1.objects r).txQ =
          dataFrames (pool.objects r).txQ := by
      rcases poll_round_cases pool poll atCheck afterScan with ⟨after, frames⟩ | ⟨after, frames⟩
      · rw [after, frames, chunkFrames, none, List.nil_append]
      · rw [after, frames, chunkFrames, ← data_frames_append,
          scan_session own fetching.placed.id fetching.placed.listed, data_frames_append, none,
          List.nil_append]
    rw [List.append_assoc, moved]
    exact fetching.read

/-- What an act of the session's worker queues is what it read. -/
theorem acted_reads {s : Session} {w w' : UpstreamWorker} {effect : UpstreamEffect}
    (acted : Acted s w w' effect) :
    w'.received.flatten = w.received.flatten ++ payloads (dataFrames effect.frames) := by
  cases acted with
  | data data now reading received written =>
      rw [received]
      simp [UpstreamEffect.frames, dataFrames, upstreamDataFrame, payloads]
  | silent received written | dialError payload now received written | fin now received written
  | wake received written =>
      rw [received]
      exact (List.append_nil _).symm
  | skip f rest queue empty received written =>
      rw [received]
      exact (List.append_nil _).symm
  | write f rest queue plain payload received written =>
      rw [received]
      exact (List.append_nil _).symm

theorem downstreamed_act {index : Nat} {w w' : UpstreamWorker} {effect : UpstreamEffect}
    (downstreamed : Downstreamed sid pool workers left) (found : workers[index]? = some w)
    (session : w'.session = w.session) (acted : Acted (pool.objects w.session) w w' effect) :
    Downstreamed sid (effect.apply pool w.session) (workers.set index w') left := by
  have fresh := upstream_effect_fresh pool w.session effect
  have ids := upstream_effect_id pool w.session effect
  rcases downstreamed with ⟨unseen, none⟩ | ⟨r, fetching⟩
  · exact .inl ⟨unseen.same_ids fresh ids, none⟩
  · have once : workersOf r (workers.set index w') ≤ 1 := by
      rw [workers_of_set found session]
      exact fetching.once
    refine .inr ⟨r, fetching.placed.same_ids fresh ids, once, ?_⟩
    by_cases own : w.session = r
    · have inside := (List.getElem?_eq_some_iff.mp found).1
      have before := fetching.read
      rw [only_worker fetching.once (List.mem_of_getElem? found) own] at before
      have queue := upstream_effect_tx pool w.session effect
      rw [own] at queue ⊢
      rw [only_worker once (List.mem_set inside w') (session.trans own), acted_reads acted,
        ← before, queue, data_frames_append, ← List.append_assoc, payloads_append]
    · rw [upstream_effect_other pool w.session effect (Ne.symm own),
        read_bytes_other found session own]
      exact fetching.read

/-- The SYNs of the session in a batch. -/
def synCount (sid : Bytes) (frames : List Frame) : Nat :=
  (sessionFrames sid frames).countP fun f => f.flags = FlagSYN

/-- A batch brings a SYN of the session once, and not if it has an object. -/
def OpensOnce (sid : Bytes) (pool : SessionPool) (frames : List Frame) : Prop :=
  synCount sid frames ≤ if Unseen sid pool then 1 else 0

theorem syn_count_none {frames : List Frame} (none : synCount sid frames = 0) :
    ∀ f ∈ sessionFrames sid frames, f.flags ≠ FlagSYN :=
  fun f member syn => List.countP_eq_zero.mp none f member (decide_eq_true syn)

theorem syn_count_one {frames : List Frame} (one : synCount sid frames = 1) :
    ∃ early syn rest, sessionFrames sid frames = early ++ syn :: rest ∧
      (∀ f ∈ early, f.flags ≠ FlagSYN) ∧ syn.flags = FlagSYN ∧ ∀ f ∈ rest, f.flags ≠ FlagSYN := by
  unfold synCount at one
  have positive : 0 < (sessionFrames sid frames).countP fun f => f.flags = FlagSYN := by omega
  obtain ⟨chosen, listed, chosenSyn⟩ := List.countP_pos_iff.mp positive
  obtain ⟨syn, early, rest, notYet, isSyn, split, _⟩ :=
    @List.exists_of_eraseP _ (fun f => decide (f.flags = FlagSYN)) _ _ listed chosenSyn
  have counted := @List.countP_cons _ (fun f : Frame => decide (f.flags = FlagSYN)) syn rest
  rw [if_pos isSyn] at counted
  rw [split, List.countP_append] at one
  have none : rest.countP (fun f => f.flags = FlagSYN) = 0 := by omega
  exact ⟨early, syn, rest, split, fun f member same => notYet f member (decide_eq_true same),
    of_decide_eq_true isSyn,
    fun f member same => List.countP_eq_zero.mp none f member (decide_eq_true same)⟩

theorem downstreamed_accept {server : ExitServer} {frames : List Frame} {now : ℚ}
    (bound : ∀ w ∈ server.workers, w.session < server.pool.fresh)
    (flags : ∀ f ∈ frames, ClientFlags f)
    (downstreamed : Downstreamed sid server.pool server.workers left)
    (opens : OpensOnce sid server.pool frames) :
    Downstreamed sid (server.accept frames now).1.pool (server.accept frames now).1.workers
      left := by
  rcases downstreamed with ⟨unseen, none⟩ | ⟨r, fetching⟩
  · rw [OpensOnce, if_pos unseen] at opens
    rcases Nat.le_one_iff_eq_zero_or_eq_one.mp opens with zero | one
    · exact .inl ⟨batch_unseen server.locked now flags (syn_count_none zero) unseen, none⟩
    · obtain ⟨early, syn, rest, batch, notYet, isSyn, others⟩ := syn_count_one one
      obtain ⟨r, made⟩ := batch_makes server.locked now flags batch notYet isSyn others unseen
      obtain ⟨older, single⟩ := workers_of_made bound made
      have oldBytes : readBytes r server.workers = [] := by
        have nobody : (server.workers.filter fun w => w.session = r) = [] :=
          List.filter_eq_nil_iff.mpr fun w member same =>
            older w member (of_decide_eq_true same)
        rw [readBytes, nobody]
        rfl
      have empty : ((server.accept frames now).1.pool.objects r).txQ = [] := made.tx
      refine .inr ⟨r, made.placed, single, ?_⟩
      rw [none, empty, read_bytes_accepted, oldBytes]
      rfl
  · have seen : ¬ Unseen sid server.pool :=
      fun unseen => unseen r fetching.placed.bound fetching.placed.id
    rw [OpensOnce, if_neg seen] at opens
    have received := batch_received server.locked now flags
      (syn_count_none (Nat.le_zero.mp opens)) fetching.placed
    have count := (workers_of_received received).2
    have same : ((server.accept frames now).1.pool.objects r).txQ =
        (server.pool.objects r).txQ := received.tx
    refine .inr ⟨r, received.placed, count.trans_le fetching.once, ?_⟩
    rw [same, read_bytes_accepted]
    exact fetching.read

/-- The chunks of the session in a reply, if there is one. -/
def repliedChunks (sid : Bytes) (reply : Option Reply) : List Frame :=
  chunkFrames sid (reply.toList.flatMap Reply.frames)

/-- Filing a round: what it collected is replied. -/
theorem downstreamed_settle {server after : ExitServer} {reply : Option Reply} {request : Nat}
    {clientId : Bytes} {poll : Poll} {atCheck afterScan : ℚ}
    (own : pool.Holds OwnFrame AnyFrame)
    (downstreamed : Downstreamed sid pool server.workers left)
    (collected : ∀ f ∈ poll.responseFrames, f.flags ≠ 0)
    (settled : server.settle request clientId (pollRound pool poll atCheck afterScan) =
      (after, reply)) :
    Downstreamed sid after.pool after.workers (left ++ repliedChunks sid reply) := by
  have round := downstreamed.round own collected atCheck afterScan
  have filed := ExitServer.settle_workers server request clientId
    (pollRound pool poll atCheck afterScan)
  rw [settled] at filed
  rw [filed.1, filed.2]
  generalize result : pollRound pool poll atCheck afterScan = outcome at settled round
  obtain ⟨pool', outcome⟩ := outcome
  cases outcome with
  | answered frames =>
      cases settled
      have same : repliedChunks sid (some ⟨request, clientId, frames⟩) =
          chunkFrames sid frames := by simp [repliedChunks]
      rw [same]
      exact round
  | asleep asleep sleepFor =>
      have empty : asleep.responseFrames = [] := poll_round_asleep (congrArg Prod.snd result)
      cases settled
      have nothing : chunkFrames sid (PollOutcome.asleep asleep sleepFor).frames =
          repliedChunks sid none := by
        rw [PollOutcome.frames, empty]
        rfl
      rw [← nothing]
      exact round

/-- One step of the server. -/
theorem Downstreamed.react {server after : ExitServer} {action : ServerAction}
    {reply : Option Reply} (downstreamed : Downstreamed sid server.pool server.workers left)
    (quiet : QuietPolls server) (sound : server.Sound A B)
    (reacted : server.react action = some (after, reply))
    (carried : ∀ f ∈ action.carried, Uplink A f.sessionId f)
    (opens : OpensOnce sid server.pool action.carried) :
    Downstreamed sid after.pool after.workers (left ++ repliedChunks sid reply) := by
  have flags : ∀ f ∈ action.carried, ClientFlags f :=
    fun f member => uplink_flags (carried f member)
  have own : server.pool.Holds OwnFrame AnyFrame :=
    sound.held.pool.weaken (fun _ _ down => down.own) fun _ _ _ => trivial
  rcases ExitServer.react_cases reacted with
    ⟨request, clientId, frames, now, atCheck, afterScan, rfl, same⟩ |
    ⟨index, atCheck, afterScan, request, poll, rfl, found, same⟩ |
    ⟨index, act, w, w', effect, rfl, found, acted, rfl, rfl⟩
  · have dispatched := (@dispatch_frames_holds OwnFrame AnyFrame server.locked now server.pool
      frames own (fun _ _ => trivial) fun _ _ _ => rfl).1
    have accepted : Downstreamed sid (server.accept frames now).1.pool
        (server.accept frames now).1.workers left :=
      downstreamed_accept sound.bound flags downstreamed opens
    have refusals : ∀ f ∈ (startPoll clientId (server.accept frames now).2 now).responseFrames,
        f.flags ≠ 0 := by
      intro f member
      obtain ⟨_, rfl⟩ := dispatch_refusals server.locked now server.pool frames f member
      exact (by decide : FlagRST ≠ 0)
    exact downstreamed_settle dispatched accepted refusals same
  · have garbage := garbage_kept server.pool poll
    have nothing : ∀ f ∈ (collectGarbage server.pool poll).2.responseFrames, f.flags ≠ 0 := by
      rw [collect_garbage_frames, quiet _ (List.mem_of_getElem? found)]
      exact nofun
    have kept : Downstreamed sid (collectGarbage server.pool poll).1 server.workers left :=
      downstreamed.kept garbage.1 garbage.2
    have remaining : Downstreamed sid (collectGarbage server.pool poll).1
        { server with polls := server.polls.eraseIdx index }.workers left := kept
    exact downstreamed_settle (own.garbage poll) remaining nothing same
  · obtain ⟨session, how⟩ := UpstreamWorker.act_acted acted
    have nothing : left ++ repliedChunks sid none = left := List.append_nil _
    rw [nothing]
    exact downstreamed_act downstreamed found session how

end Server

end Astrix
