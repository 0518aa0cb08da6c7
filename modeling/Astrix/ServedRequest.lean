import Mathlib.Algebra.Order.BigOperators.Group.List
import Astrix.BatchDispatch
import Astrix.ResponseReadable
import Astrix.Tunnel

/-!
# What one request takes down

A handler that scans before its deadline answers with the first eight frames of
every session that has some. What comes before the scan, the dispatch of the
batch or a garbage collection, leaves the transmit queue of a session that is
in the dictionary with something queued.
-/

namespace Astrix

open PyRuntime SessionPool

set_option autoImplicit false

/-- A frame that can stand in a response. -/
structure Shippable (frame : Frame) : Prop where
  idLength : frame.sessionId.length = SessionIDLen
  noTarget : frame.target = []
  seqLower : 0 ≤ frame.seq
  seqUpper : frame.seq < 256 ^ 8
  size : marshalSize frame < 256 ^ 4

instance (frame : Frame) : Decidable (Shippable frame) :=
  decidable_of_iff (frame.sessionId.length = SessionIDLen ∧ frame.target = [] ∧ 0 ≤ frame.seq ∧
      frame.seq < 256 ^ 8 ∧ marshalSize frame < 256 ^ 4)
    ⟨fun all => ⟨all.1, all.2.1, all.2.2.1, all.2.2.2.1, all.2.2.2.2⟩,
      fun ships => ⟨ships.1, ships.2, ships.3, ships.4, ships.5⟩⟩

theorem no_target_bytes {frame : Frame} (none : frame.target = []) :
    encodeUtf8 frame.target = .ok [] := by
  rw [none]
  rfl

theorem Shippable.batchable {frame : Frame} (ships : Shippable frame) : Batchable frame := by
  have encoded := no_target_bytes ships.noTarget
  have bytes := target_bytes_of_ok encoded
  refine ⟨⟨bytes ▸ encoded, by simp [bytes], ships.seqLower, ships.seqUpper, ?_⟩, ships.size⟩
  have size := ships.size
  unfold marshalSize at size
  omega

theorem shippable_encodes {clientId : Bytes} {frames : List Frame}
    (idLength : clientId.length = ClientIDLen) (count : frames.length ≤ 0xFFFF)
    (ships : ∀ frame ∈ frames, Shippable frame) : Client.Encodes clientId frames := by
  have ids : ∀ frame ∈ frames, frame.sessionId.length = SessionIDLen :=
    fun frame member => (ships frame member).idLength
  have exact : ∀ frame ∈ frames, frame.targetBytes.length = frame.target.length := by
    intro frame member
    have none := (ships frame member).noTarget
    rw [target_bytes_of_ok (no_target_bytes none), none]
    rfl
  obtain ⟨plaintext, written⟩ := batch_plaintext_of_fits count idLength ids
    (fun frame member => (ships frame member).batchable) (headers_fit_exact ids exact)
  rw [Client.Encodes, written]
  rfl

theorem busy_frame_ships {sid : Bytes} (idLength : sid.length = SessionIDLen) :
    Shippable (busyFrame sid) :=
  ⟨idLength, rfl, Int.le_refl 0, (by decide : (0 : Int) < 256 ^ 8),
    (by decide : (34 : Nat) < 256 ^ 4)⟩

namespace SessionPool

/-- Nothing was queued for the client: what the later pool has under an id, the
earlier one had. -/
def TxWithin (before after : SessionPool) : Prop :=
  ∀ sid s, after.get sid = some s → ∀ f ∈ (after.objects s).txQ,
    before.get sid = some s ∧ f ∈ (before.objects s).txQ

theorem TxWithin.refl (pool : SessionPool) : TxWithin pool pool :=
  fun _ _ found _ member => ⟨found, member⟩

theorem TxWithin.trans {first second third : SessionPool} (one : TxWithin first second)
    (two : TxWithin second third) : TxWithin first third := by
  intro sid s found f member
  obtain ⟨earlier, queued⟩ := two sid s found f member
  exact one sid s earlier f queued

theorem tx_within_of_same {before after : SessionPool}
    (get : ∀ sid s, after.get sid = some s → before.get sid = some s)
    (tx : ∀ sid s, after.get sid = some s → (after.objects s).txQ = (before.objects s).txQ) :
    TxWithin before after := by
  intro sid s found f member
  rw [tx sid s found] at member
  exact ⟨get sid s found, member⟩

end SessionPool

section Admit

/-- What dispatching `count` frames leaves to a session of the dictionary. -/
structure Admitted (sid : Bytes) (r count : Nat) (before after : Dispatch) : Prop where
  get : after.pool.get sid = some r
  tx : (after.pool.objects r).txQ = (before.pool.objects r).txQ
  within : TxWithin before.pool after.pool
  sessions : after.pool.sessionCount ≤ before.pool.sessionCount + count
  replies : after.responseFrames.length ≤ before.responseFrames.length + count

variable {sid : Bytes} {r : Nat}

theorem Admitted.refl {state : Dispatch} (found : state.pool.get sid = some r) :
    Admitted sid r 0 state state :=
  ⟨found, rfl, TxWithin.refl _, Nat.le_refl _, Nat.le_refl _⟩

theorem Admitted.trans {first second third : Dispatch} {early late : Nat}
    (one : Admitted sid r early first second) (two : Admitted sid r late second third) :
    Admitted sid r (early + late) first third where
  get := two.get
  tx := two.tx.trans one.tx
  within := one.within.trans two.within
  sessions := by
    have first := one.sessions
    have second := two.sessions
    omega
  replies := by
    have first := one.replies
    have second := two.replies
    omega

theorem dispatch_response_tx (now : ℚ) (pool : SessionPool) (f : Frame) (s : Nat) :
    ((dispatchResponseFrame now pool f).objects s).txQ = (pool.objects s).txQ := by
  unfold dispatchResponseFrame
  cases pool.get f.sessionId with
  | none => rfl
  | some ref => exact enqueue_rx_tx _ _ _ _ _

/-- The pool after a SYN: at most one session more, without frames. -/
theorem syn_pool_admits {pool : SessionPool} (f : Frame) (now : ℚ)
    (found : pool.get sid = some r) :
    (synPool pool f now).get sid = some r ∧
      ((synPool pool f now).objects r).txQ = (pool.objects r).txQ ∧
      TxWithin pool (synPool pool f now) ∧
      (synPool pool f now).sessionCount ≤ pool.sessionCount + 1 := by
  have setTx : ∀ (base : SessionPool) (ref s : Nat) (seq : Int),
      ((base.setSeq ref seq).objects s).txQ = (base.objects s).txQ := by
    intro base ref s seq
    rw [set_seq_objects]
    split_ifs with here
    · rw [here]
      rfl
    · rfl
  unfold synPool
  rcases get_or_create_cases pool f.sessionId f.flags f.target now with ⟨ref, _, same⟩ |
    ⟨missing, made⟩
  · rw [same]
    exact ⟨found, setTx _ _ _ _, tx_within_of_same (fun _ _ present => present)
      (fun _ s _ => setTx _ _ s _), Nat.le_succ _⟩
  · rw [made]
    have keyed := get_keyed found
    have different : sid ≠ f.sessionId := by
      rintro rfl
      rw [missing] at found
      cases found
    have older : ∀ s < pool.fresh,
        ((pool.insert f.sessionId f.flags f.target now missing).objects s).txQ =
          (pool.objects s).txQ := by
      intro s bound
      rw [insert_objects, if_neg (Nat.ne_of_lt bound)]
    refine ⟨?_, (setTx _ _ _ _).trans (older r keyed.1), ?_, ?_⟩
    · exact (OrderedDict.get_insert_new_of_ne _ _ _ _ (fresh_key missing) different).trans found
    · intro key s present g member
      rw [setTx] at member
      by_cases new : key = f.sessionId
      · have created : (pool.insert f.sessionId f.flags f.target now missing).get key =
            some pool.fresh := by
          rw [new]
          exact OrderedDict.get_insert_new_self _ _ _ (fresh_key missing)
        cases created.symm.trans present
        rw [insert_objects, if_pos rfl] at member
        cases member
      · have before : pool.get key = some s :=
          (OrderedDict.get_insert_new_of_ne _ _ _ _ (fresh_key missing) new).symm.trans present
        rw [older s (get_keyed before).1] at member
        exact ⟨before, member⟩
    · exact Nat.le_of_eq List.length_append

theorem dispatch_admitted (locked : Bool) (now : ℚ) {state : Dispatch} {f : Frame}
    (found : state.pool.get sid = some r) (flags : ClientFlags f) :
    Admitted sid r 1 state (dispatchFrame locked now state f) := by
  have plain : f.flags = 0 ∨ f.flags = FlagFIN →
      Admitted sid r 1 state (dispatchFrame locked now state f) := by
    intro flags
    rw [dispatch_plain locked now flags]
    have dict := dispatch_response_dict now state.pool f
    have gets : ∀ key, (dispatchResponseFrame now state.pool f).get key = state.pool.get key :=
      fun key => by rw [SessionPool.get, dict]; rfl
    refine ⟨(gets sid).trans found, dispatch_response_tx now state.pool f r,
      tx_within_of_same (fun key s present => (gets key).symm.trans present)
        (fun _ s _ => dispatch_response_tx now state.pool f s), ?_, Nat.le_succ _⟩
    dsimp only
    rw [sessionCount, dict]
    exact Nat.le_succ _
  rcases flags with zero | syn | fin
  · exact plain (.inl zero)
  · obtain ⟨get, tx, within, sessions⟩ := syn_pool_admits f now found
    have pool := (@dispatch_syn locked now state f syn).1
    refine ⟨?_, ?_, ?_, ?_, ?_⟩
    · rw [pool]
      exact get
    · rw [pool]
      exact tx
    · rw [pool]
      exact within
    · rw [pool]
      exact sessions
    · have isSyn : f.hasFlag FlagSYN = true := by
        rw [Frame.hasFlag, syn]
        rfl
      rw [dispatchFrame, if_pos isSyn]
      cases locked with
      | true => exact Nat.le_of_eq List.length_append
      | false => exact Nat.le_succ _
  · exact plain (.inr fin)

theorem dispatch_all_admitted (locked : Bool) (now : ℚ) {state : Dispatch} {frames : List Frame}
    (found : state.pool.get sid = some r) (flags : ∀ f ∈ frames, ClientFlags f) :
    Admitted sid r frames.length state (frames.foldl (dispatchFrame locked now) state) := by
  induction frames generalizing state with
  | nil => exact Admitted.refl found
  | cons f rest ih =>
      have one := dispatch_admitted locked now found (flags f List.mem_cons_self)
      have later := ih one.get fun g member => flags g (List.mem_cons_of_mem f member)
      rw [List.length_cons, Nat.add_comm]
      exact one.trans later

/-- The refusals of a batch are busy frames for its own sessions. -/
theorem dispatch_ships (locked : Bool) (now : ℚ) {pool : SessionPool} {frames : List Frame}
    (ids : ∀ f ∈ frames, f.sessionId.length = SessionIDLen) :
    ∀ f ∈ (dispatchFrames locked now pool frames).responseFrames, Shippable f := by
  have all : ∀ (rest : List Frame) (state : Dispatch),
      (∀ f ∈ rest, f.sessionId.length = SessionIDLen) →
      (∀ f ∈ state.responseFrames, Shippable f) →
        ∀ f ∈ (rest.foldl (dispatchFrame locked now) state).responseFrames, Shippable f := by
    intro rest
    induction rest with
    | nil => exact fun _ _ before => before
    | cons g rest ih =>
        intro state lengths before
        apply ih _ fun f member => lengths f (List.mem_cons_of_mem g member)
        unfold dispatchFrame
        split_ifs
        · intro f member
          rcases List.mem_append.mp member with old | new
          · exact before f old
          · rw [List.mem_singleton.mp new]
            exact busy_frame_ships (lengths g List.mem_cons_self)
        · exact before
        · cases state.pool.get g.sessionId <;> exact before
        · cases state.pool.get g.sessionId <;> exact before
        · exact before
        · cases state.pool.get g.sessionId <;> exact before
        · exact before
  exact all frames _ ids nofun

end Admit

section Garbage

variable {sid : Bytes} {r : Nat}

/-- A garbage collection spares a session with something queued. -/
theorem garbage_spares {pool : SessionPool} (poll : Poll) (found : pool.get sid = some r)
    (queued : (pool.objects r).txQ ≠ []) : (collectGarbage pool poll).1.get sid = some r := by
  refine collect_garbage_preserves (P := fun start => start.get sid = some r)
    (fun start entry listed present => ?_) found
  obtain ⟨member, expired⟩ := List.mem_filter.mp listed
  have different : sid ≠ entry.1 := by
    intro same
    have here : pool.get entry.1 = some entry.2 :=
      (OrderedDict.get_eq_some_iff _ _ _).mpr member
    rw [← same, found] at here
    cases here
    simp only [isExpired, Bool.and_eq_true, List.isEmpty_iff] at expired
    exact queued expired.2
  exact (OrderedDict.get_erase_of_ne _ _ _ different).trans present

theorem garbage_within (pool : SessionPool) (poll : Poll) :
    TxWithin pool (collectGarbage pool poll).1 := by
  have kept := garbage_kept pool poll
  exact tx_within_of_same kept.1.get fun _ s _ => kept.2 s

end Garbage

section Round

variable {sid : Bytes} {r : Nat} {pool : SessionPool}

/-- What a round hands out of a session that is in the dictionary. -/
structure HandedOut (sid : Bytes) (r : Nat) (before : SessionPool) (collected : List Frame)
    (after : SessionPool) (frames : List Frame) : Prop where
  get : after.get sid = some r
  tx : (after.objects r).txQ = (before.objects r).txQ.drop pollDrainLimit
  front : sessionFrames sid frames =
    sessionFrames sid collected ++ (before.objects r).txQ.take pollDrainLimit
  sources : ∀ f ∈ frames, f ∈ collected ∨
    ∃ key s, before.get key = some s ∧ f ∈ (before.objects s).txQ
  within : TxWithin before after
  sessions : after.sessionCount = before.sessionCount
  count : frames.length ≤ collected.length + pollDrainLimit * before.sessionCount

theorem scan_hands_out (own : pool.Holds OwnFrame AnyFrame) (found : pool.get sid = some r)
    (collected : List Frame) :
    HandedOut sid r pool collected (scanSessions pool collected).pool
      (scanSessions pool collected).responseFrames := by
  have listed := snapshot_of_get found
  have only : ∀ s ∈ pool.snapshotAll, (pool.objects s).sessionId = sid → s = r := by
    intro s member same
    have present := get_of_snapshot member
    rw [same, found] at present
    exact (Option.some.inj present).symm
  have after : ((scanSessions pool collected).pool.objects r).txQ =
      (pool.objects r).txQ.drop pollDrainLimit := by
    rw [scan_objects, if_pos listed, scanned_tx_q]
  have gets : ∀ key, (scanSessions pool collected).pool.get key = pool.get key := by
    intro key
    rw [SessionPool.get, scan_sessions_dict]
    rfl
  refine ⟨(gets sid).trans found, after, ?_, ?_, ?_, ?_, ?_⟩
  · have moved := scan_session own (get_keyed found).2 only collected
    rw [after] at moved
    have whole : sessionFrames sid collected ++ (pool.objects r).txQ =
        sessionFrames sid collected ++ (pool.objects r).txQ.take pollDrainLimit ++
          (pool.objects r).txQ.drop pollDrainLimit := by
      rw [List.append_assoc, List.take_append_drop]
    exact List.append_cancel_right (moved.trans whole)
  · intro f member
    rw [scan_response_frames] at member
    rcases List.mem_append.mp member with old | new
    · exact .inl old
    · obtain ⟨s, present, taken⟩ := List.mem_flatMap.mp new
      exact .inr ⟨_, s, get_of_snapshot present, List.mem_of_mem_take taken⟩
  · intro key s present f member
    rw [gets] at present
    rw [scan_objects, if_pos (snapshot_of_get present), scanned_tx_q] at member
    exact ⟨present, List.mem_of_mem_drop member⟩
  · rw [sessionCount, scan_sessions_dict]
    rfl
  · rw [scan_response_frames, List.length_append, List.length_flatMap]
    apply Nat.add_le_add_left
    have each : ∀ n ∈ pool.snapshotAll.map
        (fun s => ((pool.objects s).txQ.take pollDrainLimit).length), n ≤ pollDrainLimit := by
      intro n member
      obtain ⟨s, _, rfl⟩ := List.mem_map.mp member
      exact List.length_take_le _ _
    have total := List.sum_le_card_nsmul _ _ each
    rw [List.length_map, snapshot_length] at total
    exact total.trans (Nat.le_of_eq (Nat.mul_comm _ _))

/-- A round before the deadline, of a pool with a queued frame, is the last one. -/
theorem round_hands_out (found : pool.get sid = some r)
    (queued : (pool.objects r).txQ ≠ []) {poll : Poll} {atCheck : ℚ} (afterScan : ℚ)
    (early : atCheck < poll.waitDeadline) :
    pollRound pool poll atCheck afterScan =
        ((scanSessions pool poll.responseFrames).pool,
          .answered (scanSessions pool poll.responseFrames).responseFrames) := by
  have something : ¬ NothingQueued pool := fun nothing => queued (nothing r (snapshot_of_get found))
  exact poll_round_found afterScan (not_le.mpr early)
    (scan_something something poll.responseFrames).1

end Round

/-- Everything queued for the client can stand in a response. -/
def QueuesShip (pool : SessionPool) : Prop :=
  ∀ s ∈ pool.snapshotAll, ∀ f ∈ (pool.objects s).txQ, Shippable f

instance (pool : SessionPool) : Decidable (QueuesShip pool) :=
  inferInstanceAs (Decidable (∀ s ∈ pool.snapshotAll, ∀ f ∈ (pool.objects s).txQ, Shippable f))

theorem QueuesShip.within {before after : SessionPool} (ships : QueuesShip before)
    (within : TxWithin before after) : QueuesShip after := by
  intro s member f queued
  obtain ⟨present, earlier⟩ := within _ s (get_of_snapshot member) f queued
  exact ships s (snapshot_of_get present) f earlier

/-- A step of the server that answered: the front of the session's queue is in
the reply, after the refusals of at most `extra` frames. -/
structure Served (sid : Bytes) (r extra : Nat) (before after : ExitServer) (reply : Reply) :
    Prop where
  get : after.pool.get sid = some r
  tx : (after.pool.objects r).txQ = (before.pool.objects r).txQ.drop pollDrainLimit
  front : ∃ early, sessionFrames sid reply.frames =
    early ++ (before.pool.objects r).txQ.take pollDrainLimit
  ships : ∀ f ∈ reply.frames, Shippable f
  queues : QueuesShip after.pool
  sessions : after.pool.sessionCount ≤ before.pool.sessionCount + extra
  count : reply.frames.length ≤ 9 * (before.pool.sessionCount + extra)

section Serve

variable {sid : Bytes} {r : Nat} {server : ExitServer}

/-- The last round, after what came before it in the same step. -/
theorem handed_served {extra request : Nat} {clientId : Bytes} {pool : SessionPool} {poll : Poll}
    {after : ExitServer} (own : pool.Holds OwnFrame AnyFrame) (found : pool.get sid = some r)
    (tx : (pool.objects r).txQ = (server.pool.objects r).txQ) (queues : QueuesShip pool)
    (collected : ∀ f ∈ poll.responseFrames, Shippable f)
    (sessions : pool.sessionCount ≤ server.pool.sessionCount + extra)
    (refused : poll.responseFrames.length ≤ extra)
    (later : after.pool = (scanSessions pool poll.responseFrames).pool) :
    Served sid r extra server after
      ⟨request, clientId, (scanSessions pool poll.responseFrames).responseFrames⟩ := by
  have handed := scan_hands_out own found poll.responseFrames
  have limit : pollDrainLimit = 8 := rfl
  refine ⟨?_, ?_, ⟨sessionFrames sid poll.responseFrames, ?_⟩, ?_, ?_, ?_, ?_⟩
  · rw [later]
    exact handed.get
  · rw [later, handed.tx, tx]
  · rw [← tx]
    exact handed.front
  · intro f member
    rcases handed.sources f member with old | ⟨key, s, present, queued⟩
    · exact collected f old
    · exact queues s (snapshot_of_get present) f queued
  · rw [later]
    exact queues.within handed.within
  · rw [later, handed.sessions]
    exact sessions
  · have count := handed.count
    rw [limit] at count
    exact count.trans (by omega)

/-- A batch that arrives while the session has something queued. -/
theorem post_served {frames : List Frame} (own : server.pool.Holds OwnFrame AnyFrame)
    (queues : QueuesShip server.pool) (found : server.pool.get sid = some r)
    (queued : (server.pool.objects r).txQ ≠ []) (flags : ∀ f ∈ frames, ClientFlags f)
    (ids : ∀ f ∈ frames, f.sessionId.length = SessionIDLen) (request : Nat) (clientId : Bytes)
    (now : ℚ) :
    ∃ after collected,
      server.react (.post request clientId frames now now now) =
        some (after, some ⟨request, clientId, collected⟩) ∧
      after.polls = server.polls ∧
      Served sid r frames.length server after ⟨request, clientId, collected⟩ := by
  let dispatch := dispatchFrames server.locked now server.pool frames
  let poll := startPoll clientId dispatch.responseFrames now
  have admitted : Admitted sid r frames.length (startDispatch server.pool) dispatch :=
    dispatch_all_admitted server.locked now found flags
  have tx : (dispatch.pool.objects r).txQ = (server.pool.objects r).txQ := admitted.tx
  have dispatched : dispatch.pool.Holds OwnFrame AnyFrame :=
    (dispatch_frames_holds server.locked now own (fun _ _ => trivial) fun _ _ _ => rfl).1
  have still : (dispatch.pool.objects r).txQ ≠ [] := by
    rw [tx]
    exact queued
  have early : now < poll.waitDeadline := by
    have window : (0 : ℚ) < LongPollWindow := by
      rw [LongPollWindow]
      norm_num
    exact lt_add_of_pos_right now window
  have round := round_hands_out admitted.get still now early
  have refused : poll.responseFrames.length ≤ frames.length :=
    admitted.replies.trans (Nat.le_of_eq (Nat.zero_add _))
  refine ⟨{ (server.accept frames now).1 with
    pool := (scanSessions dispatch.pool poll.responseFrames).pool },
    (scanSessions dispatch.pool poll.responseFrames).responseFrames, ?_, rfl, ?_⟩
  · have first : server.firstRound clientId frames now now now =
        ((scanSessions dispatch.pool poll.responseFrames).pool,
          .answered (scanSessions dispatch.pool poll.responseFrames).responseFrames) := round
    have reacted : server.react (.post request clientId frames now now now) =
        some ((server.accept frames now).1.settle request clientId
          (server.firstRound clientId frames now now now)) := rfl
    rw [reacted, first]
    rfl
  · exact handed_served dispatched admitted.get tx (queues.within admitted.within)
      (dispatch_ships server.locked now ids) admitted.sessions refused rfl

/-- A sleeping handler that wakes up while the session has something queued. -/
theorem poll_served {index request : Nat} {poll : Poll}
    (own : server.pool.Holds OwnFrame AnyFrame) (queues : QueuesShip server.pool)
    (found : server.pool.get sid = some r) (queued : (server.pool.objects r).txQ ≠ [])
    (asleep : server.polls[index]? = some (request, poll)) (quiet : poll.responseFrames = [])
    {now : ℚ} (early : now < poll.waitDeadline) :
    ∃ after collected,
      server.react (.resume index now now) =
        some (after, some ⟨request, poll.clientId, collected⟩) ∧
      after.polls = server.polls.eraseIdx index ∧
      Served sid r 0 server after ⟨request, poll.clientId, collected⟩ := by
  have present := garbage_spares poll found queued
  have kept := garbage_kept server.pool poll
  let pool := (collectGarbage server.pool poll).1
  let awake := (collectGarbage server.pool poll).2
  have still : (pool.objects r).txQ ≠ [] := by
    rw [kept.2]
    exact queued
  have nothing : awake.responseFrames = [] :=
    (collect_garbage_frames server.pool poll).trans quiet
  have deadline : awake.waitDeadline = poll.waitDeadline := by
    simp only [awake, collect_garbage_poll, after_gc_deadline]
  have round := round_hands_out present still now (deadline ▸ early)
  refine ⟨{ server with
    polls := server.polls.eraseIdx index
    pool := (scanSessions pool awake.responseFrames).pool },
    (scanSessions pool awake.responseFrames).responseFrames, ?_, rfl, ?_⟩
  · have resumed : resumePoll server.pool poll now now =
        ((scanSessions pool awake.responseFrames).pool,
          .answered (scanSessions pool awake.responseFrames).responseFrames) := round
    simp only [ExitServer.react, asleep, resumed, ExitServer.settle]
  · exact handed_served (own.garbage poll) present (kept.2 r)
      (queues.within (garbage_within server.pool poll)) (nothing ▸ List.forall_mem_nil _)
      (collect_garbage_count server.pool poll)
      (Nat.le_of_eq (congrArg List.length nothing)) rfl

end Serve

end Astrix
