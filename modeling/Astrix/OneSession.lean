import Astrix.ClientQueues
import Astrix.ServerQueues

/-!
# What the operations do to one session

Most operations of a pool touch one session. Seen from another session id they
change nothing, and seen from the id itself they append to a queue, take its
front or drop the dictionary entry.
-/

namespace Astrix

open PyRuntime

set_option autoImplicit false

namespace SessionPool

/-- Nothing happened to the sessions with this id. -/
structure Elsewhere (sid : Bytes) (before after : SessionPool) : Prop where
  fresh : before.fresh ≤ after.fresh
  get : after.get sid = before.get sid
  object : ∀ r < before.fresh, (before.objects r).sessionId = sid →
    after.objects r = before.objects r
  only : ∀ r < after.fresh, (after.objects r).sessionId = sid →
    r < before.fresh ∧ (before.objects r).sessionId = sid

variable {sid : Bytes}

theorem Elsewhere.refl (sid : Bytes) (pool : SessionPool) : Elsewhere sid pool pool :=
  ⟨Nat.le_refl _, rfl, fun _ _ _ => rfl, fun _ bound same => ⟨bound, same⟩⟩

theorem Elsewhere.trans {first second third : SessionPool} (one : Elsewhere sid first second)
    (two : Elsewhere sid second third) : Elsewhere sid first third where
  fresh := one.fresh.trans two.fresh
  get := two.get.trans one.get
  object r bound same := by
    have middle := one.object r bound same
    have sameMiddle : (second.objects r).sessionId = sid := by
      rw [middle]
      exact same
    exact (two.object r (bound.trans_le one.fresh) sameMiddle).trans middle
  only r bound same := by
    have middle := two.only r bound same
    exact one.only r middle.1 middle.2

theorem elsewhere_modify {pool : SessionPool} {ref : Nat} {change : Session → Session}
    {sameId : ∀ s, (change s).sessionId = s.sessionId}
    (other : (pool.objects ref).sessionId ≠ sid) :
    Elsewhere sid pool (pool.modify ref change sameId) where
  fresh := Nat.le_refl _
  get := rfl
  object r _ same := by
    apply modify_objects_of_ne
    rintro rfl
    exact other same
  only r bound same := by
    rw [modify_session_id] at same
    exact ⟨bound, same⟩

theorem elsewhere_enqueue_tx {pool : SessionPool} {ref : Nat} (frame : Frame) (now : ℚ)
    (other : (pool.objects ref).sessionId ≠ sid) :
    Elsewhere sid pool (pool.enqueueTx ref frame now) := elsewhere_modify other

theorem elsewhere_enqueue_rx {pool : SessionPool} {ref : Nat} (frame : Frame) (now : ℚ)
    (other : (pool.objects ref).sessionId ≠ sid) :
    Elsewhere sid pool (pool.enqueueRx ref frame now) := elsewhere_modify other

theorem elsewhere_set_seq {pool : SessionPool} {ref : Nat} (seq : Int)
    (other : (pool.objects ref).sessionId ≠ sid) :
    Elsewhere sid pool (pool.setSeq ref seq) := elsewhere_modify other

theorem elsewhere_insert {pool : SessionPool} {other : Bytes} (flags : Nat) (target : Text)
    (now : ℚ) (missing : pool.get other = none) (different : sid ≠ other) :
    Elsewhere sid pool (pool.insert other flags target now missing) where
  fresh := Nat.le_succ _
  get := OrderedDict.get_insert_new_of_ne _ _ _ _ (fresh_key missing) different
  object r bound _ := by
    rw [insert_objects, if_neg (Nat.ne_of_lt bound)]
  only r bound same := by
    rw [insert_objects] at same
    split_ifs at same with here
    · exact absurd same.symm different
    · have limit : r < pool.fresh + 1 := bound
      exact ⟨by omega, same⟩

theorem elsewhere_get_or_create {pool : SessionPool} {other : Bytes} (flags : Nat)
    (target : Text) (now : ℚ) (different : sid ≠ other) :
    Elsewhere sid pool (pool.getOrCreate other flags target now).1 := by
  rcases get_or_create_cases pool other flags target now with ⟨ref, _, same⟩ | ⟨missing, made⟩
  · rw [same]
    exact Elsewhere.refl _ _
  · rw [made]
    exact elsewhere_insert flags target now missing different

end SessionPool

open SessionPool

section Receive

variable {pool : SessionPool} {sid : Bytes} {f : Frame} {now : ℚ}

theorem elsewhere_dispatch_response (different : f.sessionId ≠ sid) :
    Elsewhere sid pool (dispatchResponseFrame now pool f) := by
  unfold dispatchResponseFrame
  cases found : pool.get f.sessionId with
  | none => exact Elsewhere.refl _ _
  | some s =>
      apply elsewhere_enqueue_rx
      rw [(get_keyed found).2]
      exact different

/-- A frame for the session goes to the end of its receive queue. -/
theorem dispatch_response_own {ref : Nat} (found : pool.get sid = some ref)
    (own : f.sessionId = sid) :
    dispatchResponseFrame now pool f = pool.enqueueRx ref f now := by
  unfold dispatchResponseFrame
  rw [own, found]

theorem dispatch_response_missing (missing : pool.get f.sessionId = none) :
    dispatchResponseFrame now pool f = pool := by
  unfold dispatchResponseFrame
  rw [missing]

theorem session_frames_cons_own {rest : List Frame} (own : f.sessionId = sid) :
    sessionFrames sid (f :: rest) = f :: sessionFrames sid rest :=
  List.filter_cons_of_pos (decide_eq_true own)

theorem session_frames_cons_other {rest : List Frame} (other : f.sessionId ≠ sid) :
    sessionFrames sid (f :: rest) = sessionFrames sid rest :=
  List.filter_cons_of_neg fun same => other (of_decide_eq_true same)

/-- A response adds the session's frames to its receive queue, in order. -/
theorem dispatch_response_session {frames : List Frame} {ref : Nat}
    (found : pool.get sid = some ref) :
    (dispatchResponseFrames pool now frames).get sid = some ref ∧
      ((dispatchResponseFrames pool now frames).objects ref).rxQ =
        (pool.objects ref).rxQ ++ sessionFrames sid frames ∧
      ((dispatchResponseFrames pool now frames).objects ref).txQ = (pool.objects ref).txQ := by
  induction frames generalizing pool with
  | nil => exact ⟨found, (List.append_nil _).symm, rfl⟩
  | cons f rest ih =>
      have keyed := get_keyed found
      have step : dispatchResponseFrames pool now (f :: rest) =
          dispatchResponseFrames (dispatchResponseFrame now pool f) now rest := rfl
      rw [step]
      by_cases own : f.sessionId = sid
      · rw [dispatch_response_own found own, session_frames_cons_own own]
        have queue : ((pool.enqueueRx ref f now).objects ref).rxQ =
            (pool.objects ref).rxQ ++ [f] := by
          rw [enqueue_rx_objects, if_pos rfl]
          rfl
        have unsent : ((pool.enqueueRx ref f now).objects ref).txQ = (pool.objects ref).txQ := by
          rw [enqueue_rx_objects, if_pos rfl]
          rfl
        obtain ⟨present, received, sent⟩ := @ih (pool.enqueueRx ref f now) found
        refine ⟨present, ?_, sent.trans unsent⟩
        rw [received, queue, List.append_assoc, List.singleton_append]
      · have aside := @elsewhere_dispatch_response pool sid f now own
        rw [session_frames_cons_other own]
        obtain ⟨present, received, sent⟩ := ih (aside.get.trans found)
        rw [aside.object ref keyed.1 keyed.2] at received sent
        exact ⟨present, received, sent⟩

end Receive

/-- A drain of a pool without the session takes none of its frames. -/
theorem drain_all_missing {pool : SessionPool} {sid : Bytes} (own : OwnQueues pool)
    (missing : pool.get sid = none) (batchSize workerId : Nat) (now : ℚ) :
    sessionFrames sid (drainAll pool batchSize workerId now).frames = [] := by
  apply session_frames_none
  rintro f member rfl
  obtain ⟨visited, listed, same⟩ := (drain_all_holds own batchSize workerId now).2 f member
  have key : visited ∈ pool.sessions.keys := (strided_sublist _ _ _).subset listed
  rw [← same] at key
  exact fresh_key missing key

section Rounds

/-- Receive queues and ids are as before; entries may have gone. -/
structure Kept (before after : SessionPool) : Prop where
  fresh : after.fresh = before.fresh
  ids : ∀ r, (after.objects r).sessionId = (before.objects r).sessionId
  rx : ∀ r, (after.objects r).rxQ = (before.objects r).rxQ
  get : ∀ sid r, after.get sid = some r → before.get sid = some r

theorem Kept.refl (pool : SessionPool) : Kept pool pool :=
  ⟨rfl, fun _ => rfl, fun _ => rfl, fun _ _ found => found⟩

theorem Kept.trans {first second third : SessionPool} (one : Kept first second)
    (two : Kept second third) : Kept first third where
  fresh := two.fresh.trans one.fresh
  ids r := (two.ids r).trans (one.ids r)
  rx r := (two.rx r).trans (one.rx r)
  get sid r found := one.get sid r (two.get sid r found)

theorem purge_objects (pool : SessionPool) (entry : Bytes × Nat) (r : Nat) :
    (pool.purge entry).objects r =
      if r = entry.2 then (pool.objects entry.2).wakeBoth else pool.objects r :=
  modify_objects _ _ _ _ _

theorem kept_purge (pool : SessionPool) (entry : Bytes × Nat) : Kept pool (pool.purge entry) where
  fresh := rfl
  ids r := modify_session_id _ _ _ _ _
  rx r := by
    rw [purge_objects]
    split_ifs with here
    · rw [here]
      rfl
    · rfl
  get _ _ found := get_remove_some found

theorem purge_tx (pool : SessionPool) (entry : Bytes × Nat) (r : Nat) :
    ((pool.purge entry).objects r).txQ = (pool.objects r).txQ :=
  modify_tx (pool.remove entry.1) entry.2 r _ _ fun _ => rfl

theorem cleanup_tx (pool : SessionPool) (timeout now : ℚ) (r : Nat) :
    ((pool.cleanupExpired timeout now).1.objects r).txQ = (pool.objects r).txQ :=
  cleanup_preserves (P := fun start => (start.objects r).txQ = (pool.objects r).txQ)
    (fun start entry _ same => (purge_tx start entry r).trans same) rfl

/-- A garbage collection drops entries; no queue changes. -/
theorem garbage_kept (pool : SessionPool) (poll : Poll) :
    Kept pool (collectGarbage pool poll).1 ∧
      ∀ r, ((collectGarbage pool poll).1.objects r).txQ = (pool.objects r).txQ := by
  constructor
  · exact collect_garbage_preserves
      (fun start entry _ kept => kept.trans (kept_purge start entry)) (Kept.refl pool)
  · intro r
    exact collect_garbage_preserves
      (P := fun start => (start.objects r).txQ = (pool.objects r).txQ)
      (fun start entry _ same => (purge_tx start entry r).trans same) rfl

theorem kept_scan (pool : SessionPool) (collected : List Frame) :
    Kept pool (scanSessions pool collected).pool where
  fresh := scan_fresh pool collected
  ids r := by
    rw [scan_objects]
    split_ifs
    · rw [scanned]
      split_ifs <;> rfl
    · rfl
  rx r := by
    rw [scan_objects]
    split_ifs
    · rw [scanned]
      split_ifs <;> rfl
    · rfl
  get sid r found := by
    rw [SessionPool.get, scan_sessions_dict] at found
    exact found

theorem kept_poll_round (pool : SessionPool) (poll : Poll) (atCheck afterScan : ℚ) :
    Kept pool (pollRound pool poll atCheck afterScan).1 := by
  simp only [pollRound]
  split_ifs
  · exact Kept.refl pool
  · exact kept_scan pool _
  · exact kept_scan pool _

theorem kept_resume_poll (pool : SessionPool) (poll : Poll) (atCheck afterScan : ℚ) :
    Kept pool (resumePoll pool poll atCheck afterScan).1 :=
  (garbage_kept pool poll).1.trans (kept_poll_round _ _ _ _)

end Rounds

section Scan

theorem flat_map_single {α β : Type} [DecidableEq α] {items : List α} {one : α}
    {parts : α → List β} (distinct : items.Nodup)
    (others : ∀ item ∈ items, item ≠ one → parts item = []) :
    items.flatMap parts = if one ∈ items then parts one else [] := by
  induction items with
  | nil => rfl
  | cons item rest ih =>
      obtain ⟨absent, restDistinct⟩ := List.nodup_cons.mp distinct
      have later := ih restDistinct fun other member => others other (List.mem_cons_of_mem _ member)
      rw [List.flatMap_cons, later]
      by_cases here : item = one
      · subst here
        rw [if_neg absent, if_pos List.mem_cons_self, List.append_nil]
      · rw [others item List.mem_cons_self here, List.nil_append]
        simp [Ne.symm here]

variable {sid : Bytes} {r : Nat} {pool : SessionPool}

/-- What a scan takes of the session is the front of its queue. -/
theorem scan_session (own : pool.Holds OwnFrame AnyFrame) (id : (pool.objects r).sessionId = sid)
    (only : ∀ s ∈ pool.snapshotAll, (pool.objects s).sessionId = sid → s = r)
    (collected : List Frame) :
    sessionFrames sid (scanSessions pool collected).responseFrames ++
        ((scanSessions pool collected).pool.objects r).txQ =
      sessionFrames sid collected ++ (pool.objects r).txQ := by
  have taken : sessionFrames sid
      (pool.snapshotAll.flatMap fun s => (pool.objects s).txQ.take pollDrainLimit) =
        if r ∈ pool.snapshotAll then (pool.objects r).txQ.take pollDrainLimit else [] := by
    have ownFront : ∀ s, ∀ f ∈ (pool.objects s).txQ.take pollDrainLimit,
        f.sessionId = (pool.objects s).sessionId :=
      fun s f member => own.tx s f (List.mem_of_mem_take member)
    have mine : sessionFrames sid ((pool.objects r).txQ.take pollDrainLimit) =
        (pool.objects r).txQ.take pollDrainLimit := by
      apply session_frames_all
      intro f member
      rw [ownFront r f member, id]
    have parts : sessionFrames sid
        (pool.snapshotAll.flatMap fun s => (pool.objects s).txQ.take pollDrainLimit) =
          pool.snapshotAll.flatMap fun s =>
            sessionFrames sid ((pool.objects s).txQ.take pollDrainLimit) := by
      simp [sessionFrames, List.filter_flatMap]
    rw [parts, flat_map_single pool.snapshot_nodup, mine]
    intro s member other
    apply session_frames_none
    intro f queued same
    rw [ownFront s f queued] at same
    exact other (only s member same)
  rw [scan_response_frames, session_frames_append, taken, scan_objects, List.append_assoc]
  split_ifs
  · rw [scanned_tx_q, List.take_append_drop]
  · rw [List.nil_append]

/-- A round of the poll hands out what it had and what it scanned, or nothing. -/
theorem poll_round_cases (pool : SessionPool) (poll : Poll) (atCheck afterScan : ℚ) :
    ((pollRound pool poll atCheck afterScan).1 = pool ∧
        (pollRound pool poll atCheck afterScan).2.frames = poll.responseFrames) ∨
      ((pollRound pool poll atCheck afterScan).1 =
          (scanSessions pool poll.responseFrames).pool ∧
        (pollRound pool poll atCheck afterScan).2.frames =
          (scanSessions pool poll.responseFrames).responseFrames) := by
  simp only [pollRound]
  split_ifs with ended found
  · exact .inl ⟨rfl, rfl⟩
  · exact .inr ⟨rfl, rfl⟩
  · have nothing : (scanSessions pool poll.responseFrames).responseFrames = [] := not_not.mp found
    have collected : poll.responseFrames = [] := by
      rw [scan_response_frames] at nothing
      exact (List.append_eq_nil_iff.mp nothing).1
    exact .inr ⟨rfl, collected.trans nothing.symm⟩

theorem poll_round_sessions (pool : SessionPool) (poll : Poll) (atCheck afterScan : ℚ) :
    (pollRound pool poll atCheck afterScan).1.sessions = pool.sessions := by
  rcases poll_round_cases pool poll atCheck afterScan with ⟨same, _⟩ | ⟨scans, _⟩
  · rw [same]
  · rw [scans, scan_sessions_dict]

/-- Sleeping handlers have collected nothing. -/
def QuietPolls (server : ExitServer) : Prop :=
  ∀ entry ∈ server.polls, entry.2.responseFrames = []

theorem poll_round_asleep {poll asleep : Poll} {atCheck afterScan sleepFor : ℚ}
    (outcome : (pollRound pool poll atCheck afterScan).2 = .asleep asleep sleepFor) :
    asleep.responseFrames = [] := by
  simp only [pollRound] at outcome
  split_ifs at outcome with ended found
  · have nothing : (scanSessions pool poll.responseFrames).responseFrames = [] := not_not.mp found
    rw [scan_response_frames] at nothing
    cases outcome
    exact (List.append_eq_nil_iff.mp nothing).1

theorem quiet_settle {server after : ExitServer} {reply : Option Reply} {request : Nat}
    {clientId : Bytes} {poll : Poll} {atCheck afterScan : ℚ} (quiet : QuietPolls server)
    (settled : server.settle request clientId (pollRound pool poll atCheck afterScan) =
      (after, reply)) : QuietPolls after := by
  generalize result : pollRound pool poll atCheck afterScan = outcome at settled
  obtain ⟨later, outcome⟩ := outcome
  cases outcome with
  | answered frames =>
      cases settled
      exact quiet
  | asleep asleep sleepFor =>
      cases settled
      intro entry member
      rcases List.mem_append.mp member with old | new
      · exact quiet entry old
      · rw [List.mem_singleton.mp new]
        exact poll_round_asleep (congrArg Prod.snd result)

theorem QuietPolls.react {server after : ExitServer} {action : ServerAction}
    {reply : Option Reply} (quiet : QuietPolls server)
    (reacted : server.react action = some (after, reply)) : QuietPolls after := by
  rcases ExitServer.react_cases reacted with
    ⟨request, clientId, frames, now, atCheck, afterScan, rfl, same⟩ |
    ⟨index, atCheck, afterScan, request, poll, rfl, found, same⟩ |
    ⟨index, act, w, w', effect, rfl, found, acted, rfl, rfl⟩
  · have still : QuietPolls (server.accept frames now).1 := quiet
    exact quiet_settle still same
  · have remaining : QuietPolls { server with polls := server.polls.eraseIdx index } :=
      fun entry member => quiet entry (List.mem_of_mem_eraseIdx member)
    exact quiet_settle remaining same
  · exact quiet

end Scan

/-- The frames that an act of a worker queues. -/
def UpstreamEffect.frames : UpstreamEffect → List Frame
  | .enqueueTx frame _ => [frame]
  | _ => []

section Effect

variable (pool : SessionPool) (session : Nat) (effect : UpstreamEffect)

theorem upstream_effect_get (sid : Bytes) :
    (effect.apply pool session).get sid = pool.get sid := by
  cases effect <;> rfl

theorem upstream_effect_fresh : (effect.apply pool session).fresh = pool.fresh := by
  cases effect <;> rfl

theorem upstream_effect_id (r : Nat) :
    ((effect.apply pool session).objects r).sessionId = (pool.objects r).sessionId := by
  cases effect with
  | nothing => rfl
  | enqueueTx frame now =>
      have same : ((pool.enqueueTx session frame now).objects r).sessionId =
          (pool.objects r).sessionId := modify_session_id _ _ _ _ _
      exact same
  | clearRxEvent =>
      have same : ((pool.clearRxEvent session).objects r).sessionId =
          (pool.objects r).sessionId := modify_session_id _ _ _ _ _
      exact same
  | popRx =>
      have same : ((pool.popRx session).objects r).sessionId =
          (pool.objects r).sessionId := modify_session_id _ _ _ _ _
      exact same

theorem upstream_effect_other {r : Nat} (other : r ≠ session) :
    (effect.apply pool session).objects r = pool.objects r := by
  cases effect with
  | nothing => rfl
  | enqueueTx frame now =>
      have same : (pool.enqueueTx session frame now).objects r = pool.objects r := by
        rw [enqueue_tx_objects, if_neg other]
      exact same
  | clearRxEvent =>
      have same : (pool.clearRxEvent session).objects r = pool.objects r := by
        rw [clear_rx_event_objects, if_neg other]
      exact same
  | popRx =>
      have same : (pool.popRx session).objects r = pool.objects r := by
        rw [pop_rx_objects, if_neg other]
      exact same

theorem upstream_effect_tx : ((effect.apply pool session).objects session).txQ =
    (pool.objects session).txQ ++ effect.frames := by
  cases effect with
  | nothing => exact (List.append_nil _).symm
  | enqueueTx frame now =>
      have queued : ((pool.enqueueTx session frame now).objects session).txQ =
          (pool.objects session).txQ ++ [frame] := by
        rw [enqueue_tx_objects, if_pos rfl]
        rfl
      exact queued
  | clearRxEvent =>
      have same : ((pool.clearRxEvent session).objects session).txQ =
          (pool.objects session).txQ := by
        rw [clear_rx_event_objects, if_pos rfl]
        rfl
      exact same.trans (List.append_nil _).symm
  | popRx =>
      have same : ((pool.popRx session).objects session).txQ = (pool.objects session).txQ := by
        rw [pop_rx_objects, if_pos rfl]
        rfl
      exact same.trans (List.append_nil _).symm

theorem upstream_effect_rx : ((effect.apply pool session).objects session).rxQ =
    if effect = .popRx then (pool.objects session).rxQ.tail else (pool.objects session).rxQ := by
  cases effect with
  | nothing => rfl
  | enqueueTx frame now =>
      have same : ((pool.enqueueTx session frame now).objects session).rxQ =
          (pool.objects session).rxQ := by
        rw [enqueue_tx_objects, if_pos rfl]
        rfl
      exact same
  | clearRxEvent =>
      have same : ((pool.clearRxEvent session).objects session).rxQ =
          (pool.objects session).rxQ := by
        rw [clear_rx_event_objects, if_pos rfl]
        rfl
      exact same
  | popRx =>
      have popped : ((pool.popRx session).objects session).rxQ =
          (pool.objects session).rxQ.tail := by
        rw [pop_rx_objects, if_pos rfl]
        rfl
      exact popped

end Effect

end Astrix
