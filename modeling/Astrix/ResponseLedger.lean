import Astrix.Library.ReservedQueue
import Astrix.OneSession
import Astrix.ServerRuns
import Astrix.VirtualConn

/-!
# From the server's queues into its responses

A ledger of a run: the frames upstream workers put on session objects, every
call of `drain_tx_limited_txn` that a poll makes, and the answers with the calls
of the round that gave them. What was drained from a session, followed by what
is still queued on it, is what was ever put on its queue; and every drained
frame is in the answer of the round that drained it.
-/

namespace Astrix

open PyRuntime SessionPool

set_option autoImplicit false

/-- A call of `drain_tx_limited_txn`, with the session object the poll is at. -/
structure SessionDrain where
  session : Nat
  snapshot : DrainSnapshot

/-- The calls that a scan makes. -/
def drainCalls : Scan → List Nat → List SessionDrain
  | _, [] => []
  | scan, s :: rest =>
      (if (scan.pool.objects s).txQ ≠ [] then
        [⟨s, (scan.pool.drainTxLimitedTxn (scan.pool.objects s).sessionId pollDrainLimit).2⟩]
      else []) ++ drainCalls (scanSession scan s) rest

def pollCalls (pool : SessionPool) (poll : Poll) (atCheck : ℚ) : List SessionDrain :=
  if poll.waitDeadline - atCheck ≤ 0 then []
  else drainCalls ⟨pool, poll.responseFrames, coalesceWindowPoll⟩ pool.snapshotAll

namespace ExitServer

def calls (server : ExitServer) : ServerAction → List SessionDrain
  | .post _ clientId frames now atCheck _ =>
      let (server, responseFrames) := server.accept frames now
      pollCalls server.pool (startPoll clientId responseFrames now) atCheck
  | .resume index atCheck _ =>
      match server.polls[index]? with
      | some (_, poll) =>
          let (pool, poll) := collectGarbage server.pool poll
          pollCalls pool poll atCheck
      | none => []
  | .worker _ _ => []

/-- The session objects with the frames that an action queues on them. -/
def enqueues (server : ExitServer) : ServerAction → List (Nat × Frame)
  | .worker index act =>
      match server.workers[index]? with
      | some w =>
          match w.act (server.pool.objects w.session) act with
          | some (_, effect) => effect.frames.map fun frame => (w.session, frame)
          | none => []
      | none => []
  | _ => []

/-- The frames a handler puts into its response while it dispatches. -/
def refusals (server : ExitServer) : ServerAction → List Frame
  | .post _ _ frames now _ _ => (server.accept frames now).2
  | _ => []

end ExitServer

/-- A reply, with what its handler had collected before its last round and the
calls of that round. -/
structure AnsweredRound where
  reply : Reply
  refused : List Frame
  calls : List SessionDrain

structure ResponseLedger where
  server : ExitServer
  enqueued : List (Nat × Frame)
  calls : List SessionDrain
  answers : List AnsweredRound

namespace ResponseLedger

def start : ResponseLedger where
  server := ExitServer.new
  enqueued := []
  calls := []
  answers := []

def step (ledger : ResponseLedger) (action : ServerAction) : Option ResponseLedger :=
  (ledger.server.react action).map fun (server, reply) =>
    { server := server
      enqueued := ledger.enqueued ++ ledger.server.enqueues action
      calls := ledger.calls ++ ledger.server.calls action
      answers := ledger.answers ++ reply.toList.map fun reply =>
        ⟨reply, ledger.server.refusals action, ledger.server.calls action⟩ }

end ResponseLedger

def ledgerMachine : StepMachine ResponseLedger ServerAction := ⟨ResponseLedger.step⟩

def drainedFrom (r : Nat) (calls : List SessionDrain) : List Frame :=
  (calls.filter fun call => call.session = r).flatMap fun call => call.snapshot.frames

def drainedFrames (calls : List SessionDrain) : List Frame :=
  calls.flatMap fun call => call.snapshot.frames

@[simp] theorem drained_from_append (r : Nat) (calls more : List SessionDrain) :
    drainedFrom r (calls ++ more) = drainedFrom r calls ++ drainedFrom r more := by
  simp [drainedFrom]

/-- An answer holds what its handler had collected and what the last round
drained, at most eight frames of any session. -/
structure AnswerSound (answer : AnsweredRound) : Prop where
  frames : answer.reply.frames = answer.refused ++ drainedFrames answer.calls
  refused : ∀ frame ∈ answer.refused, ∃ sid, frame = busyFrame sid
  once : (answer.calls.map SessionDrain.session).Nodup
  limit : ∀ call ∈ answer.calls, call.snapshot.frames.length ≤ 8

section Calls

/-- The call that a scan makes at a session with frames. -/
def callAt (pool : SessionPool) (s : Nat) : SessionDrain where
  session := s
  snapshot :=
    let frames := (pool.objects s).txQ.take pollDrainLimit
    ⟨(pool.objects s).sessionId, frames, frames.length, totalPayload frames⟩

theorem call_at_keyed {pool : SessionPool} {s : Nat}
    (keyed : pool.get (pool.objects s).sessionId = some s) (queued : (pool.objects s).txQ ≠ []) :
    (pool.drainTxLimitedTxn (pool.objects s).sessionId pollDrainLimit).2 =
      (callAt pool s).snapshot := by
  simp only [drainTxLimitedTxn, keyed, queued, if_false, callAt]

/-- A scan calls for every session with frames, and each call sees the queue as
it was when the scan began. -/
theorem drain_calls_eq {refs : List Nat} (distinct : refs.Nodup) {scan : Scan}
    (keyed : ∀ s ∈ refs, scan.pool.get (scan.pool.objects s).sessionId = some s) :
    drainCalls scan refs =
      (refs.filter fun s => (scan.pool.objects s).txQ ≠ []).map (callAt scan.pool) := by
  induction refs generalizing scan with
  | nil => rfl
  | cons s rest ih =>
      obtain ⟨untouched, restKeyed⟩ := scan_session_rest distinct keyed
      have same : (rest.filter fun r => ((scanSession scan s).pool.objects r).txQ ≠ []).map
          (callAt (scanSession scan s).pool) =
            (rest.filter fun r => (scan.pool.objects r).txQ ≠ []).map (callAt scan.pool) := by
        have kept : (rest.filter fun r => ((scanSession scan s).pool.objects r).txQ ≠ []) =
            rest.filter fun r => (scan.pool.objects r).txQ ≠ [] :=
          List.filter_congr fun r member => by rw [untouched r member]
        rw [kept]
        apply List.map_congr_left
        intro r member
        rw [callAt, callAt, untouched r (List.mem_of_mem_filter member)]
      rw [drainCalls, ih distinct.of_cons restKeyed, same]
      by_cases queued : (scan.pool.objects s).txQ ≠ []
      · rw [if_pos queued, call_at_keyed (keyed s List.mem_cons_self) queued, List.filter_cons,
          if_pos (decide_eq_true queued)]
        rfl
      · rw [if_neg queued, List.filter_cons, if_neg (by simpa using queued), List.nil_append]

theorem scan_calls (pool : SessionPool) (collected : List Frame) (needSleep : ℚ) :
    drainCalls ⟨pool, collected, needSleep⟩ pool.snapshotAll =
      (pool.snapshotAll.filter fun s => (pool.objects s).txQ ≠ []).map (callAt pool) :=
  @drain_calls_eq _ pool.snapshot_nodup ⟨pool, collected, needSleep⟩ fun _ => get_of_snapshot

theorem scan_drains (pool : SessionPool) (collected : List Frame) (needSleep : ℚ) (r : Nat) :
    drainedFrom r (drainCalls ⟨pool, collected, needSleep⟩ pool.snapshotAll) ++
      ((scanSessions pool collected).pool.objects r).txQ = (pool.objects r).txQ := by
  have own : drainedFrom r (drainCalls ⟨pool, collected, needSleep⟩ pool.snapshotAll) =
      if r ∈ pool.snapshotAll then (pool.objects r).txQ.take pollDrainLimit else [] := by
    rw [scan_calls, drainedFrom, List.filter_map, List.flatMap_map]
    have here : ((fun call : SessionDrain => decide (call.session = r)) ∘ callAt pool) =
        fun s => decide (s = r) := rfl
    rw [here, List.filter_filter]
    by_cases queued : (pool.objects r).txQ = []
    · have none : (pool.snapshotAll.filter fun s =>
          decide (s = r) && decide ((pool.objects s).txQ ≠ [])) = [] := by
        apply List.filter_eq_nil_iff.mpr
        intro s _ both
        simp only [Bool.and_eq_true, decide_eq_true_eq] at both
        exact both.2 (both.1.symm ▸ queued)
      rw [none, queued]
      simp
    · have only : (pool.snapshotAll.filter fun s =>
          decide (s = r) && decide ((pool.objects s).txQ ≠ [])) =
            pool.snapshotAll.filter fun s => s == r := by
        apply List.filter_congr
        intro s _
        by_cases same : s = r
        · simp [same, queued]
        · simp [same]
      rw [only, List.filter_beq]
      split_ifs with member
      · rw [List.count_eq_one_of_mem pool.snapshot_nodup member]
        exact List.append_nil _
      · rw [List.count_eq_zero_of_not_mem member]
        rfl
  rw [own, scan_objects]
  split_ifs
  · rw [scanned_tx_q, List.take_append_drop]
  · rfl

theorem scan_collects (pool : SessionPool) (collected : List Frame) (needSleep : ℚ) :
    (scanSessions pool collected).responseFrames = collected ++
      drainedFrames (drainCalls ⟨pool, collected, needSleep⟩ pool.snapshotAll) := by
  rw [scan_response_frames, scan_calls, drainedFrames, List.flatMap_map]
  congr 1
  induction pool.snapshotAll with
  | nil => rfl
  | cons s rest ih =>
      by_cases queued : (pool.objects s).txQ = []
      · simp [queued, ih]
      · simp [queued, ih, callAt]

theorem scan_calls_once (pool : SessionPool) (collected : List Frame) (needSleep : ℚ) :
    ((drainCalls ⟨pool, collected, needSleep⟩ pool.snapshotAll).map SessionDrain.session).Nodup ∧
      ∀ call ∈ drainCalls ⟨pool, collected, needSleep⟩ pool.snapshotAll,
        call.snapshot.frames.length ≤ pollDrainLimit ∧ call.snapshot.frames ≠ [] := by
  rw [scan_calls, List.map_map]
  constructor
  · have sessions : SessionDrain.session ∘ callAt pool = id := rfl
    rw [sessions, List.map_id]
    exact pool.snapshot_nodup.filter _
  · intro call member
    obtain ⟨s, listed, rfl⟩ := List.mem_map.mp member
    refine ⟨List.length_take_le _ _, fun empty => ?_⟩
    have queued : (pool.objects s).txQ ≠ [] := by simpa using (List.mem_filter.mp listed).2
    rcases List.take_eq_nil_iff.mp empty with zero | nothing
    · exact absurd zero (by decide)
    · exact queued nothing

end Calls

/-- What a round of a poll does to the queues, and what it answers. -/
structure RoundSound (pool : SessionPool) (poll : Poll) (calls : List SessionDrain)
    (result : SessionPool × PollOutcome) : Prop where
  conserved : ∀ r, drainedFrom r calls ++ (result.1.objects r).txQ = (pool.objects r).txQ
  fresh : result.1.fresh = pool.fresh
  answered : ∀ frames, result.2 = .answered frames →
    frames = poll.responseFrames ++ drainedFrames calls
  asleep : ∀ later sleepFor, result.2 = .asleep later sleepFor → calls = []
  once : (calls.map SessionDrain.session).Nodup
  limit : ∀ call ∈ calls, call.snapshot.frames.length ≤ 8

theorem poll_round_sound (pool : SessionPool) (poll : Poll) (atCheck afterScan : ℚ) :
    RoundSound pool poll (pollCalls pool poll atCheck)
      (pollRound pool poll atCheck afterScan) := by
  by_cases ended : poll.waitDeadline - atCheck ≤ 0
  · rw [pollCalls, if_pos ended, poll_round_over afterScan (sub_nonpos.mp ended)]
    refine ⟨fun r => rfl, rfl, fun frames same => ?_, fun _ _ _ => rfl, List.nodup_nil,
      List.forall_mem_nil _⟩
    cases same
    exact (List.append_nil _).symm
  · have early : ¬ poll.waitDeadline ≤ atCheck := mt sub_nonpos.mpr ended
    have collects := scan_collects pool poll.responseFrames coalesceWindowPoll
    have drains := scan_drains pool poll.responseFrames coalesceWindowPoll
    obtain ⟨once, limit⟩ := scan_calls_once pool poll.responseFrames coalesceWindowPoll
    rw [pollCalls, if_neg ended]
    by_cases found : (scanSessions pool poll.responseFrames).responseFrames = []
    · have round : ∃ later sleepFor, pollRound pool poll atCheck afterScan =
          ((scanSessions pool poll.responseFrames).pool, .asleep later sleepFor) := by
        rw [pollRound, if_neg ended, if_neg (not_not.mpr found)]
        exact ⟨_, _, rfl⟩
      obtain ⟨later, sleepFor, round⟩ := round
      rw [round]
      refine ⟨drains, scan_fresh _ _, by simp, fun _ _ _ => ?_, once,
        fun call member => (limit call member).1⟩
      rw [found] at collects
      have none := (List.append_eq_nil_iff.mp collects.symm).2
      apply List.eq_nil_iff_forall_not_mem.mpr
      intro call member
      exact (limit call member).2 (List.flatMap_eq_nil_iff.mp none call member)
    · rw [poll_round_found afterScan early found]
      refine ⟨drains, scan_fresh _ _, fun frames same => ?_, by simp, once,
        fun call member => (limit call member).1⟩
      cases same
      exact collects

section Dispatch

theorem dispatch_frame_tx (locked : Bool) (now : ℚ) {state : Dispatch} (f : Frame)
    (blank : BlankTx state.pool) (r : Nat) :
    ((dispatchFrame locked now state f).pool.objects r).txQ = (state.pool.objects r).txQ := by
  have created : (((state.pool.getOrCreate f.sessionId f.flags f.target now).1.setSeq
      (state.pool.getOrCreate f.sessionId f.flags f.target now).2 (f.seq + 1)).objects r).txQ =
        (state.pool.objects r).txQ := by
    rw [set_seq_tx]
    rcases get_or_create_cases state.pool f.sessionId f.flags f.target now with
      ⟨ref, _, same⟩ | ⟨missing, made⟩
    · rw [same]
    · rw [made, insert_objects]
      split_ifs with new
      · rw [new]
        exact (blank _ (Nat.le_refl _)).symm
      · rfl
  rw [dispatchFrame]
  split_ifs
  · exact created
  · exact created
  · cases state.pool.get f.sessionId with
    | some s => exact enqueue_rx_tx _ _ _ _ _
    | none => rfl
  · cases state.pool.get f.sessionId with
    | some s => exact set_seq_tx _ _ _ _
    | none => rfl
  · rfl
  · cases state.pool.get f.sessionId with
    | some s => exact enqueue_rx_tx _ _ _ _ _
    | none => rfl
  · rfl

theorem dispatch_frames_tx (locked : Bool) (now : ℚ) {pool : SessionPool} (frames : List Frame)
    (blank : BlankTx pool) :
    BlankTx (dispatchFrames locked now pool frames).pool ∧
      ∀ r, ((dispatchFrames locked now pool frames).pool.objects r).txQ =
        (pool.objects r).txQ := by
  have all : ∀ (rest : List Frame) (state : Dispatch), BlankTx state.pool →
      BlankTx (rest.foldl (dispatchFrame locked now) state).pool ∧
        ∀ r, ((rest.foldl (dispatchFrame locked now) state).pool.objects r).txQ =
          (state.pool.objects r).txQ := by
    intro rest
    induction rest with
    | nil => exact fun _ before => ⟨before, fun _ => rfl⟩
    | cons f rest ih =>
        intro state before
        have same := dispatch_frame_tx locked now f before
        have grown := dispatch_frame_extends locked now state f
        obtain ⟨after, tx⟩ := ih (dispatchFrame locked now state f) fun r unallocated =>
          (same r).trans (before r (grown.fresh.trans unallocated))
        exact ⟨after, fun r => (tx r).trans (same r)⟩
  exact all frames _ blank

end Dispatch

section Steps

theorem settle_answers {server later : ExitServer} {request : Nat} {clientId : Bytes}
    {pool : SessionPool} {poll : Poll} {calls : List SessionDrain} {refused : List Frame}
    {result : SessionPool × PollOutcome} {reply : Option Reply}
    (round : RoundSound pool poll calls result) (collected : poll.responseFrames = refused)
    (busy : ∀ f ∈ refused, ∃ sid, f = busyFrame sid)
    (same : server.settle request clientId result = (later, reply)) :
    (reply.toList.map fun reply => (⟨reply, refused, calls⟩ : AnsweredRound)).flatMap
        AnsweredRound.calls = calls ∧
      ∀ answer ∈ reply.toList.map fun reply => (⟨reply, refused, calls⟩ : AnsweredRound),
        AnswerSound answer := by
  obtain ⟨after, outcome⟩ := result
  cases outcome with
  | answered frames =>
      cases same
      refine ⟨List.append_nil _, fun answer member => ?_⟩
      rw [List.mem_singleton.mp member]
      refine ⟨?_, busy, round.once, round.limit⟩
      rw [← collected]
      exact round.answered frames rfl
  | asleep asleep sleepFor =>
      cases same
      exact ⟨(round.asleep asleep sleepFor rfl).symm, List.forall_mem_nil _⟩

/-- What is queued or was drained accounts for all that was ever queued. -/
def Conserved (pool : SessionPool) (enqueued : List (Nat × Frame)) (calls : List SessionDrain) :
    Prop :=
  ∀ r, drainedFrom r calls ++ (pool.objects r).txQ = valuesAt r enqueued

theorem Conserved.round {pool later : SessionPool} {poll : Poll} {calls more : List SessionDrain}
    {enqueued : List (Nat × Frame)} {outcome : PollOutcome}
    (conserved : Conserved pool enqueued calls)
    (round : RoundSound pool poll more (later, outcome)) :
    Conserved later enqueued (calls ++ more) := by
  intro r
  rw [drained_from_append, List.append_assoc, round.conserved r]
  exact conserved r

theorem BlankTx.round {pool later : SessionPool} {poll : Poll} {calls : List SessionDrain}
    {outcome : PollOutcome} (blank : BlankTx pool)
    (round : RoundSound pool poll calls (later, outcome)) : BlankTx later := by
  intro r unallocated
  have split := round.conserved r
  have fresh : later.fresh = pool.fresh := round.fresh
  rw [blank r (fresh ▸ unallocated)] at split
  exact (List.append_eq_nil_iff.mp split).2

end Steps

/-- Nothing is lost or doubled between the queues and the answers. -/
structure NothingLost (ledger : ResponseLedger) : Prop where
  conserved : Conserved ledger.server.pool ledger.enqueued ledger.calls
  answered : ledger.answers.flatMap AnsweredRound.calls = ledger.calls
  sound : ∀ answer ∈ ledger.answers, AnswerSound answer

structure LedgerSound (ledger : ResponseLedger) : Prop where
  lost : NothingLost ledger
  blank : BlankTx ledger.server.pool
  quiet : QuietPolls ledger.server
  workers : ledger.server.WorkersOwn fun _ => True

theorem ledger_start_sound : LedgerSound ResponseLedger.start where
  lost := ⟨fun _ => rfl, rfl, List.forall_mem_nil _⟩
  blank _ _ := rfl
  quiet := List.forall_mem_nil _
  workers := List.forall_mem_nil _

theorem NothingLost.extend {ledger : ResponseLedger} {later : ExitServer}
    {enqueued : List (Nat × Frame)} {calls : List SessionDrain} {answers : List AnsweredRound}
    (lost : NothingLost ledger)
    (conserved : Conserved later.pool (ledger.enqueued ++ enqueued) (ledger.calls ++ calls))
    (answered : answers.flatMap AnsweredRound.calls = calls)
    (sound : ∀ answer ∈ answers, AnswerSound answer) :
    NothingLost ⟨later, ledger.enqueued ++ enqueued, ledger.calls ++ calls,
      ledger.answers ++ answers⟩ where
  conserved := conserved
  answered := by
    rw [List.flatMap_append, lost.answered, answered]
  sound answer member := by
    rcases List.mem_append.mp member with old | new
    · exact lost.sound answer old
    · exact sound answer new

/-- A round filed over queues that are as the ledger has them. -/
theorem NothingLost.settled {ledger : ResponseLedger} {start server : ExitServer}
    {request : Nat} {clientId : Bytes} {pool : SessionPool} {poll : Poll}
    {calls : List SessionDrain} {refused : List Frame} {result : SessionPool × PollOutcome}
    {reply : Option Reply} (lost : NothingLost ledger)
    (tx : ∀ r, (pool.objects r).txQ = (ledger.server.pool.objects r).txQ) (blank : BlankTx pool)
    (round : RoundSound pool poll calls result) (collected : poll.responseFrames = refused)
    (busy : ∀ f ∈ refused, ∃ sid, f = busyFrame sid)
    (same : start.settle request clientId result = (server, reply)) :
    NothingLost ⟨server, ledger.enqueued, ledger.calls ++ calls,
      ledger.answers ++ reply.toList.map fun reply => ⟨reply, refused, calls⟩⟩ ∧
      BlankTx server.pool := by
  obtain ⟨answered, sound⟩ := settle_answers round collected busy same
  have settled := (ExitServer.settle_workers start request clientId result).2
  rw [same] at settled
  have started : Conserved pool ledger.enqueued ledger.calls := by
    intro r
    rw [tx r]
    exact lost.conserved r
  have final : RoundSound pool poll calls (server.pool, result.2) := by
    rw [settled]
    exact round
  have conserved : Conserved server.pool (ledger.enqueued ++ []) (ledger.calls ++ calls) := by
    rw [List.append_nil]
    exact started.round final
  have extended := lost.extend conserved answered sound
  rw [List.append_nil] at extended
  exact ⟨extended, BlankTx.round blank final⟩

theorem ledger_step_sound {ledger later : ResponseLedger} {action : ServerAction}
    (before : LedgerSound ledger) (stepped : ledger.step action = some later) :
    LedgerSound later := by
  obtain ⟨⟨server, reply⟩, reacted, rfl⟩ := Option.map_eq_some_iff.mp stepped
  have quiet := before.quiet.react reacted
  have workers := before.workers.react (fun _ _ _ _ _ _ _ _ _ _ => trivial) reacted
  suffices both : NothingLost _ ∧ BlankTx server.pool from ⟨both.1, both.2, quiet, workers⟩
  rcases ExitServer.react_cases reacted with
    ⟨request, clientId, frames, now, atCheck, afterScan, rfl, same⟩ |
    ⟨index, atCheck, afterScan, request, poll, rfl, found, same⟩ |
    ⟨index, act, w, w', effect, rfl, found, acted, rfl, rfl⟩
  · obtain ⟨blank, tx⟩ := dispatch_frames_tx ledger.server.locked now frames before.blank
    have round := poll_round_sound (ledger.server.accept frames now).1.pool
      (startPoll clientId (ledger.server.accept frames now).2 now) atCheck afterScan
    have busy := dispatch_refusals ledger.server.locked now ledger.server.pool frames
    have none : ledger.enqueued ++ ledger.server.enqueues
        (.post request clientId frames now atCheck afterScan) = ledger.enqueued :=
      List.append_nil _
    rw [none]
    exact before.lost.settled tx blank round rfl busy same
  · obtain ⟨kept, tx⟩ := garbage_kept ledger.server.pool poll
    have round := poll_round_sound (collectGarbage ledger.server.pool poll).1
      (collectGarbage ledger.server.pool poll).2 atCheck afterScan
    have collected : (collectGarbage ledger.server.pool poll).2.responseFrames = [] := by
      rw [collect_garbage_frames]
      exact before.quiet _ (List.mem_of_getElem? found)
    have calls : ledger.server.calls (.resume index atCheck afterScan) =
        pollCalls (collectGarbage ledger.server.pool poll).1
          (collectGarbage ledger.server.pool poll).2 atCheck := by
      simp only [ExitServer.calls, found]
    have none : ledger.enqueued ++ ledger.server.enqueues (.resume index atCheck afterScan) =
        ledger.enqueued := List.append_nil _
    have blank : BlankTx (collectGarbage ledger.server.pool poll).1 := by
      intro r unallocated
      rw [tx r]
      exact before.blank r (kept.fresh ▸ unallocated)
    rw [calls, none]
    exact before.lost.settled tx blank round collected (List.forall_mem_nil _) same
  · have allocated := (before.workers w (List.mem_of_getElem? found)).1
    have queued : ledger.server.enqueues (.worker index act) =
        effect.frames.map fun frame => (w.session, frame) := by
      simp only [ExitServer.enqueues, found, acted]
    refine ⟨before.lost.extend ?_ rfl (List.forall_mem_nil _), ?_⟩
    · intro r
      rw [values_at_append, ← before.lost.conserved r, queued]
      by_cases own : r = w.session
      · rw [own, upstream_effect_tx, values_at_self]
        simp [ExitServer.calls]
      · rw [upstream_effect_other _ _ _ own, values_at_other own]
        simp [ExitServer.calls]
    · intro r unallocated
      rw [upstream_effect_fresh] at unallocated
      have other : r ≠ w.session := by omega
      rw [upstream_effect_other _ _ _ other]
      exact before.blank r unallocated

theorem drained_from_rounds (r : Nat) (answers : List AnsweredRound) :
    drainedFrom r (answers.flatMap AnsweredRound.calls) =
      answers.flatMap fun answer => drainedFrom r answer.calls := by
  induction answers with
  | nil => rfl
  | cons answer rest ih => rw [List.flatMap_cons, drained_from_append, ih, List.flatMap_cons]

/-- The frames of a session in one answer follow those of the answers before it,
with none left out. -/
theorem NothingLost.in_order {ledger : ResponseLedger} (lost : NothingLost ledger) (r : Nat)
    {early late : List AnsweredRound} {answer : AnsweredRound}
    (split : ledger.answers = early ++ answer :: late) :
    (early.flatMap fun before => drainedFrom r before.calls) ++ drainedFrom r answer.calls <+:
      valuesAt r ledger.enqueued := by
  refine ⟨(late.flatMap fun after => drainedFrom r after.calls) ++
    (ledger.server.pool.objects r).txQ, ?_⟩
  rw [← lost.conserved r, ← lost.answered, drained_from_rounds, split]
  simp only [List.flatMap_append, List.flatMap_cons, List.append_assoc]

/-- In every run, with any number of polls and upstream workers in any order:
what was drained from a session followed by its queue is what was put on it; the
drained frames are in the answers, each in the one of its round; and an answer
goes on with a session where the answers before it stopped. -/
theorem nothing_lost_in_responses {history : List ServerAction} {ledger : ResponseLedger}
    (run : ledgerMachine.Run StepMachine.anyStep ResponseLedger.start history ledger) :
    NothingLost ledger ∧ ∀ r early answer late, ledger.answers = early ++ answer :: late →
      (early.flatMap fun before => drainedFrom r before.calls) ++ drainedFrom r answer.calls <+:
        valuesAt r ledger.enqueued := by
  have sound : LedgerSound ledger :=
    run.invariant ledger_start_sound fun _ _ _ before _ stepped => ledger_step_sound before stepped
  exact ⟨sound.lost, fun r _ _ _ split => sound.lost.in_order r split⟩

/-- Two polls wait while one session is read; each takes one of its chunks. -/
def twoPolls : List ServerAction :=
  [.post 0 zeroId [synFrame downloadSid [97]] 0 0 0,
    .worker 0 .begin,
    .worker 0 .dialed,
    .worker 0 (.read [1] 0),
    .post 1 zeroId [] 0 0 0,
    .worker 0 (.read [2] 0),
    .resume 0 0 0]

theorem two_polls_lose_nothing : ∃ ledger,
    ledgerMachine.Run StepMachine.anyStep ResponseLedger.start twoPolls ledger ∧
      ledger.answers.map (fun answer => (answer.reply.request, answer.reply.frames)) =
        [(1, [upstreamDataFrame downloadSid 0 [1]]), (0, [upstreamDataFrame downloadSid 1 [2]])] ∧
      NothingLost ledger := by
  have passed : ((ledgerMachine.exec StepMachine.anyStep ResponseLedger.start twoPolls).any
      fun ledger => decide (ledger.answers.map (fun answer =>
        (answer.reply.request, answer.reply.frames)) =
          [(1, [upstreamDataFrame downloadSid 0 [1]]),
            (0, [upstreamDataFrame downloadSid 1 [2]])])) = true := by
    decide +kernel
  obtain ⟨ledger, run, answers⟩ := StepMachine.run_of_exec_any _ passed
  exact ⟨ledger, run, of_decide_eq_true answers, (nothing_lost_in_responses run).1⟩

end Astrix
