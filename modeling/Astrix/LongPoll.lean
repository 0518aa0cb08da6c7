import Mathlib.Data.List.Perm.Basic
import Mathlib.Tactic.NormNum
import Astrix.ExitServer

/-!
# One request through its long poll

What a scan of all sessions takes, and the whole handler run under a schedule:
between two rounds the upstream workers may act on any session, and every round
reads the clock twice.
-/

namespace Astrix

open PyRuntime

set_option autoImplicit false

namespace SessionPool

theorem get_of_snapshot {pool : SessionPool} {s : Nat} (member : s ∈ pool.snapshotAll) :
    pool.get (pool.objects s).sessionId = some s := by
  obtain ⟨entry, present, rfl⟩ := List.mem_map.mp member
  have found : pool.get entry.1 = some entry.2 :=
    (OrderedDict.get_eq_some_iff _ _ _).mpr present
  rw [(get_keyed found).2]
  exact found

theorem snapshot_of_get {pool : SessionPool} {sid : Bytes} {s : Nat}
    (found : pool.get sid = some s) : s ∈ pool.snapshotAll :=
  List.mem_map_of_mem ((OrderedDict.get_eq_some_iff _ _ _).mp found)

theorem snapshot_nodup (pool : SessionPool) : pool.snapshotAll.Nodup := by
  have ids : (pool.snapshotAll.map fun s => (pool.objects s).sessionId) =
      pool.sessions.keys := by
    rw [snapshotAll, OrderedDict.values, OrderedDict.keys, List.map_map]
    apply List.map_congr_left
    intro entry present
    exact (pool.keyed entry.1 entry.2 ((OrderedDict.get_eq_some_iff _ _ _).mpr present)).2
  have distinct : (pool.snapshotAll.map fun s => (pool.objects s).sessionId).Nodup := by
    rw [ids]
    exact pool.sessions.distinct
  exact List.Nodup.of_map _ distinct

end SessionPool

/-- The queue of a session that the scan has reached. -/
def scanned (s : Session) : Session := if s.txQ = [] then s else s.drainTx pollDrainLimit

theorem scanned_tx_q (s : Session) : (scanned s).txQ = s.txQ.drop pollDrainLimit := by
  rw [scanned]
  split_ifs with empty
  · rw [empty, List.drop_nil]
  · rfl

theorem scan_session_keyed {scan : Scan} {s : Nat}
    (keyed : scan.pool.get (scan.pool.objects s).sessionId = some s) :
    (scanSession scan s).responseFrames =
        scan.responseFrames ++ (scan.pool.objects s).txQ.take pollDrainLimit ∧
      (∀ r, (scanSession scan s).pool.objects r =
        if r = s then scanned (scan.pool.objects s) else scan.pool.objects r) ∧
      (scanSession scan s).pool.sessions = scan.pool.sessions ∧
      (scanSession scan s).pool.fresh = scan.pool.fresh := by
  by_cases empty : (scan.pool.objects s).txQ = []
  · have same : scanSession scan s = scan := by simp [scanSession, empty]
    rw [same, empty]
    refine ⟨by simp, fun r => ?_, rfl, rfl⟩
    split_ifs with here
    · rw [here, scanned, if_pos empty]
    · rfl
  · have count : ((scan.pool.objects s).txQ.take pollDrainLimit).length ≠ 0 := by
      intro zero
      rw [List.length_eq_zero_iff, List.take_eq_nil_iff] at zero
      rcases zero with none | nothing
      · exact absurd none (by decide)
      · exact empty nothing
    have step : scanSession scan s =
        { pool := scan.pool.drainTx s pollDrainLimit
          responseFrames :=
            scan.responseFrames ++ (scan.pool.objects s).txQ.take pollDrainLimit
          needSleep := coalesceWindowBusy } := by
      simp only [scanSession, SessionPool.drainTxLimitedTxn, keyed, empty, ne_eq,
        not_false_eq_true, if_true, if_false, count]
    rw [step]
    refine ⟨rfl, fun r => ?_, rfl, rfl⟩
    rw [scanned, if_neg empty]
    exact SessionPool.drain_tx_objects _ _ _ _

/-- What a scan has still to visit is as it was, and is still in the pool. -/
theorem scan_session_rest {s : Nat} {rest : List Nat} (distinct : (s :: rest).Nodup) {scan : Scan}
    (keyed : ∀ r ∈ s :: rest, scan.pool.get (scan.pool.objects r).sessionId = some r) :
    (∀ r ∈ rest, (scanSession scan s).pool.objects r = scan.pool.objects r) ∧
      ∀ r ∈ rest, (scanSession scan s).pool.get
        ((scanSession scan s).pool.objects r).sessionId = some r := by
  obtain ⟨_, objects, sessions, _⟩ := scan_session_keyed (keyed s List.mem_cons_self)
  have untouched : ∀ r ∈ rest, (scanSession scan s).pool.objects r = scan.pool.objects r := by
    intro r member
    rw [objects, if_neg]
    rintro rfl
    exact (List.nodup_cons.mp distinct).1 member
  refine ⟨untouched, fun r member => ?_⟩
  rw [untouched r member, SessionPool.get, sessions]
  exact keyed r (List.mem_cons_of_mem _ member)

/-- A scan takes the first eight frames of every session it visits, in visiting
order, and touches nothing else. -/
theorem scan_fold {refs : List Nat} (distinct : refs.Nodup) {scan : Scan}
    (keyed : ∀ s ∈ refs, scan.pool.get (scan.pool.objects s).sessionId = some s) :
    (refs.foldl scanSession scan).responseFrames = scan.responseFrames ++
        refs.flatMap (fun s => (scan.pool.objects s).txQ.take pollDrainLimit) ∧
      (∀ r, (refs.foldl scanSession scan).pool.objects r =
        if r ∈ refs then scanned (scan.pool.objects r) else scan.pool.objects r) ∧
      (refs.foldl scanSession scan).pool.sessions = scan.pool.sessions ∧
      (refs.foldl scanSession scan).pool.fresh = scan.pool.fresh := by
  induction refs generalizing scan with
  | nil => simp
  | cons s rest ih =>
      obtain ⟨taken, objects, sessions, fresh⟩ := scan_session_keyed
        (keyed s List.mem_cons_self)
      obtain ⟨untouched, restKeyed⟩ := scan_session_rest distinct keyed
      obtain ⟨restTaken, restObjects, restSessions, restFresh⟩ := ih distinct.of_cons restKeyed
      rw [List.foldl_cons]
      refine ⟨?_, fun r => ?_, restSessions.trans sessions, restFresh.trans fresh⟩
      · rw [restTaken, taken, List.flatMap_cons, List.append_assoc]
        congr 2
        exact List.flatMap_congr fun r member => by rw [untouched r member]
      · rw [restObjects]
        by_cases later : r ∈ rest
        · rw [if_pos later, if_pos (List.mem_cons_of_mem _ later), untouched r later]
        · rw [if_neg later, objects]
          by_cases here : r = s
          · rw [if_pos here, here, if_pos List.mem_cons_self]
          · rw [if_neg here, if_neg]
            simp [here, later]

theorem scan_response_frames (pool : SessionPool) (collected : List Frame) :
    (scanSessions pool collected).responseFrames = collected ++
      pool.snapshotAll.flatMap fun s => (pool.objects s).txQ.take pollDrainLimit :=
  (scan_fold pool.snapshot_nodup fun _ => SessionPool.get_of_snapshot).1

theorem scan_objects (pool : SessionPool) (collected : List Frame) (r : Nat) :
    (scanSessions pool collected).pool.objects r =
      if r ∈ pool.snapshotAll then scanned (pool.objects r) else pool.objects r :=
  (scan_fold pool.snapshot_nodup fun _ => SessionPool.get_of_snapshot).2.1 r

@[simp] theorem scan_sessions_dict (pool : SessionPool) (collected : List Frame) :
    (scanSessions pool collected).pool.sessions = pool.sessions :=
  (scan_fold pool.snapshot_nodup fun _ => SessionPool.get_of_snapshot).2.2.1

@[simp] theorem scan_fresh (pool : SessionPool) (collected : List Frame) :
    (scanSessions pool collected).pool.fresh = pool.fresh :=
  (scan_fold pool.snapshot_nodup fun _ => SessionPool.get_of_snapshot).2.2.2

/-- No session of the pool has a frame for the client. -/
def NothingQueued (pool : SessionPool) : Prop :=
  ∀ s ∈ pool.snapshotAll, (pool.objects s).txQ = []

instance (pool : SessionPool) : Decidable (NothingQueued pool) :=
  inferInstanceAs (Decidable (∀ s ∈ pool.snapshotAll, (pool.objects s).txQ = []))

theorem scan_nothing {pool : SessionPool} (nothing : NothingQueued pool)
    (collected : List Frame) :
    scanSessions pool collected = ⟨pool, collected, coalesceWindowPoll⟩ := by
  have idle : ∀ (refs : List Nat) (scan : Scan),
      (∀ s ∈ refs, (scan.pool.objects s).txQ = []) → refs.foldl scanSession scan = scan := by
    intro refs
    induction refs with
    | nil => exact fun _ _ => rfl
    | cons s rest ih =>
        intro scan empty
        have same : scanSession scan s = scan := by
          simp [scanSession, empty s List.mem_cons_self]
        rw [List.foldl_cons, same]
        exact ih scan fun r member => empty r (List.mem_cons_of_mem _ member)
  exact idle _ _ nothing

theorem scan_something {pool : SessionPool} (something : ¬ NothingQueued pool)
    (collected : List Frame) :
    (scanSessions pool collected).responseFrames ≠ [] ∧
      ∃ s, ((scanSessions pool collected).pool.objects s).txQ.length <
        (pool.objects s).txQ.length := by
  simp only [NothingQueued, not_forall] at something
  obtain ⟨s, member, queued⟩ := something
  have positive : 0 < (pool.objects s).txQ.length := List.length_pos_iff.mpr queued
  constructor
  · rw [scan_response_frames]
    intro empty
    have taken := List.flatMap_eq_nil_iff.mp (List.append_eq_nil_iff.mp empty).2 s member
    rcases List.take_eq_nil_iff.mp taken with zero | nothing
    · exact absurd zero (by decide)
    · exact queued nothing
  · refine ⟨s, ?_⟩
    rw [scan_objects, if_pos member, scanned_tx_q, List.length_drop]
    have limit : pollDrainLimit = 8 := rfl
    omega

theorem poll_round_over {pool : SessionPool} {poll : Poll} {atCheck : ℚ} (afterScan : ℚ)
    (ended : poll.waitDeadline ≤ atCheck) :
    pollRound pool poll atCheck afterScan = (pool, .answered poll.responseFrames) := by
  rw [pollRound, if_pos (sub_nonpos.mpr ended)]

theorem poll_round_found {pool : SessionPool} {poll : Poll} {atCheck : ℚ} (afterScan : ℚ)
    (early : ¬ poll.waitDeadline ≤ atCheck)
    (found : (scanSessions pool poll.responseFrames).responseFrames ≠ []) :
    pollRound pool poll atCheck afterScan =
      ((scanSessions pool poll.responseFrames).pool,
        .answered (scanSessions pool poll.responseFrames).responseFrames) := by
  rw [pollRound, if_neg (mt sub_nonpos.mp early), if_pos found]

theorem poll_round_nothing {pool : SessionPool} {poll : Poll} {atCheck : ℚ} (afterScan : ℚ)
    (early : ¬ poll.waitDeadline ≤ atCheck) (none : poll.responseFrames = [])
    (nothing : NothingQueued pool) :
    ∃ sleepFor, pollRound pool poll atCheck afterScan =
      (pool, .asleep { poll with nowT := afterScan } sleepFor) := by
  have scan := scan_nothing nothing poll.responseFrames
  have unanswered : ¬ (scanSessions pool poll.responseFrames).responseFrames ≠ [] := by
    rw [scan]
    exact not_not.mpr none
  refine ⟨min (chooseSleep ⟨pool, poll.responseFrames, coalesceWindowPoll⟩ poll afterScan)
    (poll.waitDeadline - atCheck), ?_⟩
  rw [pollRound, if_neg (mt sub_nonpos.mp early), if_neg unanswered, scan]

/-- What happens while the handler is suspended, and the clock readings of the
round that follows. -/
structure Gap where
  effects : List (Nat × UpstreamEffect)
  atCheck : ℚ
  afterScan : ℚ

def Gap.apply (gap : Gap) (pool : SessionPool) : SessionPool :=
  gap.effects.foldl (fun pool entry => entry.2.apply pool entry.1) pool

/-- The pool when only the upstream workers act. -/
def workersOnly (pool : SessionPool) (gaps : List Gap) : SessionPool :=
  gaps.foldl (fun pool gap => gap.apply pool) pool

def awaitPoll (pool : SessionPool) : PollOutcome → List Gap → SessionPool × PollOutcome
  | outcome, [] => (pool, outcome)
  | .answered frames, gap :: rest => awaitPoll (gap.apply pool) (.answered frames) rest
  | .asleep poll _, gap :: rest =>
      let (pool, outcome) := resumePoll (gap.apply pool) poll gap.atCheck gap.afterScan
      awaitPoll pool outcome rest

inductive HandlerState where
  | reading
  | rejected
  | polling (clientId : Bytes) (outcome : PollOutcome)
  deriving DecidableEq

/-- `_handle_tunnel_post` of a request that came at `now`. The first gap is the
reading of the body. -/
def handleTunnelPost (prims : Primitives) (locked : Bool) (body : Bytes) (now : ℚ)
    (pool : SessionPool) : List Gap → SessionPool × HandlerState
  | [] => (pool, .reading)
  | gap :: rest =>
      let pool := gap.apply pool
      match decodeBatch prims body with
      | .error _ => (workersOnly pool rest, .rejected)
      | .ok (clientId, frames) =>
          let dispatch := dispatchFrames locked now pool frames
          let (pool, outcome) := pollRound dispatch.pool
            (startPoll clientId dispatch.responseFrames now) gap.atCheck gap.afterScan
          let (pool, outcome) := awaitPoll pool outcome rest
          (pool, .polling clientId outcome)

theorem await_answered (pool : SessionPool) (frames : List Frame) (gaps : List Gap) :
    awaitPoll pool (.answered frames) gaps = (workersOnly pool gaps, .answered frames) := by
  induction gaps generalizing pool with
  | nil => rfl
  | cons gap rest ih => exact ih _

/-- The local variables of the handler after the garbage collection of a round. -/
def afterGc (poll : Poll) : Poll :=
  if poll.nowT - poll.lastGc ≥ gcInterval then { poll with lastGc := poll.nowT } else poll

@[simp] theorem after_gc_client (poll : Poll) : (afterGc poll).clientId = poll.clientId := by
  rw [afterGc]
  split_ifs <;> rfl

@[simp] theorem after_gc_frames (poll : Poll) :
    (afterGc poll).responseFrames = poll.responseFrames := by
  rw [afterGc]
  split_ifs <;> rfl

@[simp] theorem after_gc_deadline (poll : Poll) :
    (afterGc poll).waitDeadline = poll.waitDeadline := by
  rw [afterGc]
  split_ifs <;> rfl

theorem collect_garbage_poll (pool : SessionPool) (poll : Poll) :
    (collectGarbage pool poll).2 = afterGc poll := by
  rw [collectGarbage, afterGc]
  split_ifs <;> rfl

theorem collect_garbage_frames (pool : SessionPool) (poll : Poll) :
    (collectGarbage pool poll).2.responseFrames = poll.responseFrames := by
  rw [collect_garbage_poll, after_gc_frames]

theorem collect_garbage_preserves {P : SessionPool → Prop} {pool : SessionPool} {poll : Poll}
    (purged : ∀ start, ∀ entry ∈ pool.expired idleSessionTimeout poll.nowT,
      P start → P (start.purge entry))
    (holds : P pool) : P (collectGarbage pool poll).1 := by
  rw [collectGarbage]
  split_ifs
  · exact SessionPool.cleanup_preserves purged holds
  · exact holds

theorem collect_garbage_count (pool : SessionPool) (poll : Poll) :
    (collectGarbage pool poll).1.sessionCount ≤ pool.sessionCount := by
  rw [collectGarbage]
  split_ifs
  · exact SessionPool.purge_all_count _ pool
  · exact Nat.le_refl _

/-- The first round has nothing to collect. -/
theorem resume_start (pool : SessionPool) (clientId : Bytes) (collected : List Frame)
    (now atCheck afterScan : ℚ) :
    resumePoll pool (startPoll clientId collected now) atCheck afterScan =
      pollRound pool (startPoll clientId collected now) atCheck afterScan := by
  have early : ¬ (startPoll clientId collected now).nowT -
      (startPoll clientId collected now).lastGc ≥ gcInterval := by
    simp only [startPoll, sub_self, gcInterval]
    norm_num
  rw [resumePoll, collectGarbage, if_neg early]

def downloadSid : Bytes := List.replicate SessionIDLen 1

/-- A server with one session, to which its upstream worker has queued a chunk. -/
def downloadPool : SessionPool :=
  let (pool, session) := SessionPool.new.getOrCreate downloadSid FlagSYN [] 0
  pool.enqueueTx session (upstreamDataFrame downloadSid 0 [1, 2, 3]) 0

/-- The handler is not suspended before it answers and the clock stands still. -/
def promptGap : Gap where
  effects := []
  atCheck := 0
  afterScan := 0

end Astrix
