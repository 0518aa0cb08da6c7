import Astrix.Library.ReservedQueue
import Astrix.Library.StepMachine
import Astrix.OneSession

/-!
# Drains and their snapshots

`SessionPool` used by any number of workers: they put frames on session objects,
drain sessions, and later drop a snapshot whose frames were sent or roll it
back. For a session that stays in the pool this is a queue with reservations:
its transmit queue, and the snapshots of it that are outstanding.
-/

namespace Astrix

open PyRuntime SessionPool

set_option autoImplicit false

/-- Snapshots are named by the number of the drain that took them. A negative
`max_frames` takes nothing. -/
inductive PoolAction where
  | getOrCreate (sid : Bytes) (flags : Nat) (target : Text) (now : ℚ)
  | enqueueTx (session : Nat) (frame : Frame) (now : ℚ)
  | drain (sid : Bytes) (maxFrames : Int)
  | sent (drain : Nat)
  | rollback (drain : Nat) (now : ℚ)
  | remove (sid : Bytes)
  | cleanup (timeout now : ℚ)
  deriving DecidableEq

/-- The pool with all that was put on its session objects, the snapshots not yet
sent or rolled back in the order they were taken, and those that were sent. -/
structure DrainLog where
  pool : SessionPool
  enqueued : List (Nat × Frame)
  drains : Nat
  outstanding : List (Nat × DrainSnapshot)
  sent : List DrainSnapshot

namespace DrainLog

def start : DrainLog where
  pool := SessionPool.new
  enqueued := []
  drains := 0
  outstanding := []
  sent := []

def snapshotOf (log : DrainLog) (drain : Nat) : Option DrainSnapshot :=
  (log.outstanding.find? fun entry => entry.1 = drain).map Prod.snd

def without (log : DrainLog) (drain : Nat) : List (Nat × DrainSnapshot) :=
  log.outstanding.filter fun entry => entry.1 ≠ drain

def step (log : DrainLog) : PoolAction → Option DrainLog
  | .getOrCreate sid flags target now =>
      some { log with pool := (log.pool.getOrCreate sid flags target now).1 }
  | .enqueueTx session frame now =>
      if session < log.pool.fresh then
        some { log with
          pool := log.pool.enqueueTx session frame now
          enqueued := log.enqueued ++ [(session, frame)] }
      else none
  | .drain sid maxFrames =>
      let drained := log.pool.drainTxLimitedTxn sid maxFrames.toNat
      some { log with
        pool := drained.1
        drains := log.drains + 1
        outstanding := log.outstanding ++ [(log.drains, drained.2)] }
  | .sent drain =>
      (log.snapshotOf drain).map fun snapshot =>
        { log with
          outstanding := log.without drain
          sent := log.sent ++ [snapshot] }
  | .rollback drain now =>
      (log.snapshotOf drain).map fun snapshot =>
        { log with
          pool := log.pool.rollbackDrain snapshot now
          outstanding := log.without drain }
  | .remove sid => some { log with pool := log.pool.remove sid }
  | .cleanup timeout now => some { log with pool := (log.pool.cleanupExpired timeout now).1 }

/-- The frames of a session in outstanding snapshots, oldest first. -/
def outstandingFrames (log : DrainLog) (sid : Bytes) : List Frame :=
  (log.outstanding.filter fun entry => entry.2.sessionId = sid).flatMap fun entry =>
    entry.2.frames

def sentFrames (log : DrainLog) (sid : Bytes) : List Frame :=
  (log.sent.filter fun snapshot => snapshot.sessionId = sid).flatMap DrainSnapshot.frames

/-- The session as a queue with reservations. -/
def view (log : DrainLog) (sid : Bytes) (r : Nat) : ReservedQueue Frame where
  queue := (log.pool.objects r).txQ
  reserved := (log.outstanding.filter fun entry => entry.2.sessionId = sid).map fun entry =>
    (entry.1, entry.2.frames)
  settled := log.sentFrames sid

/-- What an action does to that queue. -/
def opOf (log : DrainLog) (sid : Bytes) (r : Nat) : PoolAction → ReservedQueue.Op Frame
  | .enqueueTx session frame _ => .push (valuesAt r [(session, frame)])
  | .drain other maxFrames =>
      if other = sid then .reserve log.drains maxFrames.toNat else .push []
  | .sent drain =>
      if (log.snapshotOf drain).any fun snapshot => snapshot.sessionId = sid then .settle drain
      else .push []
  | .rollback drain _ =>
      if (log.snapshotOf drain).any fun snapshot => snapshot.sessionId = sid then .restore drain
      else .push []
  | .getOrCreate _ _ _ _ | .remove _ | .cleanup _ _ => .push []

end DrainLog

def PoolAction.enqueues : PoolAction → List (Nat × Frame)
  | .enqueueTx session frame _ => [(session, frame)]
  | _ => []

def poolMachine : StepMachine DrainLog PoolAction := ⟨DrainLog.step⟩

/-- The session stays in the pool. -/
def Stays (sid : Bytes) (log : DrainLog) (action : PoolAction) : Prop :=
  ∀ r ∈ log.pool.get sid, ∀ later ∈ log.step action, later.pool.get sid = some r

/-- A rollback is of the most recently taken outstanding snapshot of the
session. -/
def RollsBackLatest (sid : Bytes) (log : DrainLog) : PoolAction → Prop
  | .rollback drain _ => ∀ snapshot ∈ log.snapshotOf drain, snapshot.sessionId = sid →
      ∀ entry ∈ log.outstanding, entry.2.sessionId = sid → entry.1 ≤ drain
  | _ => True

/-- No snapshot of the session taken since the drain is sent. -/
def NotSentSince (start : Nat) (sid : Bytes) (log : DrainLog) : PoolAction → Prop
  | .sent drain => ∀ snapshot ∈ log.snapshotOf drain, snapshot.sessionId = sid → drain < start
  | _ => True

instance (sid : Bytes) (log : DrainLog) (action : PoolAction) : Decidable (Stays sid log action) :=
  inferInstanceAs (Decidable (∀ r ∈ log.pool.get sid, ∀ later ∈ log.step action,
    later.pool.get sid = some r))

instance (sid : Bytes) (log : DrainLog) (action : PoolAction) :
    Decidable (RollsBackLatest sid log action) :=
  match action with
  | .rollback drain _ => inferInstanceAs (Decidable (∀ snapshot ∈ log.snapshotOf drain,
      snapshot.sessionId = sid → ∀ entry ∈ log.outstanding, entry.2.sessionId = sid →
        entry.1 ≤ drain))
  | .getOrCreate _ _ _ _ | .enqueueTx _ _ _ | .drain _ _ | .sent _ | .remove _
  | .cleanup _ _ => isTrue trivial

instance (start : Nat) (sid : Bytes) (log : DrainLog) (action : PoolAction) :
    Decidable (NotSentSince start sid log action) :=
  match action with
  | .sent drain => inferInstanceAs (Decidable (∀ snapshot ∈ log.snapshotOf drain,
      snapshot.sessionId = sid → drain < start))
  | .getOrCreate _ _ _ _ | .enqueueTx _ _ _ | .drain _ _ | .rollback _ _ | .remove _
  | .cleanup _ _ => isTrue trivial

section View

variable {log later : DrainLog} {sid : Bytes} {r : Nat}

theorem enqueue_tx_stepped {session : Nat} {frame : Frame} {now : ℚ}
    (stepped : log.step (.enqueueTx session frame now) = some later) :
    session < log.pool.fresh ∧ later = { log with
      pool := log.pool.enqueueTx session frame now
      enqueued := log.enqueued ++ [(session, frame)] } := by
  simp only [DrainLog.step] at stepped
  split_ifs at stepped with bound
  exact ⟨bound, (Option.some.inj stepped).symm⟩

/-- Snapshots are kept in the order of their numbers. -/
structure Numbered (log : DrainLog) : Prop where
  increasing : log.outstanding.Pairwise fun older newer => older.1 < newer.1
  bound : ∀ entry ∈ log.outstanding, entry.1 < log.drains

theorem snapshot_of_member {drain : Nat} {snapshot : DrainSnapshot}
    (taken : log.snapshotOf drain = some snapshot) : (drain, snapshot) ∈ log.outstanding := by
  obtain ⟨entry, found, rfl⟩ := Option.map_eq_some_iff.mp taken
  have number : entry.1 = drain := by simpa using List.find?_some found
  rw [← number]
  exact List.mem_of_find?_eq_some found

theorem Numbered.only {drain : Nat} {snapshot : DrainSnapshot} (numbered : Numbered log)
    (member : (drain, snapshot) ∈ log.outstanding) :
    (log.outstanding.filter fun entry => entry.1 = drain) = [(drain, snapshot)] := by
  have increasing := numbered.increasing
  revert member increasing
  generalize log.outstanding = entries
  intro member increasing
  induction entries with
  | nil => cases member
  | cons entry rest ih =>
      obtain ⟨later, restIncreasing⟩ := List.pairwise_cons.mp increasing
      rcases List.mem_cons.mp member with rfl | listed
      · have others : (rest.filter fun entry => entry.1 = drain) = [] := by
          apply List.filter_eq_nil_iff.mpr
          intro other otherMember
          have after := later other otherMember
          simp only [decide_eq_true_eq]
          omega
        simp [others]
      · have after := later _ listed
        have different : ¬ entry.1 = drain := by
          simp only at after
          omega
        rw [List.filter_cons, if_neg (by simpa using different)]
        exact ih listed restIncreasing

theorem Numbered.ordered (numbered : Numbered log) : (log.view sid r).Ordered :=
  List.pairwise_map.mpr (numbered.increasing.filter _)

theorem Numbered.step {action : PoolAction} (numbered : Numbered log)
    (stepped : log.step action = some later) : Numbered later ∧ log.drains ≤ later.drains := by
  have dropped : ∀ drain, Numbered { log with outstanding := log.without drain } := fun drain =>
    ⟨numbered.increasing.filter _, fun entry member =>
      numbered.bound entry (List.mem_of_mem_filter member)⟩
  cases action with
  | getOrCreate other flags target now | remove other | cleanup timeout now =>
      cases stepped
      exact ⟨⟨numbered.increasing, numbered.bound⟩, Nat.le_refl _⟩
  | enqueueTx session frame now =>
      obtain ⟨_, rfl⟩ := enqueue_tx_stepped stepped
      exact ⟨⟨numbered.increasing, numbered.bound⟩, Nat.le_refl _⟩
  | drain other maxFrames =>
      cases stepped
      refine ⟨⟨?_, ?_⟩, Nat.le_succ _⟩
      · refine List.pairwise_append.mpr ⟨numbered.increasing, List.pairwise_singleton _ _, ?_⟩
        intro older member newer new
        rw [List.mem_singleton.mp new]
        exact numbered.bound older member
      · intro entry member
        rcases List.mem_append.mp member with old | new
        · exact Nat.lt_succ_of_lt (numbered.bound entry old)
        · rw [List.mem_singleton.mp new]
          exact Nat.lt_succ_self _
  | sent drain =>
      obtain ⟨snapshot, _, rfl⟩ := Option.map_eq_some_iff.mp stepped
      exact ⟨⟨(dropped drain).increasing, (dropped drain).bound⟩, Nat.le_refl _⟩
  | rollback drain now =>
      obtain ⟨snapshot, _, rfl⟩ := Option.map_eq_some_iff.mp stepped
      exact ⟨⟨(dropped drain).increasing, (dropped drain).bound⟩, Nat.le_refl _⟩

theorem push_nothing (q : ReservedQueue Frame) : q.apply (.push []) = q := by
  simp [ReservedQueue.apply]

/-- The reservations without one drain, and those of one drain. -/
theorem view_without (drain : Nat) :
    ((log.without drain).filter fun entry => entry.2.sessionId = sid).map
      (fun entry => (entry.1, entry.2.frames)) = (log.view sid r).without drain := by
  simp only [DrainLog.without, ReservedQueue.without, DrainLog.view, List.filter_map,
    List.filter_filter]
  congr 1
  apply List.filter_congr
  intro entry _
  exact Bool.and_comm _ _

theorem view_items {drain : Nat} {snapshot : DrainSnapshot} (numbered : Numbered log)
    (taken : log.snapshotOf drain = some snapshot) (own : snapshot.sessionId = sid) :
    (log.view sid r).itemsOf drain = snapshot.frames := by
  have only := numbered.only (snapshot_of_member taken)
  have tagged : ((log.view sid r).reserved.filter fun entry => entry.1 = drain) =
      ((log.outstanding.filter fun entry => entry.1 = drain).filter fun entry =>
        entry.2.sessionId = sid).map fun entry => (entry.1, entry.2.frames) := by
    simp only [DrainLog.view, List.filter_map, List.filter_filter]
    congr 1
    apply List.filter_congr
    intro entry _
    exact Bool.and_comm _ _
  rw [ReservedQueue.itemsOf, tagged, only]
  simp [own]

/-- Other sessions' snapshots leave the view alone. -/
theorem view_without_other {drain : Nat} {snapshot : DrainSnapshot} (numbered : Numbered log)
    (taken : log.snapshotOf drain = some snapshot) (other : snapshot.sessionId ≠ sid) :
    (log.view sid r).without drain = (log.view sid r).reserved := by
  have only := numbered.only (snapshot_of_member taken)
  apply List.filter_eq_self.mpr
  intro entry member
  obtain ⟨source, listed, rfl⟩ := List.mem_map.mp member
  obtain ⟨present, own⟩ := List.mem_filter.mp listed
  have own : source.2.sessionId = sid := by simpa using own
  simp only [decide_eq_true_eq]
  intro same
  have found : source ∈ log.outstanding.filter fun entry => entry.1 = drain :=
    List.mem_filter.mpr ⟨present, decide_eq_true same⟩
  rw [only, List.mem_singleton] at found
  rw [found] at own
  exact other own

end View

section Pool

variable {pool : SessionPool} {sid other : Bytes} {r : Nat}

/-- Two ids of the dictionary have different objects. -/
theorem other_object {ref : Nat} (found : pool.get sid = some r)
    (foundOther : pool.get other = some ref) (different : other ≠ sid) : r ≠ ref := by
  rintro rfl
  exact different ((get_keyed foundOther).2.symm.trans (get_keyed found).2)

theorem drained_own (found : pool.get sid = some r) (maxFrames : Nat) :
    ((pool.drainTxLimitedTxn sid maxFrames).1.objects r).txQ =
        (pool.objects r).txQ.drop maxFrames ∧
      (pool.drainTxLimitedTxn sid maxFrames).2.frames = (pool.objects r).txQ.take maxFrames := by
  rcases drain_cases pool sid maxFrames with ⟨empty, same⟩ | ⟨ref, present, _, taken⟩
  · rw [same]
    dsimp only
    rw [empty r found]
    exact ⟨List.drop_nil.symm, List.take_nil.symm⟩
  · rw [found] at present
    cases present
    rw [taken]
    dsimp only
    rw [drain_tx_objects, if_pos rfl]
    exact ⟨rfl, rfl⟩

theorem drained_other (found : pool.get sid = some r) (different : other ≠ sid)
    (maxFrames : Nat) :
    ((pool.drainTxLimitedTxn other maxFrames).1.objects r).txQ = (pool.objects r).txQ := by
  rcases drain_cases pool other maxFrames with ⟨_, same⟩ | ⟨ref, present, _, taken⟩
  · rw [same]
  · rw [taken]
    dsimp only
    rw [drain_tx_objects, if_neg (other_object found present different)]

theorem drained_id (pool : SessionPool) (other : Bytes) (maxFrames : Nat) :
    (pool.drainTxLimitedTxn other maxFrames).2.sessionId = other := by
  rcases drain_cases pool other maxFrames with ⟨_, same⟩ | ⟨ref, _, _, taken⟩
  · rw [same]
  · rw [taken]

theorem rolled_back {snapshot : DrainSnapshot} (found : pool.get sid = some r) (now : ℚ) :
    ((pool.rollbackDrain snapshot now).objects r).txQ =
      if snapshot.sessionId = sid then snapshot.frames ++ (pool.objects r).txQ
      else (pool.objects r).txQ := by
  by_cases own : snapshot.sessionId = sid
  · rw [if_pos own, rollbackDrain, own, found]
    dsimp only
    rw [rollback_tx_objects, if_pos rfl]
    rfl
  · rw [if_neg own, rollbackDrain]
    cases present : pool.get snapshot.sessionId with
    | none => rfl
    | some ref =>
        dsimp only
        rw [rollback_tx_objects, if_neg (other_object found present own)]

end Pool

section View

variable {log later : DrainLog} {sid : Bytes} {r : Nat}

/-- A drain reserves the front of its session's queue and leaves the others. -/
theorem view_drained {other : Bytes} {maxFrames : Int} (found : log.pool.get sid = some r)
    (stepped : log.step (.drain other maxFrames) = some later) :
    later.view sid r = (log.view sid r).apply (log.opOf sid r (.drain other maxFrames)) := by
  cases stepped
  by_cases own : other = sid
  · subst own
    obtain ⟨queue, taken⟩ := drained_own found maxFrames.toNat
    have listed : ([(log.drains, (log.pool.drainTxLimitedTxn other maxFrames.toNat).2)].filter
        fun entry : Nat × DrainSnapshot => entry.2.sessionId = other) =
          [(log.drains, (log.pool.drainTxLimitedTxn other maxFrames.toNat).2)] :=
      List.filter_eq_self.mpr fun entry member => by
        rw [List.mem_singleton.mp member, drained_id]
        exact decide_eq_true rfl
    simp only [DrainLog.view, DrainLog.sentFrames, DrainLog.opOf, if_true,
      ReservedQueue.apply, queue, List.filter_append, List.map_append, listed,
      List.map_cons, List.map_nil, taken]
  · have queue := drained_other found own maxFrames.toNat
    have unlisted : ([(log.drains, (log.pool.drainTxLimitedTxn other maxFrames.toNat).2)].filter
        fun entry : Nat × DrainSnapshot => entry.2.sessionId = sid) = [] :=
      List.filter_eq_nil_iff.mpr fun entry member => by
        rw [List.mem_singleton.mp member, drained_id]
        simpa using own
    rw [DrainLog.opOf, if_neg own, push_nothing]
    simp only [DrainLog.view, DrainLog.sentFrames, queue, List.filter_append, unlisted,
      List.append_nil]

/-- Every action is, for a session of the pool, the operation on its queue with
reservations. -/
theorem view_step {action : PoolAction} (numbered : Numbered log)
    (found : log.pool.get sid = some r) (stepped : log.step action = some later) :
    later.view sid r = (log.view sid r).apply (log.opOf sid r action) := by
  have bound := (get_keyed found).1
  cases action with
  | getOrCreate other flags target now =>
      cases stepped
      rw [DrainLog.opOf, push_nothing]
      rcases get_or_create_cases log.pool other flags target now with ⟨ref, _, same⟩ |
        ⟨missing, made⟩
      · simp only [DrainLog.view, DrainLog.sentFrames, same]
      · simp only [DrainLog.view, DrainLog.sentFrames, made, insert_objects,
          if_neg (Nat.ne_of_lt bound)]
  | enqueueTx session frame now =>
      obtain ⟨_, rfl⟩ := enqueue_tx_stepped stepped
      have queue : ((log.pool.enqueueTx session frame now).objects r).txQ =
          (log.pool.objects r).txQ ++ valuesAt r [(session, frame)] := by
        rw [enqueue_tx_objects]
        split_ifs with own
        · rw [own]
          exact congrArg _ (values_at_self session [frame]).symm
        · exact ((congrArg _ (values_at_other own [frame])).trans (List.append_nil _)).symm
      simp only [DrainLog.view, DrainLog.sentFrames, DrainLog.opOf, ReservedQueue.apply, queue]
  | drain other maxFrames => exact view_drained found stepped
  | sent drain =>
      obtain ⟨snapshot, taken, rfl⟩ := Option.map_eq_some_iff.mp stepped
      by_cases own : snapshot.sessionId = sid
      · have settles : log.opOf sid r (.sent drain) = .settle drain := by
          rw [DrainLog.opOf, taken]
          exact if_pos (decide_eq_true own)
        rw [settles, ReservedQueue.apply, view_items numbered taken own, ← view_without]
        simp [DrainLog.view, DrainLog.sentFrames, List.filter_append, own]
      · have nothing : log.opOf sid r (.sent drain) = .push [] := by
          rw [DrainLog.opOf, taken]
          exact if_neg (by simpa using own)
        have kept := @view_without log sid r drain
        rw [view_without_other numbered taken own] at kept
        rw [nothing, push_nothing]
        simp [DrainLog.view, DrainLog.sentFrames, List.filter_append, own, kept]
  | rollback drain now =>
      obtain ⟨snapshot, taken, rfl⟩ := Option.map_eq_some_iff.mp stepped
      have queue := @rolled_back log.pool sid r snapshot found now
      by_cases own : snapshot.sessionId = sid
      · have restores : log.opOf sid r (.rollback drain now) = .restore drain := by
          rw [DrainLog.opOf, taken]
          exact if_pos (decide_eq_true own)
        rw [if_pos own] at queue
        rw [restores, ReservedQueue.apply, view_items numbered taken own, ← view_without]
        simp [DrainLog.view, DrainLog.sentFrames, queue]
      · have nothing : log.opOf sid r (.rollback drain now) = .push [] := by
          rw [DrainLog.opOf, taken]
          exact if_neg (by simpa using own)
        have kept := @view_without log sid r drain
        rw [view_without_other numbered taken own] at kept
        rw [if_neg own] at queue
        rw [nothing, push_nothing]
        simp [DrainLog.view, DrainLog.sentFrames, queue, kept]
  | remove other =>
      cases stepped
      rw [DrainLog.opOf, push_nothing]
      rfl
  | cleanup timeout now =>
      cases stepped
      rw [DrainLog.opOf, push_nothing]
      simp only [DrainLog.view, DrainLog.sentFrames, cleanup_tx]

end View

section Runs

variable {log later : DrainLog} {sid : Bytes} {r : Nat}

/-- Snapshots of a session that is not in the pool are empty. -/
def NothingTaken (sid : Bytes) (log : DrainLog) : Prop :=
  (∀ entry ∈ log.outstanding, entry.2.sessionId = sid → entry.2.frames = []) ∧
    ∀ snapshot ∈ log.sent, snapshot.sessionId = sid → snapshot.frames = []

/-- What a run keeps besides the queue of one session. -/
structure PoolSound (sid : Bytes) (log : DrainLog) : Prop where
  numbered : Numbered log
  blank : BlankTx log.pool
  allocated : ∀ entry ∈ log.enqueued, entry.1 < log.pool.fresh
  missing : log.pool.get sid = none → NothingTaken sid log

theorem pool_start_sound (sid : Bytes) : PoolSound sid DrainLog.start where
  numbered := ⟨List.Pairwise.nil, List.forall_mem_nil _⟩
  blank _ _ := rfl
  allocated := List.forall_mem_nil _
  missing _ := ⟨List.forall_mem_nil _, List.forall_mem_nil _⟩

/-- An action that makes no session. -/
structure MakesNone (before after : SessionPool) : Prop where
  fresh : after.fresh = before.fresh
  get : ∀ key s, after.get key = some s → before.get key = some s
  tx : ∀ s, before.fresh ≤ s → (after.objects s).txQ = (before.objects s).txQ

theorem makes_none_modify {pool : SessionPool} {ref : Nat} {change : Session → Session}
    {sameId : ∀ s, (change s).sessionId = s.sessionId} (bound : ref < pool.fresh) :
    MakesNone pool (pool.modify ref change sameId) where
  fresh := rfl
  get _ _ found := found
  tx s unallocated := by
    have other : s ≠ ref := by omega
    rw [modify_objects_of_ne _ _ _ _ _ other]

theorem step_makes {action : PoolAction} (stepped : log.step action = some later) :
    MakesNone log.pool later.pool ∨
      ∃ other flags target now, ∃ missing : log.pool.get other = none,
        later = { log with pool := log.pool.insert other flags target now missing } := by
  cases action with
  | getOrCreate other flags target now =>
      cases stepped
      rcases get_or_create_cases log.pool other flags target now with ⟨ref, _, same⟩ |
        ⟨missing, made⟩
      · refine .inl ?_
        dsimp only
        rw [same]
        exact ⟨rfl, fun _ _ found => found, fun _ _ => rfl⟩
      · refine .inr ⟨other, flags, target, now, missing, ?_⟩
        rw [made]
  | enqueueTx session frame now =>
      obtain ⟨bound, rfl⟩ := enqueue_tx_stepped stepped
      have kept : MakesNone log.pool (log.pool.enqueueTx session frame now) :=
        makes_none_modify bound
      exact .inl kept
  | drain other maxFrames =>
      cases stepped
      refine .inl ?_
      dsimp only
      rcases drain_cases log.pool other maxFrames.toNat with ⟨_, same⟩ | ⟨ref, found, _, taken⟩
      · rw [same]
        exact ⟨rfl, fun _ _ found => found, fun _ _ => rfl⟩
      · rw [taken]
        have kept : MakesNone log.pool (log.pool.drainTx ref maxFrames.toNat) :=
          makes_none_modify (get_keyed found).1
        exact kept
  | sent drain =>
      obtain ⟨snapshot, _, rfl⟩ := Option.map_eq_some_iff.mp stepped
      exact .inl ⟨rfl, fun _ _ found => found, fun _ _ => rfl⟩
  | rollback drain now =>
      obtain ⟨snapshot, _, rfl⟩ := Option.map_eq_some_iff.mp stepped
      refine .inl ?_
      dsimp only
      rw [rollbackDrain]
      cases found : log.pool.get snapshot.sessionId with
      | none => exact ⟨rfl, fun _ _ present => present, fun _ _ => rfl⟩
      | some ref => exact makes_none_modify (get_keyed found).1
  | remove other =>
      cases stepped
      exact .inl ⟨rfl, fun _ _ found => get_remove_some found, fun _ _ => rfl⟩
  | cleanup timeout now =>
      cases stepped
      refine .inl ?_
      have kept : Kept log.pool (log.pool.cleanupExpired timeout now).1 :=
        cleanup_preserves (fun start entry _ kept => kept.trans (kept_purge start entry))
          (Kept.refl _)
      exact ⟨kept.fresh, kept.get, fun s _ => cleanup_tx _ _ _ s⟩

theorem step_enqueued {action : PoolAction} (stepped : log.step action = some later) :
    later.enqueued = log.enqueued ++ action.enqueues ∧
      ∀ entry ∈ action.enqueues, entry.1 < log.pool.fresh := by
  cases action with
  | enqueueTx session frame now =>
      obtain ⟨bound, rfl⟩ := enqueue_tx_stepped stepped
      refine ⟨rfl, fun entry member => ?_⟩
      rw [List.mem_singleton.mp member]
      exact bound
  | sent drain | rollback drain now =>
      obtain ⟨snapshot, _, rfl⟩ := Option.map_eq_some_iff.mp stepped
      exact ⟨(List.append_nil _).symm, List.forall_mem_nil _⟩
  | getOrCreate other flags target now | drain other maxFrames | remove other
  | cleanup timeout now =>
      cases stepped
      exact ⟨(List.append_nil _).symm, List.forall_mem_nil _⟩

/-- While the session is missing, no drain takes anything of it. -/
theorem step_nothing_taken {action : PoolAction} (nothing : NothingTaken sid log)
    (missing : log.pool.get sid = none) (stepped : log.step action = some later) :
    NothingTaken sid later := by
  obtain ⟨outstanding, sent⟩ := nothing
  have fewer : ∀ drain, ∀ entry ∈ log.without drain, entry.2.sessionId = sid →
      entry.2.frames = [] := fun drain entry member =>
    outstanding entry (List.mem_of_mem_filter member)
  cases action with
  | enqueueTx session frame now =>
      obtain ⟨_, rfl⟩ := enqueue_tx_stepped stepped
      exact ⟨outstanding, sent⟩
  | drain other maxFrames =>
      cases stepped
      refine ⟨fun entry member own => ?_, sent⟩
      rcases List.mem_append.mp member with old | new
      · exact outstanding entry old own
      · rw [List.mem_singleton.mp new] at own ⊢
        dsimp only at own ⊢
        rw [drained_id] at own
        rw [own, drainTxLimitedTxn, missing]
  | sent drain =>
      obtain ⟨snapshot, taken, rfl⟩ := Option.map_eq_some_iff.mp stepped
      refine ⟨fewer drain, fun other member own => ?_⟩
      rcases List.mem_append.mp member with old | new
      · exact sent other old own
      · rw [List.mem_singleton.mp new] at own ⊢
        exact outstanding _ (snapshot_of_member taken) own
  | rollback drain now =>
      obtain ⟨snapshot, _, rfl⟩ := Option.map_eq_some_iff.mp stepped
      exact ⟨fewer drain, sent⟩
  | getOrCreate other flags target now | remove other | cleanup timeout now =>
      cases stepped
      exact ⟨outstanding, sent⟩

theorem PoolSound.step {action : PoolAction} (sound : PoolSound sid log)
    (stays : Stays sid log action) (stepped : log.step action = some later) :
    PoolSound sid later := by
  have was : later.pool.get sid = none → log.pool.get sid = none := by
    intro gone
    cases found : log.pool.get sid with
    | none => rfl
    | some r =>
        rw [stays r found later stepped] at gone
        cases gone
  obtain ⟨enqueued, allocated⟩ := step_enqueued stepped
  have grown : log.pool.fresh ≤ later.pool.fresh ∧ BlankTx later.pool := by
    rcases step_makes stepped with none | ⟨other, flags, target, now, missing, rfl⟩
    · refine ⟨Nat.le_of_eq none.fresh.symm, fun s unallocated => ?_⟩
      rw [none.fresh] at unallocated
      rw [none.tx s unallocated]
      exact sound.blank s unallocated
    · refine ⟨Nat.le_succ _, fun s unallocated => ?_⟩
      have unallocated : log.pool.fresh + 1 ≤ s := unallocated
      dsimp only
      rw [insert_objects, if_neg (by omega)]
      exact sound.blank s (by omega)
  refine ⟨(sound.numbered.step stepped).1, grown.2, fun entry member => ?_, fun gone => ?_⟩
  · rw [enqueued] at member
    rcases List.mem_append.mp member with old | new
    · exact (sound.allocated entry old).trans_le grown.1
    · exact (allocated entry new).trans_le grown.1
  · exact step_nothing_taken (sound.missing (was gone)) (was gone) stepped

/-- A session that has just been made has an empty queue, and nothing was put on
it or taken from it. -/
theorem view_made {action : PoolAction} (sound : PoolSound sid log)
    (missing : log.pool.get sid = none) (stepped : log.step action = some later)
    (found : later.pool.get sid = some r) :
    (later.view sid r).held = [] ∧ (later.view sid r).settled = [] ∧
      valuesAt r later.enqueued = [] := by
  rcases step_makes stepped with none | ⟨other, flags, target, now, absent, rfl⟩
  · rw [none.get sid r found] at missing
    cases missing
  · have made : r = log.pool.fresh := by
      by_cases own : sid = other
      · subst own
        have get : (log.pool.insert sid flags target now absent).get sid =
          some log.pool.fresh := OrderedDict.get_insert_new_self _ _ _ (fresh_key absent)
        exact Option.some.inj (found.symm.trans get)
      · have get : (log.pool.insert other flags target now absent).get sid =
          log.pool.get sid :=
          OrderedDict.get_insert_new_of_ne _ _ _ _ (fresh_key absent) own
        have found : (log.pool.insert other flags target now absent).get sid = some r := found
        rw [get, missing] at found
        cases found
    obtain ⟨outstanding, sent⟩ := sound.missing missing
    subst made
    refine ⟨?_, ?_, ?_⟩
    · have queue : ((log.pool.insert other flags target now absent).objects
          log.pool.fresh).txQ = [] := by
        rw [insert_objects, if_pos rfl]
        rfl
      simp only [ReservedQueue.held, DrainLog.view, queue, List.append_nil]
      apply List.flatMap_eq_nil_iff.mpr
      intro entry member
      obtain ⟨source, listed, rfl⟩ := List.mem_map.mp member
      obtain ⟨present, own⟩ := List.mem_filter.mp listed
      exact outstanding source present (of_decide_eq_true own)
    · apply List.flatMap_eq_nil_iff.mpr
      intro snapshot member
      obtain ⟨present, own⟩ := List.mem_filter.mp member
      exact sent snapshot present (of_decide_eq_true own)
    · rw [valuesAt, List.map_eq_nil_iff]
      apply List.filter_eq_nil_iff.mpr
      intro entry member
      have bound := sound.allocated entry member
      simp only [decide_eq_true_eq]
      omega

theorem view_held :
    (log.view sid r).held = log.outstandingFrames sid ++ (log.pool.objects r).txQ := by
  simp only [ReservedQueue.held, DrainLog.view, DrainLog.outstandingFrames, List.flatMap_map]

theorem op_pushes (action : PoolAction) :
    (log.opOf sid r action).pushed = valuesAt r action.enqueues := by
  cases action with
  | enqueueTx session frame now => rfl
  | drain other maxFrames | sent drain | rollback drain now =>
      rw [DrainLog.opOf]
      split_ifs <;> rfl
  | getOrCreate other flags target now | remove other | cleanup timeout now => rfl

/-- What holds of an empty queue, and is kept by the operations that the actions
of a run can be, holds of the session in every state of the run. -/
theorem run_view {allowed : DrainLog → PoolAction → Prop} {history : List PoolAction}
    {P : ReservedQueue Frame → List Frame → Prop}
    (stays : ∀ state action, allowed state action → Stays sid state action)
    (made : ∀ q, q.held = [] → q.settled = [] → P q [])
    (kept : ∀ state action s pushed, Numbered state → allowed state action →
      P (state.view sid s) pushed →
        P ((state.view sid s).apply (state.opOf sid s action))
          (pushed ++ (state.opOf sid s action).pushed))
    (run : poolMachine.Run allowed DrainLog.start history log) :
    PoolSound sid log ∧
      ∀ s, log.pool.get sid = some s → P (log.view sid s) (valuesAt s log.enqueued) := by
  apply run.invariant
  · exact ⟨pool_start_sound sid, fun s found => by cases found⟩
  · rintro state action after ⟨sound, property⟩ permitted stepped
    have stay := stays state action permitted
    refine ⟨sound.step stay stepped, fun s found => ?_⟩
    cases before : state.pool.get sid with
    | none =>
        obtain ⟨held, settled, values⟩ := view_made sound before stepped found
        rw [values]
        exact made _ held settled
    | some t =>
        have same := stay t before after stepped
        rw [found] at same
        cases same
        rw [view_step sound.numbered before stepped, (step_enqueued stepped).1, values_at_append,
          ← @op_pushes state sid s action]
        exact kept state action s _ sound.numbered permitted (property s before)

theorem op_last_first {action : PoolAction} (latest : RollsBackLatest sid log action) :
    (log.view sid r).LastFirst (log.opOf sid r action) := by
  cases action with
  | rollback drain now =>
      rw [DrainLog.opOf]
      split_ifs with own
      · obtain ⟨snapshot, taken, same⟩ := (Option.any_eq_true _ _).mp own
        intro entry member
        obtain ⟨source, listed, rfl⟩ := List.mem_map.mp member
        obtain ⟨present, mine⟩ := List.mem_filter.mp listed
        exact latest snapshot taken (of_decide_eq_true same) source present
          (of_decide_eq_true mine)
      · trivial
  | drain other maxFrames | sent drain =>
      rw [DrainLog.opOf]
      split_ifs <;> trivial
  | getOrCreate other flags target now | enqueueTx session frame now | remove other
  | cleanup timeout now => trivial

/-- While the snapshot of a drain is outstanding, what happens to the session
can be undone back to that drain. -/
theorem op_undoable {action : PoolAction} {n : Nat} {snapshot : DrainSnapshot}
    (latest : RollsBackLatest sid log action) (unsent : NotSentSince n sid log action)
    (early : n ≤ log.drains) (own : snapshot.sessionId = sid)
    (outstanding : (n, snapshot) ∈ log.outstanding) :
    ReservedQueue.Undoable n (log.opOf sid r action) := by
  cases action with
  | drain other maxFrames =>
      rw [DrainLog.opOf]
      split_ifs
      · exact early
      · trivial
  | sent drain =>
      rw [DrainLog.opOf]
      split_ifs with mine
      · obtain ⟨taken, found, same⟩ := (Option.any_eq_true _ _).mp mine
        exact unsent taken found (of_decide_eq_true same)
      · trivial
  | rollback drain now =>
      rw [DrainLog.opOf]
      split_ifs with mine
      · obtain ⟨taken, found, same⟩ := (Option.any_eq_true _ _).mp mine
        exact latest taken found (of_decide_eq_true same) (n, snapshot) outstanding own
      · trivial
  | getOrCreate other flags target now | enqueueTx session frame now | remove other
  | cleanup timeout now => trivial

theorem outstanding_before {action : PoolAction} {n : Nat} {snapshot : DrainSnapshot}
    (stepped : log.step action = some later) (early : n < log.drains)
    (outstanding : (n, snapshot) ∈ later.outstanding) : (n, snapshot) ∈ log.outstanding := by
  cases action with
  | enqueueTx session frame now =>
      obtain ⟨_, rfl⟩ := enqueue_tx_stepped stepped
      exact outstanding
  | drain other maxFrames =>
      cases stepped
      rcases List.mem_append.mp outstanding with old | new
      · exact old
      · have same : n = log.drains := congrArg Prod.fst (List.mem_singleton.mp new)
        omega
  | sent drain | rollback drain now =>
      obtain ⟨taken, _, rfl⟩ := Option.map_eq_some_iff.mp stepped
      exact List.mem_of_mem_filter outstanding
  | getOrCreate other flags target now | remove other | cleanup timeout now =>
      cases stepped
      exact outstanding

/-- The state after a drain of the session, while it can still be undone. -/
structure SinceDrain (sid : Bytes) (r n : Nat) (queue : List Frame) (past : List PoolAction)
    (log : DrainLog) : Prop where
  numbered : Numbered log
  found : log.pool.get sid = some r
  early : n < log.drains
  held : ∀ snapshot, (n, snapshot) ∈ log.outstanding → snapshot.sessionId = sid ∧
    (log.view sid r).heldSince n = queue ++ valuesAt r (past.flatMap PoolAction.enqueues)

theorem since_drained {maxFrames : Int} (numbered : Numbered log)
    (found : log.pool.get sid = some r) (stays : Stays sid log (.drain sid maxFrames))
    (stepped : log.step (.drain sid maxFrames) = some later) :
    SinceDrain sid r log.drains (log.pool.objects r).txQ [] later := by
  have after := view_step numbered found stepped
  have reserves : log.opOf sid r (.drain sid maxFrames) = .reserve log.drains maxFrames.toNat :=
    if_pos rfl
  refine ⟨(numbered.step stepped).1, stays r found later stepped, ?_, fun snapshot member => ?_⟩
  · cases stepped
    exact Nat.lt_succ_self _
  · constructor
    · cases stepped
      rcases List.mem_append.mp member with old | new
      · exact absurd (numbered.bound _ old) (Nat.lt_irrefl _)
      · have same := congrArg Prod.snd (List.mem_singleton.mp new)
        exact (congrArg DrainSnapshot.sessionId same).trans (drained_id _ _ _)
    · rw [after, reserves, ReservedQueue.held_since_reserved]
      · exact (List.append_nil _).symm
      · intro entry listed
        obtain ⟨source, present, rfl⟩ := List.mem_map.mp listed
        exact numbered.bound source (List.mem_of_mem_filter present)

theorem SinceDrain.step {n : Nat} {queue : List Frame} {past : List PoolAction}
    {action : PoolAction} (since : SinceDrain sid r n queue past log)
    (stays : Stays sid log action) (latest : RollsBackLatest sid log action)
    (unsent : NotSentSince n sid log action) (stepped : log.step action = some later) :
    SinceDrain sid r n queue (past ++ [action]) later := by
  obtain ⟨numbered, grown⟩ := since.numbered.step stepped
  refine ⟨numbered, stays r since.found later stepped, since.early.trans_le grown,
    fun snapshot member => ?_⟩
  have present := outstanding_before stepped since.early member
  obtain ⟨own, held⟩ := since.held snapshot present
  refine ⟨own, ?_⟩
  rw [view_step since.numbered since.found stepped,
    ReservedQueue.apply_held_since _ since.numbered.ordered (op_last_first latest)
      (op_undoable latest unsent (Nat.le_of_lt since.early) own present),
    held, op_pushes, List.flatMap_append, values_at_append, List.flatMap_singleton,
    List.append_assoc]

/-- The rollback of the drain puts the queue back, with what was added since. -/
theorem SinceDrain.rolled_back {n : Nat} {queue : List Frame} {past : List PoolAction} {now : ℚ}
    (since : SinceDrain sid r n queue past log) (latest : RollsBackLatest sid log (.rollback n now))
    (stepped : log.step (.rollback n now) = some later) :
    (later.pool.objects r).txQ = queue ++ valuesAt r (past.flatMap PoolAction.enqueues) := by
  obtain ⟨snapshot, taken, _⟩ := Option.map_eq_some_iff.mp stepped
  obtain ⟨own, held⟩ := since.held snapshot (snapshot_of_member taken)
  have restores : log.opOf sid r (.rollback n now) = .restore n := by
    rw [DrainLog.opOf, taken]
    exact if_pos (decide_eq_true own)
  have newest := @op_last_first log sid r _ latest
  rw [restores] at newest
  have undone := ReservedQueue.apply_held_since (log.view sid r) since.numbered.ordered newest
    (Nat.le_refl n)
  rw [ReservedQueue.held_since_restored _ newest, ← restores,
    ← view_step since.numbered since.found stepped, held, restores] at undone
  exact undone.trans (List.append_nil _)

end Runs

/-- The drains of a session that stays in the pool, in any order of the workers'
actions. Nothing is lost or doubled; when only the latest snapshot is ever rolled
back the outstanding snapshots and the queue keep the order in which frames were
enqueued; and then a drain that is rolled back leaves the queue as the enqueues
since alone would have. -/
theorem pool_conserves_frames (sid : Bytes) :
    (∀ history log, poolMachine.Run (Stays sid) DrainLog.start history log →
      ∀ r, log.pool.get sid = some r →
        (log.outstandingFrames sid ++ (log.pool.objects r).txQ ++ log.sentFrames sid).Perm
          (valuesAt r log.enqueued)) ∧
    (∀ history log,
      poolMachine.Run (fun state action => Stays sid state action ∧
        RollsBackLatest sid state action) DrainLog.start history log →
      ∀ r, log.pool.get sid = some r →
        (log.outstandingFrames sid ++ (log.pool.objects r).txQ).Sublist
          (valuesAt r log.enqueued)) ∧
    ∀ history before, poolMachine.Run (Stays sid) DrainLog.start history before →
      ∀ r, before.pool.get sid = some r →
      ∀ maxFrames drained middle returned now later,
        Stays sid before (.drain sid maxFrames) →
        before.step (.drain sid maxFrames) = some drained →
        poolMachine.Run (fun state action => Stays sid state action ∧
          RollsBackLatest sid state action ∧ NotSentSince before.drains sid state action)
          drained middle returned →
        RollsBackLatest sid returned (.rollback before.drains now) →
        returned.step (.rollback before.drains now) = some later →
        (later.pool.objects r).txQ = (before.pool.objects r).txQ ++
          valuesAt r (middle.flatMap PoolAction.enqueues) := by
  refine ⟨?_, ?_, ?_⟩
  · intro history log run r found
    have conserved := (run_view (P := fun q pushed => (q.held ++ q.settled).Perm pushed)
      (fun _ _ stays => stays)
      (fun q held settled => by rw [held, settled, List.append_nil])
      (fun _ _ _ _ _ _ before =>
        (ReservedQueue.apply_conserves _ _).trans (before.append_right _)) run).2 r found
    rw [view_held] at conserved
    exact conserved
  · intro history log run r found
    have ordered := (run_view (P := fun q pushed => q.held.Sublist pushed)
      (fun _ _ permitted => permitted.1)
      (fun q held _ => by rw [held])
      (fun _ _ _ _ numbered permitted before =>
        (ReservedQueue.apply_held _ numbered.ordered (op_last_first permitted.2)).trans
          (before.append_right _)) run).2 r found
    rw [view_held] at ordered
    exact ordered
  · intro history before run r found maxFrames drained middle returned now later stays drain
      between latest rollback
    have numbered : Numbered before :=
      (run_view (P := fun _ _ => True) (fun _ _ stays => stays) (fun _ _ _ => trivial)
        (fun _ _ _ _ _ _ _ => trivial) run).1.numbered
    have since : SinceDrain sid r before.drains (before.pool.objects r).txQ middle returned :=
      between.invariant_with_history (since_drained numbered found stays drain)
        fun past state action after since permitted stepped =>
          since.step permitted.1 permitted.2.1 permitted.2.2 stepped
    exact since.rolled_back latest rollback

def numberedFrame (number : UInt8) : Frame where
  sessionId := [1]
  seq := 0
  flags := 0
  target := []
  payload := [number]

/-- Two snapshots are outstanding when more frames come in; the older one is
sent and the newer one rolled back. -/
def sentAndRolledBack : List PoolAction :=
  [.getOrCreate [1] 0 [] 0, .enqueueTx 0 (numberedFrame 1) 0, .enqueueTx 0 (numberedFrame 2) 0,
    .enqueueTx 0 (numberedFrame 3) 0, .drain [1] 1, .drain [1] 1,
    .enqueueTx 0 (numberedFrame 4) 0, .sent 0, .rollback 1 0]

/-- The states of a third drain: before it, after it, when a frame more is queued and
when it is rolled back. -/
def drainedAgain : Option (DrainLog × DrainLog × DrainLog × DrainLog) := do
  let before ← poolMachine.exec (fun state action => Stays [1] state action ∧
    RollsBackLatest [1] state action) DrainLog.start sentAndRolledBack
  let drained ← before.step (.drain [1] 2)
  let returned ← poolMachine.exec (fun state action => Stays [1] state action ∧
    RollsBackLatest [1] state action ∧ NotSentSince before.drains [1] state action) drained
    [.enqueueTx 0 (numberedFrame 5) 0]
  let later ← returned.step (.rollback before.drains 0)
  pure (before, drained, returned, later)

theorem drained_again_conserves : ∃ before later : DrainLog,
    poolMachine.Run (Stays [1]) DrainLog.start sentAndRolledBack before ∧
      (before.pool.objects 0).txQ = [numberedFrame 2, numberedFrame 3, numberedFrame 4] ∧
      (before.outstandingFrames [1] ++ (before.pool.objects 0).txQ ++
        before.sentFrames [1]).Perm (valuesAt 0 before.enqueued) ∧
      (before.outstandingFrames [1] ++ (before.pool.objects 0).txQ).Sublist
        (valuesAt 0 before.enqueued) ∧
      (later.pool.objects 0).txQ = (before.pool.objects 0).txQ ++ [numberedFrame 5] := by
  have passed : (drainedAgain.any fun states => decide (
      (states.1.pool.objects 0).txQ = [numberedFrame 2, numberedFrame 3, numberedFrame 4] ∧
        states.1.pool.get [1] = some 0 ∧ Stays [1] states.1 (.drain [1] 2) ∧
        RollsBackLatest [1] states.2.2.1 (.rollback states.1.drains 0))) = true := by
    decide +kernel
  obtain ⟨⟨before, drained, returned, later⟩, executed, checked⟩ :=
    (Option.any_eq_true _ _).mp passed
  obtain ⟨queue, found, stays, latest⟩ := of_decide_eq_true checked
  unfold drainedAgain at executed
  obtain ⟨_, first, executed⟩ := Option.bind_eq_some_iff.mp executed
  obtain ⟨_, drain, executed⟩ := Option.bind_eq_some_iff.mp executed
  obtain ⟨_, between, executed⟩ := Option.bind_eq_some_iff.mp executed
  obtain ⟨_, rollback, same⟩ := Option.bind_eq_some_iff.mp executed
  cases same
  have run := StepMachine.run_of_exec _ first
  have kept := run.weaken fun _ _ permitted => permitted.1
  have conserves := pool_conserves_frames [1]
  exact ⟨before, later, kept, queue, conserves.1 _ _ kept 0 found, conserves.2.1 _ _ run 0 found,
    conserves.2.2 _ _ kept 0 found 2 drained _ returned 0 later stays drain
      (StepMachine.run_of_exec _ between) latest rollback⟩

end Astrix
