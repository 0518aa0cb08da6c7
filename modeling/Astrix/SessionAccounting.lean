import Astrix.Library.StepMachine
import Astrix.QueueBytes

/-!
# Session accounting

`tx_q`, `tx_bytes` and `tx_event` are changed separately by every method of the
pool. They stay in step in the sessions of the pool, also when a snapshot is
rolled back twice or onto a session created after it was taken. A session that
the cleanup drops leaves with its event set and nothing queued.
-/

namespace Astrix

open PyRuntime SessionPool

set_option autoImplicit false

namespace SessionPool

def txBufferedBytes (pool : SessionPool) : Nat :=
  (pool.sessions.values.map fun r => (pool.objects r).txBytes).sum

/-- `tx_event` of the sessions in the pool tells whether anything is queued. -/
def Signalled (pool : SessionPool) : Prop :=
  ∀ sid r, pool.get sid = some r →
    ((pool.objects r).txEvent = true ↔ (pool.objects r).txQ ≠ [])

section Signalled

variable {pool : SessionPool}

/-- What a changed object needs is only asked of it while it is in the pool. -/
theorem Signalled.modify (signalled : pool.Signalled) {ref : Nat} {change : Session → Session}
    {sameId : ∀ s, (change s).sessionId = s.sessionId}
    (kept : ∀ sid, pool.get sid = some ref →
      ((change (pool.objects ref)).txEvent = true ↔ (change (pool.objects ref)).txQ ≠ [])) :
    (pool.modify ref change sameId).Signalled := by
  intro sid r found
  rw [modify_objects]
  split_ifs with same
  · rw [same] at found
    exact kept sid found
  · exact signalled sid r found

theorem Signalled.enqueue_tx (signalled : pool.Signalled) (ref : Nat) (frame : Frame) (now : ℚ) :
    (pool.enqueueTx ref frame now).Signalled :=
  signalled.modify fun _ _ => by simp [Session.enqueueTx]

theorem Signalled.enqueue_rx (signalled : pool.Signalled) (ref : Nat) (frame : Frame) (now : ℚ) :
    (pool.enqueueRx ref frame now).Signalled :=
  signalled.modify fun sid found => signalled sid ref found

theorem Signalled.get_or_create (signalled : pool.Signalled) (sid : Bytes) (flags : Nat)
    (target : Text) (now : ℚ) : (pool.getOrCreate sid flags target now).1.Signalled := by
  rcases get_or_create_cases pool sid flags target now with ⟨ref, _, same⟩ | ⟨missing, made⟩
  · rw [same]
    exact signalled
  · rw [made]
    intro other r found
    rw [insert_objects]
    split_ifs with new
    · simp [Session.create]
    · by_cases same : other = sid
      · subst same
        have self := OrderedDict.get_insert_new_self pool.sessions other pool.fresh
          (fresh_key missing)
        exact absurd (Option.some.inj (found.symm.trans self)) new
      · have old := OrderedDict.get_insert_new_of_ne pool.sessions sid other pool.fresh
          (fresh_key missing) same
        exact signalled other r (old.symm.trans found)

theorem Signalled.drain (signalled : pool.Signalled) (sid : Bytes) (maxFrames : Nat) :
    (pool.drainTxLimitedTxn sid maxFrames).1.Signalled := by
  rcases drain_cases pool sid maxFrames with ⟨_, same⟩ | ⟨ref, _, _, taken⟩
  · rw [same]
    exact signalled
  · rw [taken]
    exact signalled.modify fun _ _ => by simp [Session.drainTx]

/-- An empty snapshot leaves the event as it was. -/
theorem Signalled.rollback (signalled : pool.Signalled) (snapshot : DrainSnapshot) (now : ℚ) :
    (pool.rollbackDrain snapshot now).Signalled := by
  rw [rollbackDrain]
  cases found : pool.get snapshot.sessionId with
  | none => exact signalled
  | some ref =>
      have before := signalled snapshot.sessionId ref found
      refine signalled.modify fun _ _ => ?_
      by_cases nothing : snapshot.frames = []
      · simpa [Session.rollback, nothing] using before
      · simp [Session.rollback, nothing]

theorem Signalled.remove (signalled : pool.Signalled) (sid : Bytes) :
    (pool.remove sid).Signalled :=
  fun other r found => signalled other r (get_remove_some found)

/-- The objects that the cleanup wakes are those it has just dropped. -/
theorem Signalled.cleanup (signalled : pool.Signalled) (timeout now : ℚ) :
    (pool.cleanupExpired timeout now).1.Signalled := by
  apply And.left (b := pool.Extends (pool.cleanupExpired timeout now).1)
  apply cleanup_preserves (P := fun start => start.Signalled ∧ pool.Extends start)
  · rintro start ⟨sid, r⟩ listed ⟨kept, grown⟩
    have entry := pool.keyed sid r
      ((OrderedDict.get_eq_some_iff _ _ _).mpr (List.mem_filter.mp listed).1)
    have id := (grown.ids r entry.1).trans entry.2
    constructor
    · refine (kept.remove sid).modify fun other found => ?_
      have sameKey : other = sid := ((start.remove sid).keyed other r found).2.symm.trans id
      rw [sameKey] at found
      cases (OrderedDict.get_erase_self start.sessions sid).symm.trans found
    · exact grown.trans ((extends_remove start sid).trans (extends_modify _ _ _ _))
  · exact ⟨signalled, Extends.refl pool⟩

end Signalled

end SessionPool

theorem counted_cleanup {pool : SessionPool} (counted : Counted pool) (timeout now : ℚ) :
    Counted (pool.cleanupExpired timeout now).1 := by
  apply cleanup_preserves _ counted
  intro start entry _ kept
  have removed : Counted (start.remove entry.1) := kept
  exact counted_modify removed (removed entry.2)

/-- Snapshots are named by the number of the drain that took them. -/
inductive AccountAction where
  | getOrCreate (sid : Bytes) (flags : Nat) (target : Text) (now : ℚ)
  | enqueueTx (session : Nat) (frame : Frame) (now : ℚ)
  | enqueueRx (session : Nat) (frame : Frame) (now : ℚ)
  | drain (sid : Bytes) (maxFrames : Int)
  | rollback (drain : Nat) (now : ℚ)
  | remove (sid : Bytes)
  | cleanup (timeout now : ℚ)
  deriving DecidableEq

/-- The pool with every snapshot that was ever taken; none is used up. -/
structure PoolAccount where
  pool : SessionPool
  taken : List DrainSnapshot

namespace PoolAccount

def start : PoolAccount where
  pool := SessionPool.new
  taken := []

/-- Frames are put on session objects, which outlive their place in the pool. -/
def step (account : PoolAccount) : AccountAction → Option PoolAccount
  | .getOrCreate sid flags target now =>
      some { account with pool := (account.pool.getOrCreate sid flags target now).1 }
  | .enqueueTx session frame now =>
      if session < account.pool.fresh then
        some { account with pool := account.pool.enqueueTx session frame now }
      else none
  | .enqueueRx session frame now =>
      if session < account.pool.fresh then
        some { account with pool := account.pool.enqueueRx session frame now }
      else none
  | .drain sid maxFrames =>
      let drained := account.pool.drainTxLimitedTxn sid maxFrames.toNat
      some { pool := drained.1, taken := account.taken ++ [drained.2] }
  | .rollback drain now =>
      account.taken[drain]?.map fun snapshot =>
        { account with pool := account.pool.rollbackDrain snapshot now }
  | .remove sid => some { account with pool := account.pool.remove sid }
  | .cleanup timeout now =>
      some { account with pool := (account.pool.cleanupExpired timeout now).1 }

/-- The invariant of every run. -/
structure Sound (account : PoolAccount) : Prop where
  counted : Counted account.pool
  signalled : account.pool.Signalled
  sums : ∀ snapshot ∈ account.taken, snapshot.totalPayload = totalPayload snapshot.frames

theorem start_sound : start.Sound where
  counted _ := rfl
  signalled _ _ found := by cases found
  sums _ taken := by cases taken

theorem step_sound {account later : PoolAccount} {action : AccountAction}
    (sound : account.Sound) (stepped : account.step action = some later) : later.Sound := by
  obtain ⟨counted, signalled, sums⟩ := sound
  cases action with
  | getOrCreate sid flags target now =>
      cases stepped
      exact ⟨counted_get_or_create counted sid flags target now,
        signalled.get_or_create sid flags target now, sums⟩
  | enqueueTx session frame now =>
      rw [step] at stepped
      split_ifs at stepped
      cases stepped
      exact ⟨counted_enqueue_tx counted session frame now,
        signalled.enqueue_tx session frame now, sums⟩
  | enqueueRx session frame now =>
      rw [step] at stepped
      split_ifs at stepped
      cases stepped
      exact ⟨counted_enqueue_rx counted session frame now,
        signalled.enqueue_rx session frame now, sums⟩
  | drain sid maxFrames =>
      cases stepped
      obtain ⟨left, sum⟩ := counted_drain counted sid maxFrames.toNat
      refine ⟨left, signalled.drain sid maxFrames.toNat, ?_⟩
      intro snapshot member
      rcases List.mem_append.mp member with old | new
      · exact sums snapshot old
      · rw [List.mem_singleton.mp new]
        exact sum
  | rollback drain now =>
      obtain ⟨snapshot, taken, rfl⟩ := Option.map_eq_some_iff.mp stepped
      have sum := sums snapshot (List.mem_of_getElem? taken)
      exact ⟨counted_rollback counted now sum, signalled.rollback snapshot now, sums⟩
  | remove sid =>
      cases stepped
      exact ⟨counted, signalled.remove sid, sums⟩
  | cleanup timeout now =>
      cases stepped
      exact ⟨counted_cleanup counted timeout now, signalled.cleanup timeout now, sums⟩

end PoolAccount

def accountMachine : StepMachine PoolAccount AccountAction := ⟨PoolAccount.step⟩

theorem counted_take {pool : SessionPool} (counted : Counted pool) (r maxFrames : Nat) :
    totalPayload ((pool.objects r).txQ.take maxFrames) ≤ (pool.objects r).txBytes := by
  have whole := total_payload_append ((pool.objects r).txQ.take maxFrames)
    ((pool.objects r).txQ.drop maxFrames)
  rw [List.take_append_drop] at whole
  rw [counted r, whole]
  exact Nat.le_add_right _ _

/-- Every session of the pool is filed under its id, its byte count is the
payload it has queued, so that a drain never subtracts more than there is, and
its event is set exactly when something is queued. -/
theorem session_accounting {history : List AccountAction} {account : PoolAccount}
    (run : accountMachine.Run StepMachine.anyStep PoolAccount.start history account) :
    (∀ sid r, account.pool.get sid = some r →
      (account.pool.objects r).sessionId = sid ∧
      (account.pool.objects r).txBytes = totalPayload (account.pool.objects r).txQ ∧
      (∀ maxFrames : Nat, totalPayload ((account.pool.objects r).txQ.take maxFrames) ≤
        (account.pool.objects r).txBytes) ∧
      ((account.pool.objects r).txEvent = true ↔ (account.pool.objects r).txQ ≠ [])) ∧
    account.pool.txBufferedBytes =
      (account.pool.sessions.values.map fun r =>
        totalPayload (account.pool.objects r).txQ).sum := by
  have sound : account.Sound := run.invariant PoolAccount.start_sound
    fun _ _ _ sound _ stepped => PoolAccount.step_sound sound stepped
  constructor
  · intro sid r found
    exact ⟨(get_keyed found).2, sound.counted r, counted_take sound.counted r,
      sound.signalled sid r found⟩
  · exact congrArg List.sum (List.map_congr_left fun r _ => sound.counted r)

/-- A snapshot is rolled back twice, onto a session created after the drain. -/
theorem stale_rollbacks_counted : ∃ account : PoolAccount,
    account.pool.txBufferedBytes = 4 ∧
    account.pool.txBufferedBytes =
      (account.pool.sessions.values.map fun r =>
        totalPayload (account.pool.objects r).txQ).sum := by
  have passed : ((accountMachine.exec StepMachine.anyStep PoolAccount.start
      [.getOrCreate zeroId 0 [] 0, .enqueueTx 0 (dataFrame zeroId 0 [7, 8]) 0,
        .drain zeroId 10, .remove zeroId, .getOrCreate zeroId 0 [] 1, .rollback 0 2,
        .rollback 0 3, .drain zeroId (-1)]).any fun account =>
          decide (account.pool.txBufferedBytes = 4)) = true := by
    decide +kernel
  obtain ⟨account, run, four⟩ := StepMachine.run_of_exec_any _ passed
  exact ⟨account, of_decide_eq_true four, (session_accounting run).2⟩

end Astrix
