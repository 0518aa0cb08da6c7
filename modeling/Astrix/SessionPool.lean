import Mathlib.Algebra.Order.Ring.Rat
import Mathlib.Logic.Function.Basic
import Astrix.Library.OrderedDict
import Astrix.WireFrame

/-!
# Sessions and the session pool

`session.py`, the same in both programs. Upstream workers and virtual
connections keep `Session` objects that the pool may have dropped, so the pool
is a store of objects, addressed by allocation number, under an
insertion-ordered dictionary from session ids to objects. A dictionary entry
always points at an allocated object with that id; the structure carries the
fact. Clock readings are rationals. No pool method suspends while it holds a
stripe lock, so each method is one step and the locks never block.
-/

namespace Astrix

open PyRuntime

set_option autoImplicit false

def TxBufHighWater : Nat := 8 * 1024 * 1024

structure Session where
  sessionId : Bytes
  seq : Int
  flags : Nat
  target : Text
  rxQ : List Frame
  txQ : List Frame
  txBytes : Nat
  rxBytes : Nat
  lastActivity : ℚ
  txEvent : Bool
  rxEvent : Bool
  deriving DecidableEq

namespace Session

/-- `Session(session_id=…, flags=…, target=…, last_activity=now)`. -/
def create (sessionId : Bytes) (flags : Nat) (target : Text) (now : ℚ) : Session where
  sessionId := sessionId
  seq := 0
  flags := flags
  target := target
  rxQ := []
  txQ := []
  txBytes := 0
  rxBytes := 0
  lastActivity := now
  txEvent := false
  rxEvent := false

/-- The result tells whether the queue is under its high-water mark; every
caller ignores it. -/
def enqueueTx (s : Session) (frame : Frame) (now : ℚ) : Session × Bool :=
  let txBytes := s.txBytes + frame.payload.length
  ({ s with
      txQ := s.txQ ++ [frame]
      txBytes := txBytes
      lastActivity := now
      txEvent := true }, txBytes < TxBufHighWater)

def enqueueRx (s : Session) (frame : Frame) (now : ℚ) : Session :=
  { s with
    rxQ := s.rxQ ++ [frame]
    rxBytes := s.rxBytes + frame.payload.length
    lastActivity := now
    rxEvent := true }

/-- `session.rx_q.popleft()` after the frame was read. -/
def popRx (s : Session) : Session := { s with rxQ := s.rxQ.tail }

def clearRxEvent (s : Session) : Session := { s with rxEvent := false }

def setSeq (s : Session) (seq : Int) : Session := { s with seq := seq }

end Session

def totalPayload (frames : List Frame) : Nat := (frames.map fun f => f.payload.length).sum

structure DrainSnapshot where
  sessionId : Bytes
  frames : List Frame
  frameCount : Nat
  totalPayload : Nat
  deriving DecidableEq

namespace Session

/-- The queue update of `drain_tx_limited_txn`. -/
def drainTx (s : Session) (maxFrames : Nat) : Session :=
  { s with
    txQ := s.txQ.drop maxFrames
    txBytes := s.txBytes - Astrix.totalPayload (s.txQ.take maxFrames)
    txEvent := !(s.txQ.drop maxFrames).isEmpty }

/-- The queue update of `rollback_drain`. -/
def rollback (s : Session) (snapshot : DrainSnapshot) (now : ℚ) : Session :=
  { s with
    txQ := snapshot.frames ++ s.txQ
    txBytes := s.txBytes + snapshot.totalPayload
    lastActivity := now
    txEvent := s.txEvent || !snapshot.frames.isEmpty }

def wakeBoth (s : Session) : Session := { s with txEvent := true, rxEvent := true }

end Session

structure SessionPool where
  objects : Nat → Session
  fresh : Nat
  sessions : OrderedDict Bytes Nat
  globalEvent : Bool
  keyed : ∀ sid ref, sessions.get sid = some ref →
    ref < fresh ∧ (objects ref).sessionId = sid

namespace SessionPool

/-- `SessionPool()`. -/
def new : SessionPool where
  objects := fun _ => Session.create [] 0 [] 0
  fresh := 0
  sessions := OrderedDict.empty
  globalEvent := false
  keyed := by
    intro sid ref found
    cases found

/-- Changes one object without changing its id. -/
def modify (pool : SessionPool) (ref : Nat) (change : Session → Session)
    (sameId : ∀ s, (change s).sessionId = s.sessionId) : SessionPool :=
  { pool with
    objects := Function.update pool.objects ref (change (pool.objects ref))
    keyed := by
      intro sid other found
      refine ⟨(pool.keyed sid other found).1, ?_⟩
      rw [Function.update_apply]
      split_ifs with same
      · rw [sameId, ← same]
        exact (pool.keyed sid other found).2
      · exact (pool.keyed sid other found).2 }

def enqueueTx (pool : SessionPool) (ref : Nat) (frame : Frame) (now : ℚ) : SessionPool :=
  pool.modify ref (fun s => (s.enqueueTx frame now).1) fun _ => rfl

def enqueueRx (pool : SessionPool) (ref : Nat) (frame : Frame) (now : ℚ) : SessionPool :=
  pool.modify ref (fun s => s.enqueueRx frame now) fun _ => rfl

def setSeq (pool : SessionPool) (ref : Nat) (seq : Int) : SessionPool :=
  pool.modify ref (fun s => s.setSeq seq) fun _ => rfl

/-- A reader's `popleft` on the receive queue. -/
def popRx (pool : SessionPool) (ref : Nat) : SessionPool :=
  pool.modify ref Session.popRx fun _ => rfl

def clearRxEvent (pool : SessionPool) (ref : Nat) : SessionPool :=
  pool.modify ref Session.clearRxEvent fun _ => rfl

/-- Takes the front of one object's transmit queue. -/
def drainTx (pool : SessionPool) (ref maxFrames : Nat) : SessionPool :=
  pool.modify ref (fun s => s.drainTx maxFrames) fun _ => rfl

def get (pool : SessionPool) (sid : Bytes) : Option Nat := pool.sessions.get sid

theorem fresh_key {pool : SessionPool} {sid : Bytes} (missing : pool.get sid = none) :
    sid ∉ pool.sessions.keys :=
  (OrderedDict.get_eq_none_iff pool.sessions sid).mp missing

/-- Allocates an object for an absent id. -/
def insert (pool : SessionPool) (sid : Bytes) (flags : Nat) (target : Text) (now : ℚ)
    (missing : pool.get sid = none) : SessionPool where
  objects := Function.update pool.objects pool.fresh (Session.create sid flags target now)
  fresh := pool.fresh + 1
  sessions := pool.sessions.insertNew sid pool.fresh (fresh_key missing)
  globalEvent := true
  keyed := by
    intro other ref found
    by_cases same : other = sid
    · subst same
      rw [OrderedDict.get_insert_new_self] at found
      cases found
      exact ⟨Nat.lt_succ_self _, by rw [Function.update_self]; rfl⟩
    · rw [OrderedDict.get_insert_new_of_ne _ _ _ _ _ same] at found
      have entry := pool.keyed other ref found
      refine ⟨Nat.lt_succ_of_lt entry.1, ?_⟩
      rw [Function.update_of_ne (Nat.ne_of_lt entry.1)]
      exact entry.2

def getOrCreate (pool : SessionPool) (sid : Bytes) (flags : Nat) (target : Text) (now : ℚ) :
    SessionPool × Nat :=
  match found : pool.get sid with
  | some ref => (pool, ref)
  | none => (pool.insert sid flags target now found, pool.fresh)

def remove (pool : SessionPool) (sid : Bytes) : SessionPool :=
  { pool with
    sessions := pool.sessions.erase sid
    keyed := fun other ref found =>
      pool.keyed other ref (OrderedDict.get_erase_some _ _ _ _ found) }

def drainTxLimitedTxn (pool : SessionPool) (sid : Bytes) (maxFrames : Nat) :
    SessionPool × DrainSnapshot :=
  match pool.get sid with
  | none => (pool, ⟨sid, [], 0, 0⟩)
  | some ref =>
      if (pool.objects ref).txQ = [] then (pool, ⟨sid, [], 0, 0⟩)
      else
        let frames := (pool.objects ref).txQ.take maxFrames
        (pool.drainTx ref maxFrames, ⟨sid, frames, frames.length, totalPayload frames⟩)

/-- Puts a snapshot back at the front of one object's transmit queue. -/
def rollbackTx (pool : SessionPool) (ref : Nat) (snapshot : DrainSnapshot) (now : ℚ) :
    SessionPool :=
  pool.modify ref (fun s => s.rollback snapshot now) fun _ => rfl

def rollbackDrain (pool : SessionPool) (snapshot : DrainSnapshot) (now : ℚ) : SessionPool :=
  match pool.get snapshot.sessionId with
  | none => pool
  | some ref => pool.rollbackTx ref snapshot now

def isExpired (pool : SessionPool) (timeout now : ℚ) (ref : Nat) : Bool :=
  now - (pool.objects ref).lastActivity > timeout && (pool.objects ref).txQ.isEmpty

/-- Drops one expired session; workers that still hold the object are woken. -/
def purge (pool : SessionPool) (entry : Bytes × Nat) : SessionPool :=
  (pool.remove entry.1).modify entry.2 Session.wakeBoth fun _ => rfl

def expired (pool : SessionPool) (timeout now : ℚ) : List (Bytes × Nat) :=
  pool.sessions.entries.filter fun entry => pool.isExpired timeout now entry.2

def cleanupExpired (pool : SessionPool) (timeout now : ℚ) : SessionPool × Nat :=
  ((pool.expired timeout now).foldl purge pool, (pool.expired timeout now).length)

def snapshotAll (pool : SessionPool) : List Nat := pool.sessions.values

def sessionCount (pool : SessionPool) : Nat := pool.sessions.entries.length

theorem snapshot_length (pool : SessionPool) : pool.snapshotAll.length = pool.sessionCount :=
  List.length_map ..

/-- What dropping one expired session preserves, the cleanup preserves. -/
theorem cleanup_preserves {P : SessionPool → Prop} {pool : SessionPool} {timeout now : ℚ}
    (purged : ∀ start, ∀ entry ∈ pool.expired timeout now, P start → P (start.purge entry))
    (holds : P pool) : P (pool.cleanupExpired timeout now).1 :=
  List.foldlRecOn _ _ holds fun start kept entry listed => purged start entry listed kept

theorem purge_count (pool : SessionPool) (entry : Bytes × Nat) :
    (pool.purge entry).sessionCount ≤ pool.sessionCount :=
  List.length_filter_le _ _

theorem purge_all_count (entries : List (Bytes × Nat)) (pool : SessionPool) :
    (entries.foldl purge pool).sessionCount ≤ pool.sessionCount :=
  List.foldlRecOn (motive := fun start => start.sessionCount ≤ pool.sessionCount) _ _
    (Nat.le_refl _) fun start fewer entry _ => (purge_count start entry).trans fewer

section Access

variable (pool : SessionPool) (ref other : Nat) (change : Session → Session)
  (sameId : ∀ s, (change s).sessionId = s.sessionId)

theorem modify_objects : (pool.modify ref change sameId).objects other =
    if other = ref then change (pool.objects ref) else pool.objects other :=
  Function.update_apply _ _ _ _

@[simp] theorem modify_objects_self :
    (pool.modify ref change sameId).objects ref = change (pool.objects ref) := by
  rw [modify_objects, if_pos rfl]

theorem modify_objects_of_ne (different : other ≠ ref) :
    (pool.modify ref change sameId).objects other = pool.objects other := by
  rw [modify_objects, if_neg different]

@[simp] theorem modify_session_id :
    ((pool.modify ref change sameId).objects other).sessionId =
      (pool.objects other).sessionId := by
  rw [modify_objects]
  split_ifs with same
  · rw [sameId, same]
  · rfl

theorem modify_tx (keeps : ∀ s, (change s).txQ = s.txQ) :
    ((pool.modify ref change sameId).objects other).txQ = (pool.objects other).txQ := by
  rw [modify_objects]
  split_ifs with same
  · rw [keeps, same]
  · rfl

@[simp] theorem modify_sessions :
    (pool.modify ref change sameId).sessions = pool.sessions := rfl

@[simp] theorem modify_fresh : (pool.modify ref change sameId).fresh = pool.fresh := rfl

@[simp] theorem modify_get (sid : Bytes) :
    (pool.modify ref change sameId).get sid = pool.get sid := rfl

theorem enqueue_tx_objects (frame : Frame) (now : ℚ) :
    (pool.enqueueTx ref frame now).objects other =
      if other = ref then ((pool.objects ref).enqueueTx frame now).1 else pool.objects other :=
  modify_objects _ _ _ _ _

theorem enqueue_rx_objects (frame : Frame) (now : ℚ) :
    (pool.enqueueRx ref frame now).objects other =
      if other = ref then (pool.objects ref).enqueueRx frame now else pool.objects other :=
  modify_objects _ _ _ _ _

theorem enqueue_rx_id (frame : Frame) (now : ℚ) :
    ((pool.enqueueRx ref frame now).objects other).sessionId = (pool.objects other).sessionId :=
  modify_session_id _ _ _ _ _

theorem set_seq_objects (seq : Int) : (pool.setSeq ref seq).objects other =
    if other = ref then (pool.objects ref).setSeq seq else pool.objects other :=
  modify_objects _ _ _ _ _

theorem pop_rx_objects : (pool.popRx ref).objects other =
    if other = ref then (pool.objects ref).popRx else pool.objects other :=
  modify_objects _ _ _ _ _

theorem clear_rx_event_objects : (pool.clearRxEvent ref).objects other =
    if other = ref then (pool.objects ref).clearRxEvent else pool.objects other :=
  modify_objects _ _ _ _ _

theorem drain_tx_objects (maxFrames : Nat) : (pool.drainTx ref maxFrames).objects other =
    if other = ref then (pool.objects ref).drainTx maxFrames else pool.objects other :=
  modify_objects _ _ _ _ _

theorem rollback_tx_objects (snapshot : DrainSnapshot) (now : ℚ) :
    (pool.rollbackTx ref snapshot now).objects other =
      if other = ref then (pool.objects ref).rollback snapshot now else pool.objects other :=
  modify_objects _ _ _ _ _

theorem enqueue_rx_tx (frame : Frame) (now : ℚ) :
    ((pool.enqueueRx ref frame now).objects other).txQ = (pool.objects other).txQ :=
  modify_tx pool ref other _ _ fun _ => rfl

theorem set_seq_tx (seq : Int) :
    ((pool.setSeq ref seq).objects other).txQ = (pool.objects other).txQ :=
  modify_tx pool ref other _ _ fun _ => rfl

theorem insert_objects (sid : Bytes) (flags : Nat) (target : Text) (now : ℚ)
    (missing : pool.get sid = none) :
    (pool.insert sid flags target now missing).objects other =
      if other = pool.fresh then Session.create sid flags target now
      else pool.objects other :=
  Function.update_apply _ _ _ _

end Access

theorem get_keyed {pool : SessionPool} {sid : Bytes} {ref : Nat}
    (found : pool.get sid = some ref) :
    ref < pool.fresh ∧ (pool.objects ref).sessionId = sid := pool.keyed sid ref found

theorem get_remove_some {pool : SessionPool} {removed sid : Bytes} {ref : Nat}
    (found : (pool.remove removed).get sid = some ref) : pool.get sid = some ref :=
  OrderedDict.get_erase_some _ _ _ _ found

/-- Objects that are not allocated yet have nothing queued. -/
def BlankTx (pool : SessionPool) : Prop := ∀ r, pool.fresh ≤ r → (pool.objects r).txQ = []

/-- A drain either finds nothing queued and changes nothing, or takes the front
of one object's queue. -/
theorem drain_cases (pool : SessionPool) (sid : Bytes) (maxFrames : Nat) :
    ((∀ ref, pool.get sid = some ref → (pool.objects ref).txQ = []) ∧
      pool.drainTxLimitedTxn sid maxFrames = (pool, ⟨sid, [], 0, 0⟩)) ∨
    ∃ ref, pool.get sid = some ref ∧ (pool.objects ref).txQ ≠ [] ∧
      pool.drainTxLimitedTxn sid maxFrames =
        (pool.drainTx ref maxFrames,
          ⟨sid, (pool.objects ref).txQ.take maxFrames,
            ((pool.objects ref).txQ.take maxFrames).length,
            totalPayload ((pool.objects ref).txQ.take maxFrames)⟩) := by
  rw [drainTxLimitedTxn]
  cases found : pool.get sid with
  | none => exact .inl ⟨nofun, rfl⟩
  | some ref =>
      by_cases empty : (pool.objects ref).txQ = []
      · refine .inl ⟨?_, by simp only [empty, if_true]⟩
        intro other present
        cases present
        exact empty
      · exact .inr ⟨ref, rfl, empty, by simp only [empty, if_false]⟩

theorem get_or_create_cases (pool : SessionPool) (sid : Bytes) (flags : Nat) (target : Text)
    (now : ℚ) :
    (∃ ref, pool.get sid = some ref ∧ pool.getOrCreate sid flags target now = (pool, ref)) ∨
    ∃ missing : pool.get sid = none,
      pool.getOrCreate sid flags target now =
        (pool.insert sid flags target now missing, pool.fresh) := by
  unfold getOrCreate
  split
  · next ref found => exact .inl ⟨ref, found, rfl⟩
  · next found => exact .inr ⟨found, rfl⟩

/-- Objects are never freed and keep their ids and targets. -/
structure Extends (before after : SessionPool) : Prop where
  fresh : before.fresh ≤ after.fresh
  ids : ∀ ref < before.fresh, (after.objects ref).sessionId = (before.objects ref).sessionId
  targets : ∀ ref < before.fresh, (after.objects ref).target = (before.objects ref).target

theorem Extends.refl (pool : SessionPool) : pool.Extends pool :=
  ⟨Nat.le_refl _, fun _ _ => rfl, fun _ _ => rfl⟩

theorem Extends.trans {first second third : SessionPool} (one : first.Extends second)
    (two : second.Extends third) : first.Extends third where
  fresh := one.fresh.trans two.fresh
  ids ref bound := (two.ids ref (bound.trans_le one.fresh)).trans (one.ids ref bound)
  targets ref bound := (two.targets ref (bound.trans_le one.fresh)).trans (one.targets ref bound)

theorem extends_modify (pool : SessionPool) (ref : Nat) (change : Session → Session)
    (sameId : ∀ s, (change s).sessionId = s.sessionId)
    (sameTarget : ∀ s, (change s).target = s.target := by exact fun _ => rfl) :
    pool.Extends (pool.modify ref change sameId) where
  fresh := Nat.le_refl _
  ids other _ := modify_session_id pool ref other change sameId
  targets other _ := by
    rw [modify_objects]
    split_ifs with same
    · rw [sameTarget, same]
    · rfl

theorem extends_enqueue_tx (pool : SessionPool) (ref : Nat) (frame : Frame) (now : ℚ) :
    pool.Extends (pool.enqueueTx ref frame now) := extends_modify _ _ _ _

theorem extends_enqueue_rx (pool : SessionPool) (ref : Nat) (frame : Frame) (now : ℚ) :
    pool.Extends (pool.enqueueRx ref frame now) := extends_modify _ _ _ _

theorem extends_set_seq (pool : SessionPool) (ref : Nat) (seq : Int) :
    pool.Extends (pool.setSeq ref seq) := extends_modify _ _ _ _

theorem extends_pop_rx (pool : SessionPool) (ref : Nat) : pool.Extends (pool.popRx ref) :=
  extends_modify _ _ _ _

theorem extends_clear_rx_event (pool : SessionPool) (ref : Nat) :
    pool.Extends (pool.clearRxEvent ref) := extends_modify _ _ _ _

theorem extends_remove (pool : SessionPool) (sid : Bytes) : pool.Extends (pool.remove sid) :=
  ⟨Nat.le_refl _, fun _ _ => rfl, fun _ _ => rfl⟩

theorem extends_insert (pool : SessionPool) (sid : Bytes) (flags : Nat) (target : Text) (now : ℚ)
    (missing : pool.get sid = none) : pool.Extends (pool.insert sid flags target now missing) where
  fresh := Nat.le_succ _
  ids ref bound := by rw [insert_objects, if_neg (Nat.ne_of_lt bound)]
  targets ref bound := by rw [insert_objects, if_neg (Nat.ne_of_lt bound)]

theorem extends_get_or_create (pool : SessionPool) (sid : Bytes) (flags : Nat) (target : Text)
    (now : ℚ) : pool.Extends (pool.getOrCreate sid flags target now).1 := by
  rcases get_or_create_cases pool sid flags target now with ⟨ref, _, same⟩ | ⟨missing, made⟩
  · rw [same]
    exact Extends.refl pool
  · rw [made]
    exact extends_insert pool sid flags target now missing

theorem get_or_create_get (pool : SessionPool) (sid : Bytes) (flags : Nat) (target : Text)
    (now : ℚ) : (pool.getOrCreate sid flags target now).1.get sid =
      some (pool.getOrCreate sid flags target now).2 := by
  rcases get_or_create_cases pool sid flags target now with ⟨ref, found, same⟩ | ⟨missing, made⟩
  · rw [same]
    exact found
  · rw [made]
    exact OrderedDict.get_insert_new_self _ _ _ (fresh_key missing)

theorem extends_cleanup (pool : SessionPool) (timeout now : ℚ) :
    pool.Extends (pool.cleanupExpired timeout now).1 := by
  refine cleanup_preserves (fun start entry _ grown => ?_) (Extends.refl pool)
  exact grown.trans ((extends_remove start entry.1).trans (extends_modify _ _ _ _))

/-- No condition on the frames of a queue. -/
def AnyFrame : Bytes → Frame → Prop := fun _ _ => True

/-- A queued frame carries the id of the session it is queued on. -/
def OwnFrame : Bytes → Frame → Prop := fun sid frame => frame.sessionId = sid

/-- What the pool's queues may hold: `T` and `R` relate the id of a session
object to the frames queued on it. -/
structure Holds (T R : Bytes → Frame → Prop) (pool : SessionPool) : Prop where
  tx : ∀ ref, ∀ frame ∈ (pool.objects ref).txQ, T (pool.objects ref).sessionId frame
  rx : ∀ ref, ∀ frame ∈ (pool.objects ref).rxQ, R (pool.objects ref).sessionId frame

section Holds

variable {T R : Bytes → Frame → Prop} {pool : SessionPool}

theorem new_holds : SessionPool.new.Holds T R := ⟨nofun, nofun⟩

theorem Holds.weaken {laterT laterR : Bytes → Frame → Prop} (held : pool.Holds T R)
    (tx : ∀ sid frame, T sid frame → laterT sid frame)
    (rx : ∀ sid frame, R sid frame → laterR sid frame) : pool.Holds laterT laterR where
  tx ref frame member := tx _ _ (held.tx ref frame member)
  rx ref frame member := rx _ _ (held.rx ref frame member)

theorem Holds.modify (held : pool.Holds T R) {ref : Nat} {change : Session → Session}
    {sameId : ∀ s, (change s).sessionId = s.sessionId}
    (tx : ∀ frame ∈ (change (pool.objects ref)).txQ, T (pool.objects ref).sessionId frame)
    (rx : ∀ frame ∈ (change (pool.objects ref)).rxQ, R (pool.objects ref).sessionId frame) :
    (pool.modify ref change sameId).Holds T R := by
  constructor
  · intro other frame member
    rw [modify_session_id]
    rw [modify_objects] at member
    split_ifs at member with same
    · rw [same]
      exact tx frame member
    · exact held.tx other frame member
  · intro other frame member
    rw [modify_session_id]
    rw [modify_objects] at member
    split_ifs at member with same
    · rw [same]
      exact rx frame member
    · exact held.rx other frame member

theorem Holds.enqueue_tx (held : pool.Holds T R) {ref : Nat} {frame : Frame} {now : ℚ}
    (allowed : T (pool.objects ref).sessionId frame) :
    (pool.enqueueTx ref frame now).Holds T R := by
  refine held.modify (fun other member => ?_) (held.rx ref)
  rcases List.mem_append.mp member with old | new
  · exact held.tx ref other old
  · rw [List.mem_singleton.mp new]
    exact allowed

theorem Holds.enqueue_rx (held : pool.Holds T R) {ref : Nat} {frame : Frame} {now : ℚ}
    (allowed : R (pool.objects ref).sessionId frame) :
    (pool.enqueueRx ref frame now).Holds T R := by
  refine held.modify (held.tx ref) (fun other member => ?_)
  rcases List.mem_append.mp member with old | new
  · exact held.rx ref other old
  · rw [List.mem_singleton.mp new]
    exact allowed

theorem Holds.set_seq (held : pool.Holds T R) (ref : Nat) (seq : Int) :
    (pool.setSeq ref seq).Holds T R :=
  held.modify (held.tx ref) (held.rx ref)

theorem Holds.clear_rx_event (held : pool.Holds T R) (ref : Nat) :
    (pool.clearRxEvent ref).Holds T R :=
  held.modify (held.tx ref) (held.rx ref)

theorem Holds.pop_rx (held : pool.Holds T R) (ref : Nat) : (pool.popRx ref).Holds T R :=
  held.modify (held.tx ref) fun frame member => held.rx ref frame (List.mem_of_mem_tail member)

theorem Holds.drain_tx (held : pool.Holds T R) (ref maxFrames : Nat) :
    (pool.drainTx ref maxFrames).Holds T R := by
  refine held.modify (fun frame member => ?_) (held.rx ref)
  exact held.tx ref frame (List.mem_of_mem_drop member)

theorem Holds.remove (held : pool.Holds T R) (sid : Bytes) : (pool.remove sid).Holds T R :=
  ⟨held.tx, held.rx⟩

theorem Holds.insert (held : pool.Holds T R) (sid : Bytes) (flags : Nat) (target : Text)
    (now : ℚ) (missing : pool.get sid = none) :
    (pool.insert sid flags target now missing).Holds T R := by
  constructor
  · intro ref frame member
    simp only [SessionPool.insert, Function.update_apply] at member ⊢
    split_ifs at member ⊢ with same
    · cases member
    · exact held.tx ref frame member
  · intro ref frame member
    simp only [SessionPool.insert, Function.update_apply] at member ⊢
    split_ifs at member ⊢ with same
    · cases member
    · exact held.rx ref frame member

theorem Holds.get_or_create (held : pool.Holds T R) (sid : Bytes) (flags : Nat)
    (target : Text) (now : ℚ) : (pool.getOrCreate sid flags target now).1.Holds T R := by
  rcases get_or_create_cases pool sid flags target now with ⟨ref, _, same⟩ | ⟨missing, made⟩
  · rw [same]
    exact held
  · rw [made]
    exact held.insert sid flags target now missing

/-- What a drain leaves is still well held, and what it takes belongs to the
session that was drained. -/
theorem Holds.drain (held : pool.Holds T R) (sid : Bytes) (maxFrames : Nat) :
    (pool.drainTxLimitedTxn sid maxFrames).1.Holds T R ∧
      ∀ frame ∈ (pool.drainTxLimitedTxn sid maxFrames).2.frames, T sid frame := by
  rcases drain_cases pool sid maxFrames with ⟨_, same⟩ | ⟨ref, found, _, taken⟩
  · rw [same]
    exact ⟨held, nofun⟩
  · rw [taken]
    constructor
    · exact held.drain_tx ref maxFrames
    · intro frame member
      rw [← (get_keyed found).2]
      exact held.tx ref frame (List.mem_of_mem_take member)

/-- A rollback may reach an object made after the drain; its id is the same. -/
theorem Holds.rollback (held : pool.Holds T R) {snapshot : DrainSnapshot} (now : ℚ)
    (allowed : ∀ frame ∈ snapshot.frames, T snapshot.sessionId frame) :
    (pool.rollbackDrain snapshot now).Holds T R := by
  rw [rollbackDrain]
  cases found : pool.get snapshot.sessionId with
  | none => exact held
  | some ref =>
      refine held.modify (fun frame member => ?_) (held.rx ref)
      rcases List.mem_append.mp member with back | old
      · rw [(get_keyed found).2]
        exact allowed frame back
      · exact held.tx ref frame old

theorem Holds.cleanup (held : pool.Holds T R) (timeout now : ℚ) :
    (pool.cleanupExpired timeout now).1.Holds T R := by
  refine cleanup_preserves (fun start entry _ startHeld => ?_) held
  exact (startHeld.remove entry.1).modify (startHeld.tx entry.2) (startHeld.rx entry.2)

end Holds

end SessionPool

end Astrix
