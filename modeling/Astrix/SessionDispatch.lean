import Astrix.Library.KeyedFold
import Astrix.OneSession
import Astrix.OneWorker

/-!
# The dispatch of one session's frames

What `_handle_tunnel_post` does to a session depends on the frames of that
session alone. `SessionReceipt` is all that the loop does for one id: the state
it leaves there, the upstream workers it starts and the refusals it collects.
-/

namespace Astrix

open PyRuntime SessionPool

set_option autoImplicit false

structure SessionView where
  seq : Int
  flags : Nat
  target : Text
  rxQ : List Frame
  rxBytes : Nat
  txQ : List Frame
  deriving DecidableEq

def Session.view (s : Session) : SessionView where
  seq := s.seq
  flags := s.flags
  target := s.target
  rxQ := s.rxQ
  rxBytes := s.rxBytes
  txQ := s.txQ

/-- The pool as a map from ids. -/
def SessionPool.viewOf (pool : SessionPool) (sid : Bytes) : Option SessionView :=
  (pool.get sid).map fun r => (pool.objects r).view

@[ext] structure SessionReceipt where
  session : Option SessionView
  started : Nat
  busy : List Frame
  deriving DecidableEq

def Dispatch.receiptOf (state : Dispatch) (sid : Bytes) : SessionReceipt where
  session := state.pool.viewOf sid
  started := state.startedFor.count sid
  busy := state.responseFrames.filter fun f => f.sessionId = sid

namespace SessionView

/-- A session that a SYN creates. -/
def create (f : Frame) : SessionView where
  seq := 0
  flags := f.flags
  target := f.target
  rxQ := []
  rxBytes := 0
  txQ := []

def enqueueRx (f : Frame) (s : SessionView) : SessionView :=
  { s with rxQ := s.rxQ ++ [f], rxBytes := s.rxBytes + f.payload.length }

end SessionView

/-- What one frame does for its own session. -/
def SessionReceipt.receive (locked : Bool) (receipt : SessionReceipt) (f : Frame) :
    SessionReceipt :=
  if f.hasFlag FlagSYN then
    let session := { receipt.session.getD (SessionView.create f) with seq := f.seq + 1 }
    if locked then
      { receipt with session := some session, busy := receipt.busy ++ [busyFrame f.sessionId] }
    else { receipt with session := some session, started := receipt.started + 1 }
  else if f.hasFlag FlagFIN then
    { receipt with session := receipt.session.map (SessionView.enqueueRx f) }
  else if f.hasFlag FlagACK then
    { receipt with
      session := receipt.session.map fun s => { s with seq := max s.seq (f.seq + 1) } }
  else if f.hasFlag FlagRST then { receipt with session := none }
  else if f.flags = 0 then
    { receipt with session := receipt.session.map (SessionView.enqueueRx f) }
  else receipt

section Elsewhere

variable {sid : Bytes} {pool later : SessionPool}

theorem elsewhere_remove {other : Bytes} (different : sid ≠ other) :
    Elsewhere sid pool (pool.remove other) where
  fresh := Nat.le_refl _
  get := OrderedDict.get_erase_of_ne _ _ _ different
  object _ _ _ := rfl
  only _ bound same := ⟨bound, same⟩

theorem elsewhere_view (aside : Elsewhere sid pool later) : later.viewOf sid = pool.viewOf sid := by
  rw [viewOf, viewOf, aside.get]
  cases found : pool.get sid with
  | none => rfl
  | some r =>
      obtain ⟨bound, own⟩ := get_keyed found
      exact congrArg (fun s => some s.view) (aside.object r bound own)

theorem view_modify {r : Nat} {change : Session → Session}
    {sameId : ∀ s, (change s).sessionId = s.sessionId} (found : pool.get sid = some r) :
    (pool.modify r change sameId).viewOf sid = some (change (pool.objects r)).view := by
  rw [viewOf, modify_get, found, Option.map_some, modify_objects_self]

end Elsewhere

section Frames

variable (locked : Bool) (now : ℚ) (state : Dispatch) (f : Frame)

/-- A frame of another session leaves a session alone. -/
theorem dispatch_frame_elsewhere {sid : Bytes} (different : f.sessionId ≠ sid) :
    Elsewhere sid state.pool (dispatchFrame locked now state f).pool := by
  have lookup : ∀ r, state.pool.get f.sessionId = some r →
      (state.pool.objects r).sessionId ≠ sid := by
    intro r found
    rw [(get_keyed found).2]
    exact different
  have syn : Elsewhere sid state.pool
      ((state.pool.getOrCreate f.sessionId f.flags f.target now).1.setSeq
        (state.pool.getOrCreate f.sessionId f.flags f.target now).2 (f.seq + 1)) := by
    have made := get_keyed (get_or_create_get state.pool f.sessionId f.flags f.target now)
    refine (elsewhere_get_or_create f.flags f.target now (Ne.symm different)).trans
      (elsewhere_set_seq _ ?_)
    rw [made.2]
    exact different
  rw [dispatchFrame]
  split_ifs
  · exact syn
  · exact syn
  · cases found : state.pool.get f.sessionId with
    | none => exact Elsewhere.refl _ _
    | some r => exact elsewhere_enqueue_rx f now (lookup r found)
  · cases found : state.pool.get f.sessionId with
    | none => exact Elsewhere.refl _ _
    | some r => exact elsewhere_set_seq _ (lookup r found)
  · exact elsewhere_remove (Ne.symm different)
  · cases found : state.pool.get f.sessionId with
    | none => exact Elsewhere.refl _ _
    | some r => exact elsewhere_enqueue_rx f now (lookup r found)
  · exact Elsewhere.refl _ _

/-- The session of a SYN, made or found, with its new number. -/
theorem syn_view : ((state.pool.getOrCreate f.sessionId f.flags f.target now).1.setSeq
      (state.pool.getOrCreate f.sessionId f.flags f.target now).2 (f.seq + 1)).viewOf
        f.sessionId =
    some { (state.pool.viewOf f.sessionId).getD (SessionView.create f) with seq := f.seq + 1 } := by
  have made := get_or_create_get state.pool f.sessionId f.flags f.target now
  refine (view_modify made).trans (congrArg some ?_)
  rcases get_or_create_cases state.pool f.sessionId f.flags f.target now with
    ⟨r, found, same⟩ | ⟨missing, created⟩
  · rw [same, viewOf, found]
    rfl
  · rw [created, viewOf, missing, insert_objects, if_pos rfl]
    rfl

theorem receive_view (r : Nat) (found : state.pool.get f.sessionId = some r) :
    (state.pool.enqueueRx r f now).viewOf f.sessionId =
      (state.pool.viewOf f.sessionId).map (SessionView.enqueueRx f) := by
  refine (view_modify found).trans ?_
  rw [viewOf, found]
  rfl

theorem remove_view (pool : SessionPool) (sid : Bytes) : (pool.remove sid).viewOf sid = none := by
  have gone : (pool.remove sid).get sid = none := OrderedDict.get_erase_self _ _
  rw [viewOf, gone]
  rfl

/-- What a frame does to the session it is for. -/
theorem dispatch_frame_view : (dispatchFrame locked now state f).pool.viewOf f.sessionId =
    ((state.receiptOf f.sessionId).receive locked f).session := by
  rw [dispatchFrame, SessionReceipt.receive]
  split_ifs
  · exact syn_view now state f
  · exact syn_view now state f
  · cases found : state.pool.get f.sessionId with
    | none => simp [Dispatch.receiptOf, viewOf, found]
    | some r => exact receive_view now state f r found
  · cases found : state.pool.get f.sessionId with
    | none => simp [Dispatch.receiptOf, viewOf, found]
    | some r =>
        refine (view_modify found).trans ?_
        rw [Dispatch.receiptOf, viewOf, found]
        rfl
  · exact remove_view _ _
  · cases found : state.pool.get f.sessionId with
    | none => simp [Dispatch.receiptOf, viewOf, found]
    | some r => exact receive_view now state f r found
  · rfl

theorem dispatch_not_syn (plain : f.hasFlag FlagSYN = false) :
    (dispatchFrame locked now state f).spawned = state.spawned ∧
      (dispatchFrame locked now state f).responseFrames = state.responseFrames := by
  rw [dispatchFrame, plain, if_neg Bool.false_ne_true]
  split_ifs
  · cases state.pool.get f.sessionId <;> exact ⟨rfl, rfl⟩
  · cases state.pool.get f.sessionId <;> exact ⟨rfl, rfl⟩
  · exact ⟨rfl, rfl⟩
  · cases state.pool.get f.sessionId <;> exact ⟨rfl, rfl⟩
  · exact ⟨rfl, rfl⟩

/-- The objects given to workers exist, and a SYN adds one of its session. -/
theorem dispatch_frame_workers (bound : ∀ s ∈ state.spawned, s < state.pool.fresh) :
    (∀ s ∈ (dispatchFrame locked now state f).spawned,
        s < (dispatchFrame locked now state f).pool.fresh) ∧
      (dispatchFrame locked now state f).startedFor = state.startedFor ++
        if f.hasFlag FlagSYN = true ∧ locked = false then [f.sessionId] else [] := by
  cases locked with
  | false => simpa using dispatch_frame_started now bound f
  | true =>
      have grown := dispatch_frame_extends true now state f
      have same : (dispatchFrame true now state f).spawned = state.spawned := by
        cases syn : f.hasFlag FlagSYN with
        | true =>
            rw [dispatchFrame, if_pos syn]
            rfl
        | false => exact (dispatch_not_syn true now state f syn).1
      constructor
      · rw [same]
        exact fun s member => (bound s member).trans_le grown.fresh
      · have older : (dispatchFrame true now state f).startedFor = state.startedFor := by
          rw [Dispatch.startedFor, same]
          exact List.map_congr_left fun s member => grown.ids s (bound s member)
        simp [older]

theorem dispatch_frame_responses : (dispatchFrame locked now state f).responseFrames =
    state.responseFrames ++
      if f.hasFlag FlagSYN = true ∧ locked = true then [busyFrame f.sessionId] else [] := by
  cases syn : f.hasFlag FlagSYN with
  | true =>
      rw [dispatchFrame, if_pos syn]
      cases locked with
      | true => rfl
      | false => exact (List.append_nil _).symm
  | false => simp [(dispatch_not_syn locked now state f syn).2]

end Frames

theorem receive_started (locked : Bool) (receipt : SessionReceipt) (f : Frame) :
    (receipt.receive locked f).started =
      receipt.started + if f.hasFlag FlagSYN = true ∧ locked = false then 1 else 0 := by
  rw [SessionReceipt.receive]
  split_ifs <;> simp_all

theorem receive_busy (locked : Bool) (receipt : SessionReceipt) (f : Frame) :
    (receipt.receive locked f).busy = receipt.busy ++
      if f.hasFlag FlagSYN = true ∧ locked = true then [busyFrame f.sessionId] else [] := by
  rw [SessionReceipt.receive]
  split_ifs <;> simp_all

/-- The dispatch loop treats sessions separately. -/
theorem dispatch_separates (locked : Bool) (now : ℚ) :
    KeyedFold.Separates (fun state => ∀ s ∈ state.spawned, s < state.pool.fresh)
      (dispatchFrame locked now) Frame.sessionId Dispatch.receiptOf
      (SessionReceipt.receive locked) where
  own state f bound := by
    ext1
    · exact dispatch_frame_view locked now state f
    · rw [receive_started, Dispatch.receiptOf, (dispatch_frame_workers locked now state f bound).2,
        List.count_append]
      split_ifs <;> simp [Dispatch.receiptOf]
    · rw [receive_busy, Dispatch.receiptOf, dispatch_frame_responses, List.filter_append]
      split_ifs <;> simp [Dispatch.receiptOf, busyFrame]
  other state f sid bound different := by
    ext1
    · exact elsewhere_view (dispatch_frame_elsewhere locked now state f different)
    · rw [Dispatch.receiptOf, (dispatch_frame_workers locked now state f bound).2,
        List.count_append]
      split_ifs <;> simp [Dispatch.receiptOf, different]
    · rw [Dispatch.receiptOf, dispatch_frame_responses, List.filter_append]
      split_ifs <;> simp [Dispatch.receiptOf, busyFrame, different]
  kept state f bound := (dispatch_frame_workers locked now state f bound).1

/-- Batches that differ in how the frames of different sessions are interleaved
leave the same sessions and start and refuse the same for every id; a session
that does not occur in a batch is not touched. -/
theorem dispatch_sessions_independent (locked : Bool) (now : ℚ) (pool : SessionPool)
    (first second : List Frame)
    (same : ∀ sid, (first.filter fun f => f.sessionId = sid) =
      second.filter fun f => f.sessionId = sid) (sid : Bytes) :
    (dispatchFrames locked now pool first).pool.viewOf sid =
        (dispatchFrames locked now pool second).pool.viewOf sid ∧
      (dispatchFrames locked now pool first).startedFor.count sid =
        (dispatchFrames locked now pool second).startedFor.count sid ∧
      ((dispatchFrames locked now pool first).responseFrames.filter fun f => f.sessionId = sid) =
        ((dispatchFrames locked now pool second).responseFrames.filter fun f =>
          f.sessionId = sid) ∧
      ((∀ f ∈ first, f.sessionId ≠ sid) →
        (dispatchFrames locked now pool first).pool.get sid = pool.get sid ∧
          ∀ r ∈ pool.get sid, (dispatchFrames locked now pool first).pool.objects r =
            pool.objects r) := by
  have none : ∀ s ∈ (Dispatch.mk pool [] []).spawned, s < pool.fresh := by
    intro s member
    cases member
  have receipts : (dispatchFrames locked now pool first).receiptOf sid =
      (dispatchFrames locked now pool second).receiptOf sid :=
    (dispatch_separates locked now).fold_congr none (same sid)
  refine ⟨congrArg SessionReceipt.session receipts, congrArg SessionReceipt.started receipts,
    congrArg SessionReceipt.busy receipts, fun absent => ?_⟩
  have aside : Elsewhere sid pool (dispatchFrames locked now pool first).pool := by
    apply List.foldlRecOn (motive := fun state : Dispatch => Elsewhere sid pool state.pool) first
      (dispatchFrame locked now) (Elsewhere.refl _ _)
    intro state earlier f member
    exact earlier.trans (dispatch_frame_elsewhere locked now state f (absent f member))
  refine ⟨aside.get, fun r found => ?_⟩
  obtain ⟨bound, own⟩ := get_keyed found
  exact aside.object r bound own

/-- Two sessions in two orders, with the semaphore locked. -/
theorem two_sessions_independent :
    (dispatchFrames true 0 SessionPool.new
        [synFrame zeroId [97], synFrame [1] [98], finFrame zeroId]).pool.viewOf zeroId =
      (dispatchFrames true 0 SessionPool.new
        [synFrame [1] [98], synFrame zeroId [97], finFrame zeroId]).pool.viewOf zeroId := by
  apply (dispatch_sessions_independent true 0 SessionPool.new _ _ ?_ zeroId).1
  intro sid
  by_cases zero : zeroId = sid
  · have different : ([1] : Bytes) ≠ sid := by
      rw [← zero]
      decide
    simp [synFrame, finFrame, zero, different]
  · by_cases one : ([1] : Bytes) = sid <;> simp [synFrame, finFrame, zero, one]

end Astrix
