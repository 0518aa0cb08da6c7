import Astrix.FailedPost
import Astrix.OneSession

/-!
# One session on its client

The frames that the connection of a session emits: the SYN, one frame for each
chunk it was given, in order, and FIN frames. A step of the client adds to
them or moves the front of the transmit queue into a batch.
-/

namespace Astrix

open PyRuntime SessionPool

set_option autoImplicit false

def payloads (frames : List Frame) : Bytes := frames.flatMap Frame.payload

@[simp] theorem payloads_append (first second : List Frame) :
    payloads (first ++ second) = payloads first ++ payloads second :=
  List.flatMap_append

/-- The frames begin with a SYN and have no other. -/
def OneSyn (frames : List Frame) : Prop :=
  ∃ syn rest, frames = syn :: rest ∧ syn.flags = FlagSYN ∧ ∀ f ∈ rest, f.flags ≠ FlagSYN

theorem OneSyn.append {frames more : List Frame} (one : OneSyn frames)
    (plain : ∀ f ∈ more, f.flags ≠ FlagSYN) : OneSyn (frames ++ more) := by
  obtain ⟨syn, rest, rfl, isSyn, others⟩ := one
  refine ⟨syn, rest ++ more, rfl, isSyn, fun f member => ?_⟩
  rcases List.mem_append.mp member with old | new
  · exact others f old
  · exact plain f new

/-- The frames that an act of a connection queues. -/
def ConnEffect.frames : ConnEffect → List Frame
  | .sendData frame _ _ => [frame]
  | .sendFin frame _ => [frame]
  | _ => []

/-- What an effect does to the session object. -/
def ConnEffect.onSession (s : Session) : ConnEffect → Session
  | .nothing => s
  | .sendData frame nextSeq now => ((s.setSeq nextSeq).enqueueTx frame now).1
  | .sendFin frame now => { (s.enqueueTx frame now).1 with rxEvent := true }
  | .clearRxEvent => s.clearRxEvent
  | .popRx => s.popRx

section Effect

variable (pool : SessionPool) (session : Nat) (effect : ConnEffect)

theorem conn_effect_get (sid : Bytes) : (effect.apply pool session).get sid = pool.get sid := by
  cases effect <;> rfl

theorem conn_effect_other {r : Nat} (other : r ≠ session) :
    (effect.apply pool session).objects r = pool.objects r := by
  cases effect with
  | nothing => rfl
  | sendData frame nextSeq now =>
      have queued : ((pool.setSeq session nextSeq).enqueueTx session frame now).objects r =
          (pool.setSeq session nextSeq).objects r := by
        rw [enqueue_tx_objects, if_neg other]
      exact queued.trans (by rw [set_seq_objects, if_neg other])
  | sendFin frame now =>
      have woken : ((pool.enqueueTx session frame now).setRxEvent session).objects r =
          (pool.enqueueTx session frame now).objects r := by
        rw [set_rx_event_objects, if_neg other]
      exact woken.trans (by rw [enqueue_tx_objects, if_neg other])
  | clearRxEvent =>
      have same : (pool.clearRxEvent session).objects r = pool.objects r := by
        rw [clear_rx_event_objects, if_neg other]
      exact same
  | popRx =>
      have same : (pool.popRx session).objects r = pool.objects r := by
        rw [pop_rx_objects, if_neg other]
      exact same

theorem conn_effect_object :
    (effect.apply pool session).objects session = effect.onSession (pool.objects session) := by
  cases effect with
  | nothing => rfl
  | sendData frame nextSeq now =>
      rw [ConnEffect.apply, enqueue_tx_objects, if_pos rfl, set_seq_objects, if_pos rfl]
      rfl
  | sendFin frame now =>
      rw [ConnEffect.apply, set_rx_event_objects, if_pos rfl, enqueue_tx_objects, if_pos rfl]
      rfl
  | clearRxEvent => exact (clear_rx_event_objects _ _ _).trans (if_pos rfl)
  | popRx => exact (pop_rx_objects _ _ _).trans (if_pos rfl)

theorem conn_effect_tx : ((effect.apply pool session).objects session).txQ =
    (pool.objects session).txQ ++ effect.frames := by
  rw [conn_effect_object]
  cases effect with
  | sendData frame nextSeq now => rfl
  | sendFin frame now => rfl
  | nothing | clearRxEvent | popRx => exact (List.append_nil _).symm

theorem conn_effect_rx : ((effect.apply pool session).objects session).rxQ =
    if effect = .popRx then (pool.objects session).rxQ.tail else (pool.objects session).rxQ := by
  rw [conn_effect_object]
  cases effect <;> rfl

end Effect

/-- The id an action opens a session under. -/
def ClientAction.opens : ClientAction → Option Bytes
  | .openConn sid _ _ => some sid
  | _ => none

/-- The client's session `sid` is its first object, held by its first connection
alone; `emitted` are the frames the connection queued so far. -/
structure Uploading (sid : Bytes) (client : Client) (emitted : List Frame) : Prop where
  found : client.pool.get sid = some 0
  conn : ∃ conn, client.conns[0]? = some conn ∧ conn.session = 0 ∧
    payloads emitted ++ conn.txQueue.flatten = conn.accepted.flatten
  single : ∀ (k : Nat) (conn : VirtualConn), client.conns[k]? = some conn → conn.session = 0 → k = 0
  syn : OneSyn emitted

/-- The drain returns, has room for what it takes of the session, and its batch
can be encoded. -/
structure DrainFits (sid : Bytes) (client : Client) (call : Client.DrainCall) : Prop where
  returned : (call.run client.pool).failed = none
  room : ¬ LeftBehind client.pool call.batchSize call.workerId call.now sid
  encodes : (call.run client.pool).frames ≠ [] →
    Client.Encodes client.clientId (call.run client.pool).frames

section Client

variable {sid : Bytes} {before after : Client} {emitted : List Frame} {request : Nat}
  {action : ClientAction} {sent : Option Post}

/-- The frames of the session that a step posts. -/
def postedOf (sid : Bytes) (sent : Option Post) : List Frame :=
  sessionFrames sid (sent.toList.flatMap Post.frames)

/-- What a step does with the session: `more` is emitted, the front is posted. -/
def UploadStep (sid : Bytes) (before after : Client) (emitted : List Frame)
    (sent : Option Post) : Prop :=
  ∃ more, Uploading sid after (emitted ++ more) ∧
    (before.pool.objects 0).txQ ++ more = postedOf sid sent ++ (after.pool.objects 0).txQ

theorem upload_step_same (uploading : Uploading sid after emitted)
    (queue : (after.pool.objects 0).txQ = (before.pool.objects 0).txQ) :
    UploadStep sid before after emitted none := by
  refine ⟨[], ?_, ?_⟩
  · rw [List.append_nil]
    exact uploading
  · rw [queue, List.append_nil]
    rfl

/-- Opening another session adds an object and a connection beside. -/
theorem open_aside {pool : SessionPool} {other : Bytes} (target : Text) (now : ℚ)
    (found : pool.get sid = some 0) (different : sid ≠ other) :
    Elsewhere sid pool (VirtualConn.openSession pool other target now).1 ∧
      (VirtualConn.openSession pool other target now).2.session ≠ 0 := by
  have keyed := get_keyed found
  have created := get_keyed (get_or_create_get pool other FlagSYN target now)
  have otherId : ((pool.getOrCreate other FlagSYN target now).1.objects
      (pool.getOrCreate other FlagSYN target now).2).sessionId ≠ sid := by
    rw [created.2]
    exact different.symm
  refine ⟨(elsewhere_get_or_create FlagSYN target now different).trans
    (elsewhere_enqueue_tx (synFrame other target) now otherId), fun zero => ?_⟩
  have sameId := created.2
  have place : (pool.getOrCreate other FlagSYN target now).2 = 0 := zero
  have same := (elsewhere_get_or_create FlagSYN target now different).object 0 keyed.1 keyed.2
  rw [place, same] at sameId
  exact different (keyed.2.symm.trans sameId)

theorem single_append {conns : List VirtualConn} {new : VirtualConn}
    (single : ∀ (k : Nat) (conn : VirtualConn), conns[k]? = some conn → conn.session = 0 → k = 0)
    (fresh : new.session ≠ 0) :
    ∀ (k : Nat) (conn : VirtualConn), (conns ++ [new])[k]? = some conn → conn.session = 0 →
      k = 0 := by
  intro k conn present session
  by_cases old : k < conns.length
  · rw [List.getElem?_append_left old] at present
    exact single k conn present session
  · rw [List.getElem?_append_right (Nat.le_of_not_lt old)] at present
    have isNew := List.mem_singleton.mp (List.mem_of_getElem? present)
    rw [isNew] at session
    exact absurd session fresh

theorem first_append {conns : List VirtualConn} {conn : VirtualConn}
    (present : conns[0]? = some conn) (more : List VirtualConn) :
    (conns ++ more)[0]? = some conn := by
  rw [List.getElem?_append_left (List.getElem?_eq_some_iff.mp present).1]
  exact present

theorem uploading_open {other : Bytes} {target : Text} {now : ℚ}
    (uploading : Uploading sid before emitted) (different : sid ≠ other)
    (pool : after.pool = (VirtualConn.openSession before.pool other target now).1)
    (conns : after.conns =
      before.conns ++ [(VirtualConn.openSession before.pool other target now).2]) :
    UploadStep sid before after emitted none := by
  have keyed := get_keyed uploading.found
  obtain ⟨aside, fresh⟩ := open_aside target now uploading.found different
  rw [← pool] at aside
  refine upload_step_same ⟨aside.get.trans uploading.found, ?_, ?_, uploading.syn⟩
    (congrArg Session.txQ (aside.object 0 keyed.1 keyed.2))
  · obtain ⟨conn, present, rest⟩ := uploading.conn
    refine ⟨conn, ?_, rest⟩
    rw [conns]
    exact first_append present _
  · rw [conns]
    exact single_append uploading.single fresh

/-- One connection changed; the others are where they were. -/
theorem single_set {conns : List VirtualConn} {index : Nat} {conn conn' : VirtualConn}
    (single : ∀ (k : Nat) (other : VirtualConn), conns[k]? = some other → other.session = 0 → k = 0)
    (found : conns[index]? = some conn) (session : conn'.session = conn.session) :
    ∀ (k : Nat) (other : VirtualConn), (conns.set index conn')[k]? = some other →
      other.session = 0 → k = 0 := by
  intro k other present zero
  by_cases here : index = k
  · subst here
    rw [List.getElem?_set_self (List.getElem?_eq_some_iff.mp found).1] at present
    cases present
    exact single index conn found (session.symm.trans zero)
  · rw [List.getElem?_set_ne here] at present
    exact single k other present zero

theorem uploading_write {index : Nat} {data : Bytes} {conn conn' : VirtualConn}
    (uploading : Uploading sid before emitted) (found : before.conns[index]? = some conn)
    (written : conn.write data = some conn') (pool : after.pool = before.pool)
    (conns : after.conns = before.conns.set index conn') :
    UploadStep sid before after emitted none := by
  have session : conn'.session = conn.session := by
    rcases write_cases written with rfl | rfl <;> rfl
  refine upload_step_same ⟨?_, ?_, ?_, uploading.syn⟩ (by rw [pool])
  · rw [pool]
    exact uploading.found
  · obtain ⟨first, present, zero, sums⟩ := uploading.conn
    rw [conns]
    by_cases here : index = 0
    · subst here
      rw [found] at present
      cases present
      refine ⟨conn', List.getElem?_set_self (List.getElem?_eq_some_iff.mp found).1,
        session.trans zero, ?_⟩
      rcases write_cases written with rfl | rfl
      · exact sums
      · simp only [List.flatten_append, List.flatten_singleton, ← List.append_assoc, sums]
    · exact ⟨first, (List.getElem?_set_ne here).trans present, zero, sums⟩
  · rw [conns]
    exact single_set uploading.single found session

/-- What an act of the session's own connection emits. -/
theorem acted_emits {s : Session} {conn conn' : VirtualConn} {effect : ConnEffect}
    (acted : VirtualConn.Acted s conn conn' effect) :
    payloads effect.frames ++ conn'.txQueue.flatten = conn.txQueue.flatten ∧
      ∀ f ∈ effect.frames, f.flags ≠ FlagSYN := by
  cases acted with
  | silent queue written => exact ⟨by rw [queue]; rfl, nofun⟩
  | chunk data rest now head queue written =>
      refine ⟨?_, fun f member => ?_⟩
      · rw [queue, head]
        simp [ConnEffect.frames, payloads, dataFrame]
      · rw [List.mem_singleton.mp member]
        exact (by decide : (0 : Nat) ≠ FlagSYN)
  | fin now pending queue written =>
      refine ⟨?_, fun f member => ?_⟩
      · rw [queue]
        simp [ConnEffect.frames, payloads, finFrame]
      · rw [List.mem_singleton.mp member]
        exact (by decide : FlagFIN ≠ FlagSYN)
  | wake queue written => exact ⟨by rw [queue]; rfl, nofun⟩
  | skip f rest received dropped queue written => exact ⟨by rw [queue]; rfl, nofun⟩
  | write f rest received plain payload opened queue written =>
      exact ⟨by rw [queue]; rfl, nofun⟩

theorem uploading_act {index : Nat} {act : ConnAct} {conn conn' : VirtualConn}
    {effect : ConnEffect} (uploading : Uploading sid before emitted)
    (found : before.conns[index]? = some conn)
    (acted : conn.act (before.pool.objects conn.session) act = some (conn', effect))
    (pool : after.pool = effect.apply before.pool conn.session)
    (conns : after.conns = before.conns.set index conn') :
    UploadStep sid before after emitted none := by
  obtain ⟨owner, how⟩ := VirtualConn.act_acted acted
  have present : after.pool.get sid = some 0 := by
    rw [pool, conn_effect_get]
    exact uploading.found
  have single := single_set uploading.single found owner.session
  rw [← conns] at single
  obtain ⟨first, slot, zero, sums⟩ := uploading.conn
  by_cases here : conn.session = 0
  · have index0 := uploading.single index conn found here
    subst index0
    rw [found] at slot
    cases slot
    obtain ⟨emits, plain⟩ := acted_emits how
    refine ⟨effect.frames, ⟨present, ⟨conn', ?_, owner.session.trans zero, ?_⟩, single,
      uploading.syn.append plain⟩, ?_⟩
    · rw [conns]
      exact List.getElem?_set_self (List.getElem?_eq_some_iff.mp found).1
    · rw [payloads_append, List.append_assoc, emits, sums, owner.accepted]
    · have queue := conn_effect_tx before.pool conn.session effect
      rw [here] at queue
      rw [pool, here, queue]
      rfl
  · have away : index ≠ 0 := by
      rintro rfl
      rw [found] at slot
      cases slot
      exact here zero
    refine upload_step_same ⟨present, ⟨first, ?_, zero, sums⟩, single, uploading.syn⟩ ?_
    · rw [conns]
      exact (List.getElem?_set_ne away).trans slot
    · rw [pool, conn_effect_other _ _ _ (Ne.symm here)]

/-- A drain moves the front of the queue into the batch, or leaves it. -/
theorem uploading_drain {call : Client.DrainCall} (uploading : Uploading sid before emitted)
    (own : OwnQueues before.pool) (fits : DrainFits sid before call)
    (pool : after.pool = (call.run before.pool).pool) (conns : after.conns = before.conns) :
    Uploading sid after emitted ∧ (before.pool.objects 0).txQ =
      sessionFrames sid (call.run before.pool).frames ++ (after.pool.objects 0).txQ := by
  have same := untouched_drain_all before.pool call.batchSize call.workerId call.now
  have drained := drain_all_session own uploading.found fits.returned
  refine ⟨⟨?_, ?_, ?_, uploading.syn⟩, ?_⟩
  · rw [pool]
    exact (same.get sid).trans uploading.found
  · rw [conns]
    exact uploading.conn
  · rw [conns]
    exact uploading.single
  · rw [pool]
    unfold Client.DrainCall.run
    by_cases visited : sid ∈ workerSids before.pool call.workerId
    · obtain ⟨rest, front⟩ := (drained.2 visited).1 fits.room
      rw [rest, front, List.take_append_drop]
    · obtain ⟨rest, front⟩ := drained.1 visited
      rw [rest, front, List.nil_append]

theorem Uploading.react (uploading : Uploading sid before emitted) (own : OwnQueues before.pool)
    (reacted : Client.Reacted before request after action sent)
    (notAgain : action.opens ≠ some sid)
    (fits : ∀ call ∈ before.drainCall action, DrainFits sid before call) :
    UploadStep sid before after emitted sent := by
  cases reacted with
  | opened other target now pool conns =>
      refine uploading_open uploading ?_ pool conns
      rintro rfl
      exact notAgain rfl
  | wrote index data conn conn' found written pool conns =>
      exact uploading_write uploading found written pool conns
  | acted index act conn conn' effect found acted pool conns =>
      exact uploading_act uploading found acted pool conns
  | idle action call called unsent pool conns =>
      have fit := fits call called
      obtain ⟨later, queue⟩ := uploading_drain uploading own fit pool conns
      have nothing : (call.run before.pool).frames = [] := by
        by_contra some
        exact unsent fit.returned some (fit.encodes some)
      rw [nothing] at queue
      exact upload_step_same later queue.symm
  | posted action call called returned encodes pool conns =>
      obtain ⟨later, queue⟩ := uploading_drain uploading own (fits call called) pool conns
      refine ⟨[], ?_, ?_⟩
      · rw [List.append_nil]
        exact later
      · rw [List.append_nil, queue]
        simp [postedOf]
  | still action pool conns =>
      refine upload_step_same ⟨?_, ?_, ?_, uploading.syn⟩ (by rw [pool])
      · rw [pool]
        exact uploading.found
      · rw [conns]
        exact uploading.conn
      · rw [conns]
        exact uploading.single

end Client

/-- The frames that an answer brings. -/
def Answer.brought : Answer → List Frame
  | .frames respFrames _ => respFrames
  | _ => []

def Answer.isFailure : Answer → Bool
  | .failed _ => true
  | _ => false

theorem take_answer_dispatches (pool : SessionPool) (ep : EndpointState) (frames : List Frame)
    (now : ℚ) {answer : Answer} (succeeded : answer.isFailure = false) :
    (takeAnswer pool ep frames now answer).pool =
      dispatchResponseFrames pool now answer.brought := by
  cases answer with
  | frames respFrames bodyLength => rfl
  | emptyBody => rfl
  | unreadable error => rfl
  | failed status => cases succeeded

section Answered

variable {sid : Bytes} {before after : Client} {index : Nat} {answer : Answer} {sent : Nat}
  {rttMs now : ℚ}

/-- A successful answer only adds to the session's receive queue. -/
theorem answered_session (found : before.pool.get sid = some 0)
    (succeeded : answer.isFailure = false)
    (taken : before.answered index answer sent rttMs now = some after) :
    after.conns = before.conns ∧ after.pool.get sid = some 0 ∧
      (after.pool.objects 0).rxQ =
        (before.pool.objects 0).rxQ ++ sessionFrames sid answer.brought ∧
      (after.pool.objects 0).txQ = (before.pool.objects 0).txQ := by
  obtain ⟨w, request, frames, ep, _, _, rfl⟩ := Client.answered_cases taken
  dsimp only
  rw [take_answer_dispatches before.pool (ep.recordPost sent rttMs) frames now succeeded]
  exact ⟨rfl, dispatch_response_session found⟩

theorem Uploading.answered {emitted : List Frame} (uploading : Uploading sid before emitted)
    (succeeded : answer.isFailure = false)
    (taken : before.answered index answer sent rttMs now = some after) :
    Uploading sid after emitted ∧ (after.pool.objects 0).txQ = (before.pool.objects 0).txQ := by
  obtain ⟨conns, found, _, queue⟩ := answered_session uploading.found succeeded taken
  refine ⟨⟨found, ?_, ?_, uploading.syn⟩, queue⟩
  · rw [conns]
    exact uploading.conn
  · rw [conns]
    exact uploading.single

/-- A client without the session gets it neither by its own steps, unless it
opens it, nor by an answer. -/
theorem foreign_react {request : Nat} {action : ClientAction} {posted : Option Post}
    (missing : before.pool.get sid = none) (own : OwnQueues before.pool)
    (reacted : Client.Reacted before request after action posted)
    (notOpened : action.opens ≠ some sid) :
    after.pool.get sid = none ∧ postedOf sid posted = [] := by
  have drained : ∀ call : Client.DrainCall, (call.run before.pool).pool.get sid = none :=
    fun call => ((untouched_drain_all _ _ _ _).get sid).trans missing
  cases reacted with
  | opened other target now pool conns =>
      have different : sid ≠ other := by
        rintro rfl
        exact notOpened rfl
      refine ⟨?_, rfl⟩
      rw [pool]
      exact (elsewhere_get_or_create FlagSYN target now different).get.trans missing
  | wrote index data conn conn' found written pool conns =>
      rw [pool]
      exact ⟨missing, rfl⟩
  | acted index act conn conn' effect found acted pool conns =>
      rw [pool, conn_effect_get]
      exact ⟨missing, rfl⟩
  | idle action call called unsent pool conns =>
      rw [pool]
      exact ⟨drained call, rfl⟩
  | posted action call called returned encodes pool conns =>
      rw [pool]
      refine ⟨drained call, ?_⟩
      have none := drain_all_missing own missing call.batchSize call.workerId call.now
      have flat : (some (⟨request, before.clientId, (call.run before.pool).frames⟩ :
          Post)).toList.flatMap Post.frames = (call.run before.pool).frames := by simp
      rw [postedOf, flat]
      exact none
  | still action pool conns =>
      rw [pool]
      exact ⟨missing, rfl⟩

theorem dispatch_response_sessions (now : ℚ) (frames : List Frame) (pool : SessionPool) :
    (dispatchResponseFrames pool now frames).sessions = pool.sessions := by
  induction frames generalizing pool with
  | nil => rfl
  | cons f rest ih => exact (ih _).trans (dispatch_response_dict now pool f)

theorem foreign_answered (missing : before.pool.get sid = none)
    (taken : before.answered index answer sent rttMs now = some after) :
    after.pool.get sid = none := by
  obtain ⟨w, request, frames, ep, _, _, rfl⟩ := Client.answered_cases taken
  dsimp only
  rcases Client.take_answer_pool before.pool (ep.recordPost sent rttMs) frames now answer with
    ⟨respFrames, _, _, same⟩ | ⟨_, same | same⟩
  · rw [same, SessionPool.get, dispatch_response_sessions]
    exact missing
  · rw [same]
    exact missing
  · rw [same, drop_failed_get]
    split_ifs
    · rfl
    · exact missing

end Answered

end Astrix
