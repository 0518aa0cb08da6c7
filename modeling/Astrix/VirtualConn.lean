import Astrix.SessionPool

/-!
# Virtual connections

`socks/conn.py`. The SOCKS side hands chunks to `write`; `_tx_drain_loop` turns
them into data frames and `_read_loop` passes payloads to the transport. A FIN
or RST frame makes the read loop close the connection: it cancels itself and
queues a FIN when it runs again. The session id of `open` is a parameter.
-/

namespace Astrix

open PyRuntime

set_option autoImplicit false

def txQueueMaxsize : Nat := 4096

inductive ReaderState where
  | waiting
  | draining
  | ended
  deriving DecidableEq, Repr

/-- `accepted` and `written` record the chunks given to `write` and the payloads
given to `transport.write`. `finishing` is the rest of `close` after it set
`_closed`. -/
structure VirtualConn where
  session : Nat
  closed : Bool
  finishing : Bool
  txRunning : Bool
  reader : ReaderState
  transportClosing : Bool
  txQueue : List Bytes
  accepted : List Bytes
  written : List Bytes
  deriving DecidableEq, Repr

def synFrame (sid : Bytes) (target : Text) : Frame where
  sessionId := sid
  seq := 0
  flags := FlagSYN
  target := target
  payload := []

def dataFrame (sid : Bytes) (seq : Int) (data : Bytes) : Frame where
  sessionId := sid
  seq := seq
  flags := 0
  target := []
  payload := data

def finFrame (sid : Bytes) : Frame where
  sessionId := sid
  seq := 0
  flags := FlagFIN
  target := []
  payload := []

namespace VirtualConn

/-- `VirtualConn.open`. -/
def openSession (pool : SessionPool) (sid : Bytes) (target : Text) (now : ℚ) :
    SessionPool × VirtualConn :=
  let (pool, session) := pool.getOrCreate sid FlagSYN target now
  (pool.enqueueTx session (synFrame sid target) now,
    { session := session
      closed := false
      finishing := false
      txRunning := true
      reader := .waiting
      transportClosing := false
      txQueue := []
      accepted := []
      written := [] })

/-- `write`; a full queue makes it wait. -/
def write (conn : VirtualConn) (data : Bytes) : Option VirtualConn :=
  if conn.closed then some conn
  else if conn.txQueue.length < txQueueMaxsize then
    some { conn with
      txQueue := conn.txQueue ++ [data]
      accepted := conn.accepted ++ [data] }
  else none

end VirtualConn

inductive ConnAct where
  | drainChunk (now : ℚ)
  | wake
  | pop
  | finishClose (now : ℚ)
  | transportLost
  deriving DecidableEq

/-- What one act of a connection does to its session. -/
inductive ConnEffect where
  | nothing
  | sendData (frame : Frame) (nextSeq : Int) (now : ℚ)
  | sendFin (frame : Frame) (now : ℚ)
  | clearRxEvent
  | popRx
  deriving DecidableEq

def SessionPool.setRxEvent (pool : SessionPool) (ref : Nat) : SessionPool :=
  pool.modify ref (fun s => { s with rxEvent := true }) fun _ => rfl

theorem SessionPool.set_rx_event_objects (pool : SessionPool) (ref other : Nat) :
    (pool.setRxEvent ref).objects other =
      if other = ref then { pool.objects ref with rxEvent := true } else pool.objects other :=
  SessionPool.modify_objects _ _ _ _ _

def ConnEffect.apply (pool : SessionPool) (session : Nat) : ConnEffect → SessionPool
  | .nothing => pool
  | .sendData frame nextSeq now => (pool.setSeq session nextSeq).enqueueTx session frame now
  | .sendFin frame now => (pool.enqueueTx session frame now).setRxEvent session
  | .clearRxEvent => pool.clearRxEvent session
  | .popRx => pool.popRx session

namespace VirtualConn

/-- One round of the inner loop of `_read_loop`. -/
def pop (s : Session) (conn : VirtualConn) : VirtualConn × ConnEffect :=
  if conn.closed then ({ conn with reader := .ended }, .nothing)
  else
    match s.rxQ with
    | [] => ({ conn with reader := .waiting }, .nothing)
    | f :: _ =>
        if f.hasFlag (FlagFIN ||| FlagRST) then
          ({ conn with closed := true, finishing := true, reader := .ended }, .popRx)
        else if f.payload ≠ [] ∧ conn.transportClosing = false then
          ({ conn with written := conn.written ++ [f.payload] }, .popRx)
        else (conn, .popRx)

def act (s : Session) (conn : VirtualConn) : ConnAct → Option (VirtualConn × ConnEffect)
  | .drainChunk now =>
      match conn.txRunning, conn.txQueue with
      | true, data :: rest =>
          some ({ conn with txQueue := rest, txRunning := !conn.closed },
            .sendData (dataFrame s.sessionId s.seq data) (s.seq + 1) now)
      | _, _ => none
  | .wake =>
      if conn.reader = .waiting ∧ s.rxEvent then
        if conn.closed then some ({ conn with reader := .ended }, .nothing)
        else some ({ conn with reader := .draining }, .clearRxEvent)
      else none
  | .pop => if conn.reader = .draining then some (conn.pop s) else none
  | .finishClose now =>
      if conn.finishing then
        some ({ conn with finishing := false, transportClosing := true },
          .sendFin (finFrame s.sessionId) now)
      else none
  | .transportLost => some ({ conn with transportClosing := true }, .nothing)

/-- Everything a round of the inner loop can be, with what its branch has checked. -/
inductive Pops (s : Session) (conn : VirtualConn) : VirtualConn → ConnEffect → Prop where
  | stopped (closed : conn.closed = true) :
      Pops s conn { conn with reader := .ended } .nothing
  | emptied (opened : conn.closed = false) (queue : s.rxQ = []) :
      Pops s conn { conn with reader := .waiting } .nothing
  | ended (f : Frame) (rest : List Frame) (opened : conn.closed = false)
      (queue : s.rxQ = f :: rest) (closing : f.hasFlag (FlagFIN ||| FlagRST) = true) :
      Pops s conn { conn with closed := true, finishing := true, reader := .ended } .popRx
  | wrote (f : Frame) (rest : List Frame) (opened : conn.closed = false)
      (queue : s.rxQ = f :: rest) (plain : f.hasFlag (FlagFIN ||| FlagRST) = false)
      (payload : f.payload ≠ []) (transport : conn.transportClosing = false) :
      Pops s conn { conn with written := conn.written ++ [f.payload] } .popRx
  | skipped (f : Frame) (rest : List Frame) (opened : conn.closed = false)
      (queue : s.rxQ = f :: rest) (plain : f.hasFlag (FlagFIN ||| FlagRST) = false)
      (dropped : f.payload = [] ∨ conn.transportClosing = true) :
      Pops s conn conn .popRx

/-- Everything an act can be, with what its branch has checked. -/
inductive Acts (s : Session) (conn : VirtualConn) :
    ConnAct → VirtualConn → ConnEffect → Prop where
  | drainChunk (now : ℚ) (data : Bytes) (rest : List Bytes) (running : conn.txRunning = true)
      (head : conn.txQueue = data :: rest) :
      Acts s conn (.drainChunk now) { conn with txQueue := rest, txRunning := !conn.closed }
        (.sendData (dataFrame s.sessionId s.seq data) (s.seq + 1) now)
  | wakeClosed (waiting : conn.reader = .waiting) (event : s.rxEvent = true)
      (closed : conn.closed = true) :
      Acts s conn .wake { conn with reader := .ended } .nothing
  | wake (waiting : conn.reader = .waiting) (event : s.rxEvent = true)
      (opened : conn.closed = false) :
      Acts s conn .wake { conn with reader := .draining } .clearRxEvent
  | pop (conn' : VirtualConn) (effect : ConnEffect) (draining : conn.reader = .draining)
      (popped : conn.pop s = (conn', effect)) :
      Acts s conn .pop conn' effect
  | finishClose (now : ℚ) (pending : conn.finishing = true) :
      Acts s conn (.finishClose now) { conn with finishing := false, transportClosing := true }
        (.sendFin (finFrame s.sessionId) now)
  | transportLost : Acts s conn .transportLost { conn with transportClosing := true } .nothing

theorem pop_cases {s : Session} {conn conn' : VirtualConn} {effect : ConnEffect}
    (popped : conn.pop s = (conn', effect)) : conn.Pops s conn' effect := by
  unfold VirtualConn.pop at popped
  split_ifs at popped with closed
  · cases popped
    exact .stopped closed
  · have opened := Bool.eq_false_iff.mpr closed
    cases queue : s.rxQ with
    | nil =>
        rw [queue] at popped
        cases popped
        exact .emptied opened queue
    | cons f rest =>
        rw [queue] at popped
        dsimp only at popped
        split_ifs at popped with closing payload
        · cases popped
          exact .ended f rest opened queue closing
        · cases popped
          exact .wrote f rest opened queue (Bool.eq_false_iff.mpr closing) payload.1 payload.2
        · cases popped
          refine .skipped f rest opened queue (Bool.eq_false_iff.mpr closing) ?_
          by_cases empty : f.payload = []
          · exact .inl empty
          · exact .inr (Bool.of_not_eq_false fun transport => payload ⟨empty, transport⟩)

/-- The inversion of an act: its branch, and what the branch has checked. -/
theorem act_cases {s : Session} {conn conn' : VirtualConn} {action : ConnAct}
    {effect : ConnEffect} (acted : conn.act s action = some (conn', effect)) :
    conn.Acts s action conn' effect := by
  cases action with
  | drainChunk now =>
      simp only [VirtualConn.act] at acted
      split at acted
      · next data rest running head =>
          cases acted
          exact .drainChunk now data rest running head
      · cases acted
  | wake =>
      simp only [VirtualConn.act] at acted
      split_ifs at acted with ready closed
      · cases acted
        exact .wakeClosed ready.1 ready.2 closed
      · cases acted
        exact .wake ready.1 ready.2 (Bool.eq_false_iff.mpr closed)
  | pop =>
      simp only [VirtualConn.act] at acted
      split_ifs at acted with draining
      exact .pop conn' effect draining (Option.some.inj acted)
  | finishClose now =>
      simp only [VirtualConn.act] at acted
      split_ifs at acted with pending
      cases acted
      exact .finishClose now pending
  | transportLost =>
      cases acted
      exact .transportLost

/-- Everything an act can do: its effect on the session, with what it takes from
the chunks to send and adds to the payloads written. -/
inductive Acted (s : Session) (conn conn' : VirtualConn) : ConnEffect → Prop where
  | silent (queue : conn'.txQueue = conn.txQueue) (written : conn'.written = conn.written) :
      Acted s conn conn' .nothing
  | chunk (data : Bytes) (rest : List Bytes) (now : ℚ) (head : conn.txQueue = data :: rest)
      (queue : conn'.txQueue = rest) (written : conn'.written = conn.written) :
      Acted s conn conn' (.sendData (dataFrame s.sessionId s.seq data) (s.seq + 1) now)
  | fin (now : ℚ) (pending : conn.finishing = true) (queue : conn'.txQueue = conn.txQueue)
      (written : conn'.written = conn.written) :
      Acted s conn conn' (.sendFin (finFrame s.sessionId) now)
  | wake (queue : conn'.txQueue = conn.txQueue) (written : conn'.written = conn.written) :
      Acted s conn conn' .clearRxEvent
  | skip (f : Frame) (rest : List Frame) (received : s.rxQ = f :: rest)
      (dropped : f.hasFlag (FlagFIN ||| FlagRST) = true ∨ f.payload = [] ∨
        conn.transportClosing = true)
      (queue : conn'.txQueue = conn.txQueue) (written : conn'.written = conn.written) :
      Acted s conn conn' .popRx
  | write (f : Frame) (rest : List Frame) (received : s.rxQ = f :: rest)
      (plain : f.hasFlag (FlagFIN ||| FlagRST) = false) (payload : f.payload ≠ [])
      (opened : conn.transportClosing = false) (queue : conn'.txQueue = conn.txQueue)
      (written : conn'.written = conn.written ++ [f.payload]) :
      Acted s conn conn' .popRx

/-- What no act changes or undoes. -/
structure SameOwner (conn conn' : VirtualConn) : Prop where
  session : conn'.session = conn.session
  accepted : conn'.accepted = conn.accepted
  closing : conn.transportClosing = true → conn'.transportClosing = true

theorem pop_acted {s : Session} {conn conn' : VirtualConn} {effect : ConnEffect}
    (popped : conn.pop s = (conn', effect)) :
    SameOwner conn conn' ∧ Acted s conn conn' effect := by
  cases pop_cases popped with
  | stopped | emptied => exact ⟨⟨rfl, rfl, id⟩, .silent rfl rfl⟩
  | ended f rest opened queue closing =>
      exact ⟨⟨rfl, rfl, id⟩, .skip f rest queue (.inl closing) rfl rfl⟩
  | wrote f rest opened queue plain payload transport =>
      exact ⟨⟨rfl, rfl, id⟩, .write f rest queue plain payload transport rfl rfl⟩
  | skipped f rest opened queue plain dropped =>
      exact ⟨⟨rfl, rfl, id⟩, .skip f rest queue (.inr dropped) rfl rfl⟩

theorem act_acted {s : Session} {conn conn' : VirtualConn} {action : ConnAct}
    {effect : ConnEffect} (acted : conn.act s action = some (conn', effect)) :
    SameOwner conn conn' ∧ Acted s conn conn' effect := by
  cases act_cases acted with
  | drainChunk now data rest running head =>
      exact ⟨⟨rfl, rfl, id⟩, .chunk data rest now head rfl rfl⟩
  | wakeClosed => exact ⟨⟨rfl, rfl, id⟩, .silent rfl rfl⟩
  | wake => exact ⟨⟨rfl, rfl, id⟩, .wake rfl rfl⟩
  | pop _ _ draining popped => exact pop_acted popped
  | finishClose now pending => exact ⟨⟨rfl, rfl, fun _ => rfl⟩, .fin now pending rfl rfl⟩
  | transportLost => exact ⟨⟨rfl, rfl, fun _ => rfl⟩, .silent rfl rfl⟩

/-- Opening a session that the pool does not have: a new object with the SYN queued on it. -/
structure OpensSession (sid : Bytes) (target : Text) (now : ℚ) (before after : SessionPool)
    (conn : VirtualConn) : Prop where
  session : conn.session = before.fresh
  fresh : after.fresh = before.fresh + 1
  object : after.objects before.fresh =
    ((Session.create sid FlagSYN target now).enqueueTx (synFrame sid target) now).1
  older : ∀ r < before.fresh, after.objects r = before.objects r
  get : after.get sid = some before.fresh
  others : ∀ other, other ≠ sid → after.get other = before.get other

theorem open_session_made {pool : SessionPool} {sid : Bytes} (target : Text) (now : ℚ)
    (missing : pool.get sid = none) :
    OpensSession sid target now pool (openSession pool sid target now).1
      (openSession pool sid target now).2 := by
  have made : pool.getOrCreate sid FlagSYN target now =
      (pool.insert sid FlagSYN target now missing, pool.fresh) := by
    rcases SessionPool.get_or_create_cases pool sid FlagSYN target now with
      ⟨ref, found, _⟩ | ⟨_, made⟩
    · cases missing.symm.trans found
    · exact made
  have after : (openSession pool sid target now).1 =
      (pool.insert sid FlagSYN target now missing).enqueueTx pool.fresh (synFrame sid target)
        now := by
    rw [openSession, made]
  constructor
  · rw [openSession, made]
  · rw [after]
    rfl
  · rw [after, SessionPool.enqueue_tx_objects, if_pos rfl, SessionPool.insert_objects,
      if_pos rfl]
  · intro r bound
    rw [after, SessionPool.enqueue_tx_objects, if_neg (Nat.ne_of_lt bound),
      SessionPool.insert_objects, if_neg (Nat.ne_of_lt bound)]
  · rw [after]
    exact OrderedDict.get_insert_new_self _ _ _ (SessionPool.fresh_key missing)
  · intro other different
    rw [after]
    exact OrderedDict.get_insert_new_of_ne _ _ _ _ (SessionPool.fresh_key missing) different

end VirtualConn

end Astrix
