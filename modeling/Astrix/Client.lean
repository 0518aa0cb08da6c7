import Mathlib.Tactic.SplitIfs
import Astrix.Carrier
import Astrix.VirtualConn

/-!
# The client

A client is its session pool with the virtual connections and carrier workers
that share it. A worker is between two suspension points of `_worker_loop`: at
the loop head, in `wait_for_activity`, in `post` with the frames it sent, or in
the sleep after a 302 or 429. The result of `wait_for_activity`, the answer to a
post and the health of the endpoints are choices of the environment.
-/

namespace Astrix

open PyRuntime

set_option autoImplicit false

def _MaxConsecutiveFailures : Nat := 5
def _BackoffMax : ℚ := 3600

inductive WorkerPhase where
  | head
  | waiting
  | posting (request : Nat) (frames : List Frame)
  | cooling
  | ended
  deriving DecidableEq, Repr

structure CarrierWorker where
  endpoint : Nat
  workerId : Nat
  phase : WorkerPhase
  deriving DecidableEq, Repr

structure Client where
  clientId : Bytes
  pool : SessionPool
  conns : List VirtualConn
  running : Bool
  endpoints : List EndpointState
  workers : List CarrierWorker

/-- A posted batch; `request` numbers the HTTP requests. -/
structure Post where
  request : Nat
  clientId : Bytes
  frames : List Frame
  deriving DecidableEq, Repr

/-- What the health monitor, a revival and the watchdog do to an endpoint. -/
inductive EndpointEvent where
  | markDead
  | revive
  | forceFailures
  deriving DecidableEq, Repr

def EndpointState.health (ep : EndpointState) : EndpointEvent → EndpointState
  | .markDead =>
      if ep.consecutiveFailures ≥ _MaxConsecutiveFailures then { ep with isDead := true } else ep
  | .revive =>
      { ep with
        isDead := false
        consecutiveFailures := 0
        backoff := min (ep.backoff * 2) _BackoffMax }
  | .forceFailures =>
      if ep.isDead then ep else { ep with consecutiveFailures := _MaxConsecutiveFailures }

/-- What a worker makes of the answer to its post. -/
inductive Answer where
  | frames (frames : List Frame) (bodyLength : Nat)
  | emptyBody
  | unreadable (error : PyError)
  | failed (status : Nat)
  deriving DecidableEq, Repr

def readAnswer (prims : Primitives) (status : Nat) (respBody : Bytes) : Answer :=
  if status = 200 then
    if respBody ≠ [] then
      match decodeBatch prims respBody with
      | .ok (_, respFrames) => .frames respFrames respBody.length
      | .error error => .unreadable error
    else .emptyBody
  else .failed status

def takeAnswer (pool : SessionPool) (ep : EndpointState) (frames : List Frame) (now : ℚ) :
    Answer → Answered
  | .frames respFrames bodyLength =>
      receiveFrames pool { ep with consecutiveFailures := 0 } bodyLength now respFrames
  | .emptyBody =>
      { pool := pool, ep := { ep with consecutiveFailures := 0 }, finish := .loopHead }
  | .unreadable error =>
      { pool := pool, ep := { ep with consecutiveFailures := 0 }, finish := .raised error }
  | .failed status => handleFailure pool ep frames status

/-- Reading the answer first and acting on it afterwards is what the worker does. -/
theorem handle_answer_read (prims : Primitives) (pool : SessionPool) (ep : EndpointState)
    (frames : List Frame) (status : Nat) (respBody : Bytes) (now : ℚ) :
    handleAnswer prims pool ep frames status respBody now =
      takeAnswer pool ep frames now (readAnswer prims status respBody) := by
  unfold handleAnswer readAnswer
  by_cases succeeded : status = 200
  · simp only [succeeded, if_true]
    by_cases empty : respBody = []
    · simp only [empty, ne_eq, not_true_eq_false, if_false, takeAnswer]
    · simp only [empty, ne_eq, not_false_eq_true, if_true]
      cases decodeBatch prims respBody <;> rfl
  · simp only [succeeded, if_false, takeAnswer]

def IterationEnd.phase : IterationEnd → WorkerPhase
  | .loopHead => .head
  | .sleepThenLoopHead _ => .cooling
  | .raised _ => .ended

inductive ClientAction where
  | openConn (sid : Bytes) (target : Text) (now : ℚ)
  | write (index : Nat) (data : Bytes)
  | conn (index : Nat) (act : ConnAct)
  | work (index : Nat) (now : ℚ)
  | heard (index : Nat) (activity : Bool) (now : ℚ)
  | cooled (index : Nat)
  | health (index : Nat) (event : EndpointEvent)
  | stop
  deriving DecidableEq

namespace Client

/-- `Carrier.start` with its endpoints. -/
def start (clientId : Bytes) (endpoints : Nat) : Client where
  clientId := clientId
  pool := SessionPool.new
  conns := []
  running := true
  endpoints := List.replicate endpoints EndpointState.new
  workers := (List.range endpoints).flatMap fun endpoint =>
    (List.range workersPerEndpoint).map fun workerId => ⟨endpoint, workerId, .head⟩

def setPhase (client : Client) (index : Nat) (w : CarrierWorker) (phase : WorkerPhase) : Client :=
  { client with workers := client.workers.set index { w with phase := phase } }

/-- What follows a drain: nothing to send, an error, or the post. -/
def send (client : Client) (index : Nat) (w : CarrierWorker) (request : Nat) (idle : WorkerPhase)
    (drain : Drain) : Client × Option Post :=
  let client := { client with pool := drain.pool }
  match drain.failed with
  | some _ => (client.setPhase index w .ended, none)
  | none =>
      if drain.frames = [] then (client.setPhase index w idle, none)
      else
        match batchPlaintext client.clientId drain.frames with
        | .error _ => (client.setPhase index w .ended, none)
        | .ok _ => (client.setPhase index w (.posting request drain.frames),
            some ⟨request, client.clientId, drain.frames⟩)

/-- From the loop head. A dead endpoint makes the worker sleep and come back. -/
def work (client : Client) (request index : Nat) (w : CarrierWorker) (ep : EndpointState)
    (now : ℚ) : Client × Option Post :=
  if client.running = false then (client.setPhase index w .ended, none)
  else if ep.isDead then (client, none)
  else client.send index w request .waiting (drainAll client.pool ep.batchSize w.workerId now)

/-- From the end of `wait_for_activity`. -/
def hear (client : Client) (request index : Nat) (w : CarrierWorker) (ep : EndpointState)
    (activity : Bool) (now : ℚ) : Client × Option Post :=
  if activity then
    client.send index w request .head (drainAll client.pool ep.batchSize w.workerId now)
  else (client.setPhase index w .head, none)

def react (client : Client) (request : Nat) : ClientAction → Option (Client × Option Post)
  | .openConn sid target now =>
      let (pool, conn) := VirtualConn.openSession client.pool sid target now
      some ({ client with pool := pool, conns := client.conns ++ [conn] }, none)
  | .write index data =>
      match client.conns[index]? with
      | some conn => (conn.write data).map fun conn =>
          ({ client with conns := client.conns.set index conn }, none)
      | none => none
  | .conn index act =>
      match client.conns[index]? with
      | some conn => (conn.act (client.pool.objects conn.session) act).map fun (conn', effect) =>
          ({ client with
              pool := effect.apply client.pool conn.session
              conns := client.conns.set index conn' }, none)
      | none => none
  | .work index now =>
      match client.workers[index]? with
      | some w =>
          match w.phase, client.endpoints[w.endpoint]? with
          | .head, some ep => some (client.work request index w ep now)
          | _, _ => none
      | none => none
  | .heard index activity now =>
      match client.workers[index]? with
      | some w =>
          match w.phase, client.endpoints[w.endpoint]? with
          | .waiting, some ep => some (client.hear request index w ep activity now)
          | _, _ => none
      | none => none
  | .cooled index =>
      match client.workers[index]? with
      | some w => if w.phase = .cooling then some (client.setPhase index w .head, none) else none
      | none => none
  | .health index event =>
      some ({ client with endpoints := client.endpoints.modify index fun ep => ep.health event },
        none)
  | .stop =>
      some ({ client with
        running := false
        workers := client.workers.map fun w => { w with phase := .ended } }, none)

/-- The worker's post was answered; `sent` and `rttMs` are its statistics. -/
def answered (client : Client) (index : Nat) (answer : Answer) (sent : Nat) (rttMs now : ℚ) :
    Option Client :=
  match client.workers[index]? with
  | some w =>
      match w.phase, client.endpoints[w.endpoint]? with
      | .posting _ frames, some ep =>
          let result := takeAnswer client.pool (ep.recordPost sent rttMs) frames now answer
          some { client with
            pool := result.pool
            endpoints := client.endpoints.set w.endpoint result.ep
            workers := client.workers.set index { w with phase := result.finish.phase } }
      | _, _ => none
  | none => none

/-- The drain that an action makes, as `drainAll` takes it. -/
structure DrainCall where
  batchSize : Nat
  workerId : Nat
  now : ℚ

def DrainCall.run (call : DrainCall) (pool : SessionPool) : Drain :=
  drainAll pool call.batchSize call.workerId call.now

/-- The drain of a worker that is in `phase` and finds its endpoint ready. -/
def workerCall (client : Client) (index : Nat) (phase : WorkerPhase)
    (ready : EndpointState → Bool) (now : ℚ) : Option DrainCall :=
  match client.workers[index]? with
  | some w =>
      match client.endpoints[w.endpoint]? with
      | some ep =>
          if w.phase = phase ∧ ready ep then some ⟨ep.batchSize, w.workerId, now⟩ else none
      | none => none
  | none => none

def drainCall (client : Client) : ClientAction → Option DrainCall
  | .work index now =>
      client.workerCall index .head (fun ep => client.running && !ep.isDead) now
  | .heard index true now => client.workerCall index .waiting (fun _ => true) now
  | _ => none

/-- The batch can be put into its pre-sized buffer. -/
def Encodes (clientId : Bytes) (frames : List Frame) : Prop :=
  (batchPlaintext clientId frames).isOk = true

instance (clientId : Bytes) (frames : List Frame) : Decidable (Encodes clientId frames) :=
  inferInstanceAs (Decidable (_ = true))

/-- Everything an action can be, with what its branch has checked. -/
inductive Reacts (before : Client) (request : Nat) :
    ClientAction → Client → Option Post → Prop where
  | openConn (sid : Bytes) (target : Text) (now : ℚ) :
      Reacts before request (.openConn sid target now)
        { before with
          pool := (VirtualConn.openSession before.pool sid target now).1
          conns := before.conns ++ [(VirtualConn.openSession before.pool sid target now).2] } none
  | write (index : Nat) (data : Bytes) (conn conn' : VirtualConn)
      (found : before.conns[index]? = some conn) (written : conn.write data = some conn') :
      Reacts before request (.write index data)
        { before with conns := before.conns.set index conn' } none
  | conn (index : Nat) (act : ConnAct) (conn conn' : VirtualConn) (effect : ConnEffect)
      (found : before.conns[index]? = some conn)
      (acted : conn.act (before.pool.objects conn.session) act = some (conn', effect)) :
      Reacts before request (.conn index act)
        { before with
          pool := effect.apply before.pool conn.session
          conns := before.conns.set index conn' } none
  | work (index : Nat) (now : ℚ) (w : CarrierWorker) (ep : EndpointState) (after : Client)
      (sent : Option Post) (found : before.workers[index]? = some w) (head : w.phase = .head)
      (present : before.endpoints[w.endpoint]? = some ep)
      (worked : before.work request index w ep now = (after, sent)) :
      Reacts before request (.work index now) after sent
  | heard (index : Nat) (activity : Bool) (now : ℚ) (w : CarrierWorker) (ep : EndpointState)
      (after : Client) (sent : Option Post) (found : before.workers[index]? = some w)
      (waiting : w.phase = .waiting) (present : before.endpoints[w.endpoint]? = some ep)
      (worked : before.hear request index w ep activity now = (after, sent)) :
      Reacts before request (.heard index activity now) after sent
  | cooled (index : Nat) (w : CarrierWorker) (found : before.workers[index]? = some w)
      (cooling : w.phase = .cooling) :
      Reacts before request (.cooled index) (before.setPhase index w .head) none
  | health (index : Nat) (event : EndpointEvent) :
      Reacts before request (.health index event)
        { before with endpoints := before.endpoints.modify index fun ep => ep.health event } none
  | stop :
      Reacts before request .stop
        { before with
          running := false
          workers := before.workers.map fun w => { w with phase := .ended } } none

/-- The inversion of a step: its branch, and what the branch has checked. -/
theorem react_cases {before after : Client} {request : Nat} {action : ClientAction}
    {sent : Option Post} (reacted : before.react request action = some (after, sent)) :
    Reacts before request action after sent := by
  cases action with
  | openConn sid target now =>
      cases reacted
      exact .openConn sid target now
  | write index data =>
      simp only [react] at reacted
      split at reacted
      · next conn found =>
          obtain ⟨conn', written, same⟩ := Option.map_eq_some_iff.mp reacted
          cases same
          exact .write index data conn conn' found written
      · cases reacted
  | conn index act =>
      simp only [react] at reacted
      split at reacted
      · next conn found =>
          obtain ⟨⟨conn', effect⟩, acted, same⟩ := Option.map_eq_some_iff.mp reacted
          cases same
          exact .conn index act conn conn' effect found acted
      · cases reacted
  | work index now =>
      simp only [react] at reacted
      split at reacted
      · next w found =>
          split at reacted
          · next ep head present =>
              exact .work index now w ep after sent found head present (Option.some.inj reacted)
          · cases reacted
      · cases reacted
  | heard index activity now =>
      simp only [react] at reacted
      split at reacted
      · next w found =>
          split at reacted
          · next ep waiting present =>
              exact .heard index activity now w ep after sent found waiting present
                (Option.some.inj reacted)
          · cases reacted
      · cases reacted
  | cooled index =>
      simp only [react] at reacted
      split at reacted
      · next w found =>
          split_ifs at reacted with cooling
          cases reacted
          exact .cooled index w found cooling
      · cases reacted
  | health index event =>
      cases reacted
      exact .health index event
  | stop =>
      cases reacted
      exact .stop

/-- Everything an action can do to the pool, the connections and the network. -/
inductive Reacted (before : Client) (request : Nat) (after : Client) :
    ClientAction → Option Post → Prop where
  | opened (sid : Bytes) (target : Text) (now : ℚ)
      (pool : after.pool = (VirtualConn.openSession before.pool sid target now).1)
      (conns : after.conns =
        before.conns ++ [(VirtualConn.openSession before.pool sid target now).2]) :
      Reacted before request after (.openConn sid target now) none
  | wrote (index : Nat) (data : Bytes) (conn conn' : VirtualConn)
      (found : before.conns[index]? = some conn) (written : conn.write data = some conn')
      (pool : after.pool = before.pool) (conns : after.conns = before.conns.set index conn') :
      Reacted before request after (.write index data) none
  | acted (index : Nat) (act : ConnAct) (conn conn' : VirtualConn) (effect : ConnEffect)
      (found : before.conns[index]? = some conn)
      (acted : conn.act (before.pool.objects conn.session) act = some (conn', effect))
      (pool : after.pool = effect.apply before.pool conn.session)
      (conns : after.conns = before.conns.set index conn') :
      Reacted before request after (.conn index act) none
  | idle (action : ClientAction) (call : DrainCall) (called : before.drainCall action = some call)
      (unsent : (call.run before.pool).failed = none → (call.run before.pool).frames ≠ [] →
        ¬ Encodes before.clientId (call.run before.pool).frames)
      (pool : after.pool = (call.run before.pool).pool) (conns : after.conns = before.conns) :
      Reacted before request after action none
  | posted (action : ClientAction) (call : DrainCall)
      (called : before.drainCall action = some call)
      (returned : (call.run before.pool).failed = none)
      (encodes : Encodes before.clientId (call.run before.pool).frames)
      (pool : after.pool = (call.run before.pool).pool) (conns : after.conns = before.conns) :
      Reacted before request after action
        (some ⟨request, before.clientId, (call.run before.pool).frames⟩)
  | still (action : ClientAction) (pool : after.pool = before.pool)
      (conns : after.conns = before.conns) :
      Reacted before request after action none

theorem send_reacted {client after : Client} {index request : Nat} {w : CarrierWorker}
    {idle : WorkerPhase} {action : ClientAction} {call : DrainCall} {sent : Option Post}
    (called : client.drainCall action = some call)
    (result : client.send index w request idle (call.run client.pool) = (after, sent)) :
    Reacted client request after action sent := by
  unfold send at result
  dsimp only at result
  cases failed : (call.run client.pool).failed with
  | some error =>
      rw [failed] at result
      cases result
      exact .idle action call called (fun returned => absurd (failed.symm.trans returned) nofun)
        rfl rfl
  | none =>
      rw [failed] at result
      dsimp only at result
      split_ifs at result with empty
      · cases result
        exact .idle action call called (fun _ some => absurd empty some) rfl rfl
      · cases written : batchPlaintext client.clientId (call.run client.pool).frames with
        | error error =>
            rw [written] at result
            cases result
            refine .idle action call called (fun _ _ encodes => ?_) rfl rfl
            rw [Encodes, written] at encodes
            cases encodes
        | ok plaintext =>
            rw [written] at result
            cases result
            refine .posted action call called failed ?_ rfl rfl
            rw [Encodes, written]
            rfl

theorem react_reacted {before after : Client} {request : Nat} {action : ClientAction}
    {sent : Option Post} (reacted : before.react request action = some (after, sent)) :
    Reacted before request after action sent := by
  cases react_cases reacted with
  | openConn sid target now => exact .opened sid target now rfl rfl
  | write index data conn conn' found written =>
      exact .wrote index data conn conn' found written rfl rfl
  | conn index act conn conn' effect found acted =>
      exact .acted index act conn conn' effect found acted rfl rfl
  | work index now w ep _ _ found head present worked =>
      unfold work at worked
      split_ifs at worked with stopped dead
      · cases worked
        exact .still _ rfl rfl
      · cases worked
        exact .still _ rfl rfl
      · have called : before.drainCall (.work index now) =
            some ⟨ep.batchSize, w.workerId, now⟩ := by
          simp [drainCall, workerCall, found, present, head, stopped, dead]
        exact send_reacted called worked
  | heard index activity now w ep _ _ found waiting present worked =>
      unfold hear at worked
      cases activity with
      | false =>
          cases worked
          exact .still _ rfl rfl
      | true =>
          have called : before.drainCall (.heard index true now) =
              some ⟨ep.batchSize, w.workerId, now⟩ := by
            simp [drainCall, workerCall, found, present, waiting]
          exact send_reacted called worked
  | cooled | health | stop => exact .still _ rfl rfl

/-- What an answer does to the pool. -/
theorem take_answer_pool (pool : SessionPool) (ep : EndpointState) (frames : List Frame) (now : ℚ)
    (answer : Answer) :
    (∃ respFrames bodyLength, answer = .frames respFrames bodyLength ∧
      (takeAnswer pool ep frames now answer).pool = dispatchResponseFrames pool now respFrames) ∨
    ((∀ respFrames bodyLength, answer ≠ .frames respFrames bodyLength) ∧
      ((takeAnswer pool ep frames now answer).pool = pool ∨
        (takeAnswer pool ep frames now answer).pool = dropFailed pool frames)) := by
  cases answer with
  | frames respFrames bodyLength => exact .inl ⟨respFrames, bodyLength, rfl, rfl⟩
  | emptyBody => exact .inr ⟨nofun, .inl rfl⟩
  | unreadable error => exact .inr ⟨nofun, .inl rfl⟩
  | failed status =>
      refine .inr ⟨nofun, ?_⟩
      rw [takeAnswer, handleFailure]
      split_ifs
      · exact .inl rfl
      · exact .inr rfl

theorem answered_cases {before after : Client} {index : Nat} {answer : Answer} {sent : Nat}
    {rttMs now : ℚ} (taken : before.answered index answer sent rttMs now = some after) :
    ∃ (w : CarrierWorker) (request : Nat) (frames : List Frame) (ep : EndpointState),
      before.workers[index]? = some w ∧ w.phase = .posting request frames ∧
      after = { before with
        pool := (takeAnswer before.pool (ep.recordPost sent rttMs) frames now answer).pool
        endpoints := before.endpoints.set w.endpoint
          (takeAnswer before.pool (ep.recordPost sent rttMs) frames now answer).ep
        workers := before.workers.set index { w with
          phase := (takeAnswer before.pool (ep.recordPost sent rttMs) frames now
            answer).finish.phase } } := by
  unfold answered at taken
  split at taken
  · next w found =>
      split at taken
      · next request frames ep posting present =>
          cases taken
          exact ⟨w, request, frames, ep, found, posting, rfl⟩
      · cases taken
  · cases taken

end Client

end Astrix
