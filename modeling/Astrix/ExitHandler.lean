import Astrix.BatchEnvelope
import Astrix.SessionPool

/-!
# The tunnel handler of the exit server

`_handle_tunnel_post`, cut at its suspension points. Between two of them the
handler runs alone: decoding and dispatch are one step, and so is each round of
the long poll. A round takes the two readings of `time.time()` it makes; a
round that does not answer leaves the handler asleep with its local variables.
-/

namespace Astrix

open PyRuntime

set_option autoImplicit false

def ActiveDrainWindow : ℚ := 350 / 1000
def LongPollWindow : ℚ := 8
def coalesceWindow : ℚ := 25 / 1000
def coalesceWindowBusy : ℚ := 10 / 1000
def coalesceWindowPoll : ℚ := 100 / 1000
def idleSessionTimeout : ℚ := 600

/-- The literals of the poll loop: frames drained from one session in one round
and seconds between two garbage collections. -/
def pollDrainLimit : Nat := 8
def gcInterval : ℚ := 30

def busyFrame (sid : Bytes) : Frame where
  sessionId := sid
  seq := 0
  flags := FlagRST
  target := []
  payload := asciiBytes "busy"

/-- What the loop over the decoded frames has done so far: the pool, the frames
collected for the response and the objects given to new upstream workers. -/
structure Dispatch where
  pool : SessionPool
  responseFrames : List Frame
  spawned : List Nat

/-- One round of the dispatch loop; `locked` is `_UpstreamSemaphore.locked()`. -/
def dispatchFrame (locked : Bool) (now : ℚ) (state : Dispatch) (f : Frame) : Dispatch :=
  if f.hasFlag FlagSYN then
    let (pool, session) := state.pool.getOrCreate f.sessionId f.flags f.target now
    let pool := pool.setSeq session (f.seq + 1)
    if locked then
      { state with
        pool := pool
        responseFrames := state.responseFrames ++ [busyFrame f.sessionId] }
    else { state with pool := pool, spawned := state.spawned ++ [session] }
  else if f.hasFlag FlagFIN then
    match state.pool.get f.sessionId with
    | some s => { state with pool := state.pool.enqueueRx s f now }
    | none => state
  else if f.hasFlag FlagACK then
    match state.pool.get f.sessionId with
    | some s =>
        { state with pool := state.pool.setSeq s (max (state.pool.objects s).seq (f.seq + 1)) }
    | none => state
  else if f.hasFlag FlagRST then { state with pool := state.pool.remove f.sessionId }
  else if f.flags = 0 then
    match state.pool.get f.sessionId with
    | some s => { state with pool := state.pool.enqueueRx s f now }
    | none => state
  else state

def dispatchFrames (locked : Bool) (now : ℚ) (pool : SessionPool) (frames : List Frame) :
    Dispatch :=
  frames.foldl (dispatchFrame locked now) { pool := pool, responseFrames := [], spawned := [] }

/-- The local variables of a handler in its long poll. -/
structure Poll where
  clientId : Bytes
  responseFrames : List Frame
  waitDeadline : ℚ
  activeStart : ℚ
  lastGc : ℚ
  nowT : ℚ
  deriving DecidableEq

def startPoll (clientId : Bytes) (responseFrames : List Frame) (now : ℚ) : Poll where
  clientId := clientId
  responseFrames := responseFrames
  waitDeadline := now + LongPollWindow
  activeStart := now
  lastGc := now
  nowT := now

structure Scan where
  pool : SessionPool
  responseFrames : List Frame
  needSleep : ℚ

def scanSession (scan : Scan) (s : Nat) : Scan :=
  if (scan.pool.objects s).txQ ≠ [] then
    let (pool, snapshot) :=
      scan.pool.drainTxLimitedTxn (scan.pool.objects s).sessionId pollDrainLimit
    if snapshot.frameCount ≠ 0 then
      { pool := pool
        responseFrames := scan.responseFrames ++ snapshot.frames
        needSleep := coalesceWindowBusy }
    else { scan with pool := pool }
  else scan

def scanSessions (pool : SessionPool) (responseFrames : List Frame) : Scan :=
  pool.snapshotAll.foldl scanSession
    { pool := pool, responseFrames := responseFrames, needSleep := coalesceWindowPoll }

/-- How a round of the long poll ends: with the frames of the response, or
asleep for the given time. -/
inductive PollOutcome where
  | answered (responseFrames : List Frame)
  | asleep (poll : Poll) (sleepFor : ℚ)
  deriving DecidableEq

def chooseSleep (scan : Scan) (poll : Poll) (nowT : ℚ) : ℚ :=
  if scan.needSleep = coalesceWindowBusy then scan.needSleep
  else if nowT - poll.activeStart < ActiveDrainWindow then coalesceWindow
  else coalesceWindowPoll

/-- One round of the `while True` loop up to its sleep. `atCheck` and
`afterScan` are the two clock readings of the round. -/
def pollRound (pool : SessionPool) (poll : Poll) (atCheck afterScan : ℚ) :
    SessionPool × PollOutcome :=
  let remaining := poll.waitDeadline - atCheck
  if remaining ≤ 0 then (pool, .answered poll.responseFrames)
  else
    let scan := scanSessions pool poll.responseFrames
    if scan.responseFrames ≠ [] then (scan.pool, .answered scan.responseFrames)
    else (scan.pool, .asleep { poll with nowT := afterScan }
      (min (chooseSleep scan poll afterScan) remaining))

/-- The end of a round, after its sleep. -/
def collectGarbage (pool : SessionPool) (poll : Poll) : SessionPool × Poll :=
  if poll.nowT - poll.lastGc ≥ gcInterval then
    ((pool.cleanupExpired idleSessionTimeout poll.nowT).1, { poll with lastGc := poll.nowT })
  else (pool, poll)

/-- From waking up to the next suspension. -/
def resumePoll (pool : SessionPool) (poll : Poll) (atCheck afterScan : ℚ) :
    SessionPool × PollOutcome :=
  let (pool, poll) := collectGarbage pool poll
  pollRound pool poll atCheck afterScan

/-- `_buf_pool` of `frame.py` and the globals of `crypto.py` are shared by all
requests. -/
structure CodecGlobals where
  adaptive : Adaptive
  bufPool : List Bytes

/-- The unsealed body built when `encode_batch` raises. -/
def fallbackFrames (bufPool : List Bytes) :
    Bytes → List Frame → Except PyError (Bytes × List Bytes)
  | raw, [] => .ok (raw, bufPool)
  | raw, f :: rest => do
      let (fdata, bufPool) ← marshal bufPool f
      raiseIf (fdata.length ≥ 256 ^ 4) .overflowError
      fallbackFrames bufPool (raw ++ bigEndian 4 fdata.length ++ fdata) rest

def fallbackBody (bufPool : List Bytes) (clientId : Bytes) (responseFrames : List Frame) :
    Except PyError (Bytes × List Bytes) := do
  let raw := List.replicate (ClientIDLen + 2) 0
  let raw := assignSlice raw 0 ClientIDLen clientId
  raiseIf (responseFrames.length ≥ 256 ^ 2) .overflowError
  let raw := assignSlice raw ClientIDLen (ClientIDLen + 2) (bigEndian 2 responseFrames.length)
  fallbackFrames bufPool raw responseFrames

/-- The end of the handler. An error here leaves the handler uncaught. -/
def responseBody (prims : Primitives) (nonce : NonceCall) (globals : CodecGlobals)
    (clientId : Bytes) (responseFrames : List Frame) :
    Except PyError (Bytes × CodecGlobals) :=
  if responseFrames ≠ [] then
    match serverEncodeBatch prims nonce globals.adaptive clientId responseFrames with
    | .ok (body, adaptive) => .ok (body, { globals with adaptive := adaptive })
    | .error _ => do
        let (raw, bufPool) ← fallbackBody globals.bufPool clientId responseFrames
        return (raw, { globals with bufPool := bufPool })
  else .ok (clientId ++ bigEndian 2 0, globals)

structure HttpResponse where
  status : Nat
  body : Bytes
  deriving DecidableEq, Repr

def badRequest : HttpResponse := { status := 400, body := asciiBytes "bad request" }

/-- What aiohttp sends for a handler that raised. -/
def internalServerError : HttpResponse :=
  { status := 500, body := asciiBytes "500 Internal Server Error\n\nServer got itself in trouble" }

def respond (prims : Primitives) (nonce : NonceCall) (globals : CodecGlobals) (clientId : Bytes)
    (responseFrames : List Frame) : HttpResponse :=
  match responseBody prims nonce globals clientId responseFrames with
  | .ok (body, _) => { status := 200, body := body }
  | .error _ => internalServerError

end Astrix
