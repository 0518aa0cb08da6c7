import Astrix.BatchEnvelope
import Astrix.SessionPool

/-!
# The client's carrier

`_drain_all`, the handling of a response and the state of a worker between the
suspension points of `_worker_loop`. A drain does not suspend, so it is one
step. When `encoded_len` raises, the drain stops where it is. The carrier holds
the connection callback it was given and never calls it: nothing here touches a
virtual connection.
-/

namespace Astrix

open PyRuntime

set_option autoImplicit false

def MaxFramePayload : Nat := 262144
def workersPerEndpoint : Nat := 3
def _BackoffBase : ℚ := 3
def _QualityMinSamples : Nat := 3
def _BatchSizeMin : Nat := 1
def _BatchSizeMax : Nat := 64
def _BatchSizeDefault : Nat := 8

structure EndpointState where
  consecutiveFailures : Nat
  isDead : Bool
  lastError : String
  totalPolls : Nat
  totalBytesSent : Nat
  totalBytesRecv : Nat
  avgRttMs : ℚ
  backoff : ℚ
  rttSamples : List ℚ
  qualityScore : ℚ
  batchSize : Nat
  deriving DecidableEq

namespace EndpointState

def new : EndpointState where
  consecutiveFailures := 0
  isDead := false
  lastError := ""
  totalPolls := 0
  totalBytesSent := 0
  totalBytesRecv := 0
  avgRttMs := 0
  backoff := _BackoffBase
  rttSamples := []
  qualityScore := 100
  batchSize := _BatchSizeDefault

/-- `statistics.median` of a non-empty list. -/
def median (samples : List ℚ) : ℚ :=
  let data := samples.mergeSort
  let n := data.length
  if n % 2 = 1 then data.getD (n / 2) 0
  else (data.getD (n / 2 - 1) 0 + data.getD (n / 2) 0) / 2

def recordRtt (ep : EndpointState) (rttMs : ℚ) : EndpointState :=
  let samples := ep.rttSamples ++ [rttMs]
  let samples := if samples.length > 20 then samples.tail else samples
  { ep with
    rttSamples := samples
    qualityScore := if samples.length ≥ _QualityMinSamples then max 10 (100 - median samples / 10)
      else ep.qualityScore
    avgRttMs := 9 / 10 * ep.avgRttMs + 1 / 10 * rttMs }

/-- The statistics of one post. -/
def recordPost (ep : EndpointState) (sent : Nat) (rttMs : ℚ) : EndpointState :=
  { ep with
    totalPolls := ep.totalPolls + 1
    totalBytesSent := ep.totalBytesSent + sent }.recordRtt rttMs

/-- `count >= batch_size * 0.8` grows the batch, an empty response shrinks it. -/
def adaptBatchSize (ep : EndpointState) (count : Nat) : EndpointState :=
  if count ≠ 0 ∧ 10 * count ≥ 8 * ep.batchSize then
    { ep with batchSize := min _BatchSizeMax (ep.batchSize + 2) }
  else if count = 0 ∧ ep.batchSize > _BatchSizeMin then
    { ep with batchSize := max _BatchSizeMin (ep.batchSize - 1) }
  else ep

def countFailure (ep : EndpointState) (status : Nat) : EndpointState :=
  { ep with
    consecutiveFailures := ep.consecutiveFailures + 1
    lastError := s!"HTTP {status}" }

end EndpointState

/-- The elements at `skip`, `skip + step`, … of a list. -/
def strided {α : Type} (step : Nat) : Nat → List α → List α
  | _, [] => []
  | 0, x :: rest => x :: strided step (step - 1) rest
  | skip + 1, _ :: rest => strided step skip rest

/-- The state of `_drain_all`; `failed` holds the exception that ended it. -/
structure Drain where
  pool : SessionPool
  frames : List Frame
  totalSize : Nat
  failed : Option PyError

/-- The loop over the frames of one snapshot. When a frame does not fit, the
whole snapshot goes back; frames of it that were taken before stay taken. -/
def takeFrames (snapshot : DrainSnapshot) (now : ℚ) (drain : Drain) : List Frame → Drain
  | [] => drain
  | f :: rest =>
      match f.encodedLen with
      | .error error => { drain with failed := some error }
      | .ok elen =>
          if drain.totalSize + elen > MaxFramePayload then
            { drain with pool := drain.pool.rollbackDrain snapshot now }
          else
            takeFrames snapshot now
              { drain with
                frames := drain.frames ++ [f]
                totalSize := drain.totalSize + elen } rest

def drainSession (batchSize : Nat) (now : ℚ) (drain : Drain) (sid : Bytes) : Drain :=
  if drain.failed ≠ none then drain
  else
    let (pool, snapshot) := drain.pool.drainTxLimitedTxn sid batchSize
    if snapshot.frameCount = 0 then { drain with pool := pool }
    else takeFrames snapshot now { drain with pool := pool } snapshot.frames

/-- The session ids that a worker visits. -/
def workerSids (pool : SessionPool) (workerId : Nat) : List Bytes :=
  strided workersPerEndpoint workerId pool.sessions.keys

def startDrain (pool : SessionPool) : Drain where
  pool := pool
  frames := []
  totalSize := 0
  failed := none

/-- `_drain_all`; `now` stands for the clock readings of its rollbacks. -/
def drainAll (pool : SessionPool) (batchSize workerId : Nat) (now : ℚ) : Drain :=
  (workerSids pool workerId).foldl (drainSession batchSize now) (startDrain pool)

def dispatchResponseFrame (now : ℚ) (pool : SessionPool) (f : Frame) : SessionPool :=
  match pool.get f.sessionId with
  | some s => pool.enqueueRx s f now
  | none => pool

theorem dispatch_response_dict (now : ℚ) (pool : SessionPool) (f : Frame) :
    (dispatchResponseFrame now pool f).sessions = pool.sessions := by
  unfold dispatchResponseFrame
  cases pool.get f.sessionId <;> rfl

/-- `_dispatch_response_frames`. -/
def dispatchResponseFrames (pool : SessionPool) (now : ℚ) (frames : List Frame) : SessionPool :=
  frames.foldl (dispatchResponseFrame now) pool

/-- The sessions whose SYN was in a failed batch. -/
def failedSids (frames : List Frame) : List Bytes :=
  (frames.filter fun f => f.hasFlag FlagSYN).map Frame.sessionId

def dropFailed (pool : SessionPool) (frames : List Frame) : SessionPool :=
  (failedSids frames).foldl SessionPool.remove pool

/-- How an iteration of `_worker_loop` ends once its post is answered. -/
inductive IterationEnd where
  | loopHead
  | sleepThenLoopHead (seconds : ℚ)
  | raised (error : PyError)
  deriving DecidableEq, Repr

structure Answered where
  pool : SessionPool
  ep : EndpointState
  finish : IterationEnd

/-- `status == 200`, after the body was decoded. -/
def receiveFrames (pool : SessionPool) (ep : EndpointState) (bodyLength : Nat) (now : ℚ)
    (frames : List Frame) : Answered where
  pool := dispatchResponseFrames pool now frames
  ep := { ep with totalBytesRecv := ep.totalBytesRecv + bodyLength }.adaptBatchSize frames.length
  finish := .loopHead

/-- The branches for a status other than 200 of a post that carried `frames`. -/
def handleFailure (pool : SessionPool) (ep : EndpointState) (frames : List Frame)
    (status : Nat) : Answered :=
  if status = 302 ∨ status = 429 then
    { pool := pool, ep := ep.countFailure status, finish := .sleepThenLoopHead 1 }
  else
    { pool := dropFailed pool frames, ep := ep.countFailure status, finish := .loopHead }

def handleAnswer (prims : Primitives) (pool : SessionPool) (ep : EndpointState)
    (frames : List Frame) (status : Nat) (respBody : Bytes) (now : ℚ) : Answered :=
  if status = 200 then
    let ep := { ep with consecutiveFailures := 0 }
    if respBody ≠ [] then
      match decodeBatch prims respBody with
      | .ok (_, respFrames) => receiveFrames pool ep respBody.length now respFrames
      | .error error => { pool := pool, ep := ep, finish := .raised error }
    else { pool := pool, ep := ep, finish := .loopHead }
  else handleFailure pool ep frames status

end Astrix
