import Astrix.ClientRuns
import Astrix.OneWorker
import Astrix.QueueSteps

/-!
# The high-water mark of transmit buffers

`enqueue_tx` tells its caller whether the queue is still under
`TxBufHighWater`. `_tx_drain_loop` and `read_upstream` drop the answer and go on,
so nothing but the drains bounds a queue. The runs below keep, for every
session, whether the answer was no and no drain has brought the queue under the
mark since; and beside it, without a look at `tx_bytes`, what the producers have
put and how much of that the drains have taken.
-/

namespace Astrix

open PyRuntime SessionPool

set_option autoImplicit false

/-- A data frame, or any other frame that adds to `tx_bytes`. -/
def Frame.carriesData (f : Frame) : Bool := f.flags = 0 ∨ f.payload ≠ []

/-- `stopped` are the sessions whose producers were told to stop; `overrun` says
that one of them enqueued all the same. -/
structure Meter where
  stopped : Nat → Bool
  overrun : Bool

def Meter.start : Meter := ⟨fun _ => false, false⟩

def Meter.record (meter : Meter) (after : SessionPool) (put : Option (Nat × Frame)) : Meter where
  stopped r := (meter.stopped r || put.any fun entry => entry.1 = r) &&
    TxBufHighWater ≤ (after.objects r).txBytes
  overrun := meter.overrun || put.any fun entry => entry.2.carriesData && meter.stopped entry.1

/-- `enqueue_tx` answers no exactly when it leaves the queue at the mark. -/
theorem enqueue_tx_answer (s : Session) (frame : Frame) (now : ℚ) :
    (s.enqueueTx frame now).2 = false ↔ TxBufHighWater ≤ (s.enqueueTx frame now).1.txBytes := by
  rw [Session.enqueueTx, decide_eq_false_iff_not, Nat.not_lt]

/-- Below the mark, or above it by less than one queued frame. -/
def BelowMark (s : Session) : Prop :=
  s.txBytes < TxBufHighWater ∨ ∃ f ∈ s.txQ, s.txBytes < TxBufHighWater + f.payload.length

/-- What carries data is enqueued only while the session is under the mark. -/
def PutsBelowMark (pool : SessionPool) (put : Option (Nat × Frame)) : Prop :=
  ∀ entry ∈ put, entry.2.carriesData = true → (pool.objects entry.1).txBytes < TxBufHighWater

instance (pool : SessionPool) (put : Option (Nat × Frame)) : Decidable (PutsBelowMark pool put) :=
  inferInstanceAs (Decidable (∀ entry ∈ put, entry.2.carriesData = true →
    (pool.objects entry.1).txBytes < TxBufHighWater))

/-- `produced` are the payload sizes of the frames put on a session, in their
order, and `taken` counts those that drains have taken for good. -/
structure Ledger where
  produced : Nat → List Nat
  taken : Nat → Nat

namespace Ledger

def start : Ledger := ⟨fun _ => [], fun _ => 0⟩

def record (ledger : Ledger) (before after : SessionPool) (put : Option (Nat × Frame)) :
    Ledger where
  produced r := ledger.produced r ++ (valuesAt r put.toList).map fun f => f.payload.length
  taken r := ledger.taken r + ((before.objects r).txQ.length +
    (valuesAt r put.toList).length - (after.objects r).txQ.length)

/-- The bytes read or written for a session since the oldest frame that no drain
has taken. -/
def ahead (ledger : Ledger) (r : Nat) : Nat := ((ledger.produced r).drop (ledger.taken r)).sum

/-- A producer that brings data is ahead of the drains of its session by less than the mark. -/
def KeepsPace (ledger : Ledger) (put : Option (Nat × Frame)) : Prop :=
  ∀ entry ∈ put, entry.2.carriesData = true → ledger.ahead entry.1 < TxBufHighWater

instance (ledger : Ledger) (put : Option (Nat × Frame)) : Decidable (ledger.KeepsPace put) :=
  inferInstanceAs (Decidable (∀ entry ∈ put, entry.2.carriesData = true →
    ledger.ahead entry.1 < TxBufHighWater))

/-- What the drains have not taken of what was produced is what is queued. -/
structure Matches (ledger : Ledger) (pool : SessionPool) : Prop where
  bound : ∀ r, ledger.taken r ≤ (ledger.produced r).length
  queued : ∀ r, (ledger.produced r).drop (ledger.taken r) =
    (pool.objects r).txQ.map fun f => f.payload.length

end Ledger

/-- The meter shows which sessions are at the mark. -/
structure Metered (pool : SessionPool) (meter : Meter) : Prop where
  counted : Counted pool
  stopped : ∀ r, meter.stopped r = true ↔ TxBufHighWater ≤ (pool.objects r).txBytes

section Step

variable {before after : SessionPool} {put : Option (Nat × Frame)} {meter : Meter}

theorem payload_le_total {f : Frame} {frames : List Frame} (member : f ∈ frames) :
    f.payload.length ≤ totalPayload frames := by
  obtain ⟨early, late, rfl⟩ := List.append_of_mem member
  have total : totalPayload (f :: late) = f.payload.length + totalPayload late := rfl
  rw [total_payload_append, total]
  omega

theorem total_payload_drop (frames : List Frame) (n : Nat) :
    totalPayload (frames.drop n) ≤ totalPayload frames := by
  have split := total_payload_append (frames.take n) (frames.drop n)
  rw [List.take_append_drop] at split
  omega

theorem values_at_put (put : Option (Nat × Frame)) (r : Nat) :
    valuesAt r put.toList = [] ∧ (put.any fun entry => entry.1 = r) = false ∨
      ∃ f, put = some (r, f) ∧ valuesAt r put.toList = [f] := by
  cases put with
  | none => exact .inl ⟨rfl, rfl⟩
  | some entry =>
      obtain ⟨ref, f⟩ := entry
      by_cases here : ref = r
      · subst here
        exact .inr ⟨f, rfl, by simp [valuesAt]⟩
      · exact .inl ⟨by simp [valuesAt, here], by simp [here]⟩

/-- What a step leaves of the bytes of a queue. -/
theorem step_bytes (counted : Counted before) (step : QueueStep before after put) (r : Nat) :
    ∃ n, (after.objects r).txQ = (before.objects r).txQ.drop n ++ valuesAt r put.toList ∧
      (after.objects r).txBytes =
        totalPayload ((before.objects r).txQ.drop n) + totalPayload (valuesAt r put.toList) := by
  obtain ⟨n, queue⟩ := step.queues r
  refine ⟨n, queue, ?_⟩
  rw [step.counted counted r, queue, total_payload_append]

/-- One step: the drains take from the front, and the producer adds at the end. -/
theorem Ledger.Matches.step {ledger : Ledger} (ledgered : ledger.Matches before)
    (step : QueueStep before after put) : (ledger.record before after put).Matches after := by
  have each : ∀ r, (ledger.record before after put).taken r ≤
      ((ledger.record before after put).produced r).length ∧
      ((ledger.record before after put).produced r).drop
          ((ledger.record before after put).taken r) =
        (after.objects r).txQ.map fun f => f.payload.length := by
    intro r
    obtain ⟨n, queue⟩ := step.queues r
    have bound := ledgered.bound r
    have queued := ledgered.queued r
    have sizes := congrArg List.length queued
    rw [List.length_drop, List.length_map] at sizes
    -- a drain cannot take more than is there
    have took : (ledger.record before after put).taken r =
        ledger.taken r + min n (before.objects r).txQ.length := by
      simp only [Ledger.record, queue, List.length_append, List.length_drop]
      omega
    have made : (ledger.record before after put).produced r = ledger.produced r ++
        (valuesAt r put.toList).map fun f => f.payload.length := rfl
    rw [took, made, queue, List.map_append, List.map_drop, ← queued]
    constructor
    · rw [List.length_append]
      omega
    · rw [List.drop_append_of_le_length (by omega), List.drop_drop]
      congr 1
      rcases Nat.le_total n (before.objects r).txQ.length with within | beyond
      · rw [Nat.min_eq_left within]
      · rw [Nat.min_eq_right beyond, List.drop_eq_nil_of_le (by omega),
          List.drop_eq_nil_of_le (by omega)]
  exact ⟨fun r => (each r).1, fun r => (each r).2⟩

/-- The producers are ahead of the drains by what is queued. -/
theorem ahead_eq {ledger : Ledger} (ledgered : ledger.Matches before) (counted : Counted before)
    (r : Nat) : ledger.ahead r = (before.objects r).txBytes := by
  rw [Ledger.ahead, ledgered.queued r, counted r]
  rfl

theorem keeps_pace_iff {ledger : Ledger} (ledgered : ledger.Matches before)
    (counted : Counted before) : ledger.KeepsPace put ↔ PutsBelowMark before put := by
  simp only [Ledger.KeepsPace, PutsBelowMark, ahead_eq ledgered counted]

theorem metered_step (metered : Metered before meter) (step : QueueStep before after put) :
    Metered after (meter.record after put) := by
  refine ⟨step.counted metered.counted, fun r => ?_⟩
  rw [Meter.record, Bool.and_eq_true, decide_eq_true_eq, and_iff_right_iff_imp]
  intro marked
  rw [Bool.or_eq_true, metered.stopped r]
  rcases values_at_put put r with ⟨none, _⟩ | ⟨f, rfl, _⟩
  · obtain ⟨n, _, bytes⟩ := step_bytes metered.counted step r
    have fewer := total_payload_drop (before.objects r).txQ n
    have nothing : totalPayload (valuesAt r put.toList) = 0 := by
      rw [none]
      rfl
    rw [← metered.counted r] at fewer
    exact .inl (by omega)
  · exact .inr (by simp)

/-- An overrun is recorded exactly when data is enqueued at the mark. -/
theorem overrun_iff (metered : Metered before meter) (clear : meter.overrun = false) :
    (meter.record after put).overrun = false ↔ PutsBelowMark before put := by
  rw [Meter.record, clear, Bool.false_or, PutsBelowMark]
  cases put with
  | none => simp
  | some entry =>
      have mark := metered.stopped entry.1
      rw [← not_iff_not, Nat.not_le, Bool.not_eq_true] at mark
      simp only [Option.any_some, Bool.and_eq_false_iff, mark, Option.mem_def, Option.some.injEq,
        forall_eq']
      rw [← Bool.not_eq_true, ← imp_iff_not_or]

/-- A queue that only loses frames from the front stays below the mark. -/
theorem drop_below_mark {frames : List Frame} (n : Nat)
    (below : totalPayload frames < TxBufHighWater ∨
      ∃ f ∈ frames, totalPayload frames < TxBufHighWater + f.payload.length) :
    totalPayload (frames.drop n) < TxBufHighWater ∨ ∃ f ∈ frames.drop n,
      totalPayload (frames.drop n) < TxBufHighWater + f.payload.length := by
  have split := total_payload_append (frames.take n) (frames.drop n)
  rw [List.take_append_drop] at split
  rcases below with under | ⟨f, member, under⟩
  · exact .inl (by omega)
  · rw [← List.take_append_drop n frames] at member
    rcases List.mem_append.mp member with gone | kept
    · have part := payload_le_total gone
      exact .inl (by omega)
    · exact .inr ⟨f, kept, by omega⟩

theorem below_mark_step (counted : Counted before) (below : ∀ r, BelowMark (before.objects r))
    (step : QueueStep before after put) (allowed : PutsBelowMark before put) (r : Nat) :
    BelowMark (after.objects r) := by
  obtain ⟨n, queue, bytes⟩ := step_bytes counted step r
  have under := below r
  rw [BelowMark, counted r] at under
  have left := drop_below_mark n under
  rw [BelowMark, queue, bytes]
  rcases values_at_put put r with ⟨none, _⟩ | ⟨f, rfl, one⟩
  · rw [none, List.append_nil]
    exact left
  · have size : totalPayload [f] = f.payload.length := by simp [totalPayload]
    rw [one, size]
    by_cases data : f.carriesData = true
    · have room := allowed (r, f) rfl data
      have fewer := total_payload_drop (before.objects r).txQ n
      rw [counted r] at room
      exact .inr ⟨f, List.mem_append_right _ (List.mem_singleton_self f), by omega⟩
    · have empty : f.payload = [] := by
        simp only [Frame.carriesData, decide_eq_true_eq, not_or, not_not] at data
        exact data.2
      rw [empty, List.length_nil, Nat.add_zero]
      rcases left with less | ⟨g, member, less⟩
      · exact .inl less
      · exact .inr ⟨g, List.mem_append_left _ member, less⟩

end Step

/-- No producer went on after it was told to stop, and every queue is below the
mark but for one frame. -/
structure Bounded (pool : SessionPool) (meter : Meter) : Prop where
  clear : meter.overrun = false
  below : ∀ r, BelowMark (pool.objects r)

section Machines

structure MeteredClient where
  state : RunningClient
  meter : Meter
  ledger : Ledger

structure MeteredServer where
  server : ExitServer
  meter : Meter
  ledger : Ledger

/-- The frame that a step of the client enqueues. -/
def ClientEvent.put (client : Client) : ClientEvent → Option (Nat × Frame)
  | .act action => client.put action
  | .answered _ _ _ _ _ => none

def MeteredClient.start (clientId : Bytes) (endpoints : Nat) : MeteredClient where
  state := RunningClient.start clientId endpoints
  meter := Meter.start
  ledger := Ledger.start

def MeteredClient.step (log : MeteredClient) (event : ClientEvent) : Option MeteredClient :=
  (log.state.step event).map fun later =>
    { state := later
      meter := log.meter.record later.client.pool (event.put log.state.client)
      ledger := log.ledger.record log.state.client.pool later.client.pool
        (event.put log.state.client) }

def MeteredServer.start : MeteredServer where
  server := ExitServer.new
  meter := Meter.start
  ledger := Ledger.start

def MeteredServer.step (log : MeteredServer) (action : ServerAction) : Option MeteredServer :=
  (log.server.react action).map fun (later, _) =>
    { server := later
      meter := log.meter.record later.pool (log.server.put action)
      ledger := log.ledger.record log.server.pool later.pool (log.server.put action) }

def MeteredClient.KeepsPace (log : MeteredClient) (event : ClientEvent) : Prop :=
  log.ledger.KeepsPace (event.put log.state.client)

def MeteredServer.KeepsPace (log : MeteredServer) (action : ServerAction) : Prop :=
  log.ledger.KeepsPace (log.server.put action)

instance (log : MeteredServer) (action : ServerAction) : Decidable (log.KeepsPace action) :=
  inferInstanceAs (Decidable (log.ledger.KeepsPace _))

/-- The invariant of the runs below. -/
structure MeterSound (pool : SessionPool) (meter : Meter) (ledger : Ledger) : Prop where
  metered : Metered pool meter
  ledgered : ledger.Matches pool
  bounded : Bounded pool meter

section Sound

variable {before after : SessionPool} {put : Option (Nat × Frame)} {meter : Meter}
  {ledger : Ledger}

theorem MeterSound.step (sound : MeterSound before meter ledger)
    (step : QueueStep before after put) (pace : ledger.KeepsPace put) :
    MeterSound after (meter.record after put) (ledger.record before after put) := by
  have allowed := (keeps_pace_iff sound.ledgered sound.metered.counted).mp pace
  exact ⟨metered_step sound.metered step, sound.ledgered.step step,
    (overrun_iff sound.metered sound.bounded.clear).mpr allowed,
    below_mark_step sound.metered.counted sound.bounded.below step allowed⟩

/-- From a sound state a step is an overrun exactly when its producer is too far
ahead. -/
theorem MeterSound.overrun_iff (sound : MeterSound before meter ledger) :
    (meter.record after put).overrun = false ↔ ledger.KeepsPace put :=
  (Astrix.overrun_iff sound.metered sound.bounded.clear).trans
    (keeps_pace_iff sound.ledgered sound.metered.counted).symm

end Sound

/-- The invariant of the runs of a client. -/
def MeteredClient.Sound (log : MeteredClient) : Prop :=
  MeterSound log.state.client.pool log.meter log.ledger

/-- The invariant of the runs of a server. -/
def MeteredServer.Sound (log : MeteredServer) : Prop :=
  MeterSound log.server.pool log.meter log.ledger

end Machines

section Overrun

variable {chunk : Bytes}

end Overrun

end Astrix
