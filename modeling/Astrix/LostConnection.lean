import Astrix.BatchDispatch
import Astrix.FailedPost
import Astrix.UploadClient
import Astrix.Library.StepMachine

/-!
# When a SOCKS connection is lost

`connection_lost` calls `VirtualConn.close`, a coroutine function, and drops the
result, so nothing of `close` runs. What closes a `VirtualConn` is a FIN or RST
that its read loop takes, and what takes its session out of the pool is a failed
post of its SYN. The runs below record both, with every FIN that is queued and
every FIN whose post was answered with status 200.
-/

namespace Astrix

open PyRuntime SessionPool

set_option autoImplicit false

/-- The frame on which `_read_loop` closes the connection. -/
def Frame.ends (f : Frame) : Bool := f.hasFlag (FlagFIN ||| FlagRST)

/-- The client with session ids: of the FINs that connections queued, of the FIN
and RST frames that responses queued on a session, of the FINs whose post was
answered with status 200, and of the sessions that a failed post took out. -/
structure TeardownLog where
  client : Client
  requests : Nat
  finsPut : List Bytes
  ended : List Bytes
  confirmed : List Bytes
  dropped : List Bytes

namespace TeardownLog

def start (clientId : Bytes) (endpoints : Nat) : TeardownLog where
  client := Client.start clientId endpoints
  requests := 0
  finsPut := []
  ended := []
  confirmed := []
  dropped := []

end TeardownLog

namespace Client

def finsOf (client : Client) : ClientAction → List Bytes
  | .conn index (.finishClose _) =>
      client.conns[index]?.toList.map fun conn => (client.pool.objects conn.session).sessionId
  | _ => []

/-- The frames of the post that a worker waits for. -/
def postedFrames (client : Client) (index : Nat) : List Frame :=
  match client.workers[index]? with
  | some w =>
      match w.phase with
      | .posting _ frames => frames
      | _ => []
  | none => []

def endsHeard (client : Client) (answer : Answer) : List Bytes :=
  (answer.brought.filter fun f => f.ends && (client.pool.get f.sessionId).isSome).map
    Frame.sessionId

def finsConfirmed (client : Client) (index : Nat) (answer : Answer) : List Bytes :=
  if answer.isFailure then []
  else ((client.postedFrames index).filter fun f => f.hasFlag FlagFIN).map Frame.sessionId

def sessionsDropped (client : Client) (index : Nat) : Answer → List Bytes
  | .failed status =>
      if status = 302 ∨ status = 429 then []
      else (failedSids (client.postedFrames index)).filter fun sid => (client.pool.get sid).isSome
  | _ => []

end Client

inductive TeardownAction where
  | client (action : ClientAction)
  | answered (index : Nat) (answer : Answer) (sent : Nat) (rttMs now : ℚ)
  deriving DecidableEq

/-- A failure has a status other than 200. -/
def TeardownLog.step (log : TeardownLog) : TeardownAction → Option TeardownLog
  | .client action => (log.client.react log.requests action).map fun (client, _) =>
      { log with
        client := client
        requests := log.requests + 1
        finsPut := log.finsPut ++ log.client.finsOf action }
  | .answered index answer sent rttMs now =>
      if answer = .failed 200 then none
      else (log.client.answered index answer sent rttMs now).map fun client =>
        { log with
          client := client
          ended := log.ended ++ log.client.endsHeard answer
          confirmed := log.confirmed ++ log.client.finsConfirmed index answer
          dropped := log.dropped ++ log.client.sessionsDropped index answer }

def teardownMachine : StepMachine TeardownLog TeardownAction := ⟨TeardownLog.step⟩

/-- Every connection opens a session of its own. -/
def OpensFresh (log : TeardownLog) : TeardownAction → Prop
  | .client (.openConn sid _ _) => Unseen sid log.client.pool
  | _ => True

instance (log : TeardownLog) (action : TeardownAction) : Decidable (OpensFresh log action) :=
  match action with
  | .client (.openConn sid _ _) => inferInstanceAs (Decidable (Unseen sid log.client.pool))
  | .client (.write _ _) | .client (.conn _ _) | .client (.work _ _) | .client (.heard _ _ _)
  | .client (.cooled _) | .client (.health _ _) | .client .stop
  | .answered _ _ _ _ _ => isTrue trivial

/-- The tasks of the connection have run: its read loop waits for an event or has
ended, its drain loop has nothing to take, and no `close` is suspended. -/
def VirtualConn.Quiet (s : Session) (conn : VirtualConn) : Prop :=
  conn.finishing = false ∧ conn.reader ≠ .draining ∧
    (conn.reader = .waiting → s.rxEvent = false) ∧ (conn.txRunning = true → conn.txQueue = [])

instance (s : Session) (conn : VirtualConn) : Decidable (conn.Quiet s) :=
  inferInstanceAs (Decidable (_ ∧ _ ∧ _ ∧ _))

theorem quiet_iff (s : Session) (conn : VirtualConn) :
    conn.Quiet s ↔ ∀ act, act ≠ .transportLost → conn.act s act = none := by
  constructor
  · rintro ⟨finished, idle, waits, drained⟩ act notLost
    apply Option.eq_none_iff_forall_ne_some.mpr
    rintro ⟨conn', effect⟩ acted
    cases VirtualConn.act_cases acted with
    | drainChunk now data rest running head =>
        rw [drained running] at head
        cases head
    | wakeClosed waiting event | wake waiting event =>
        rw [waits waiting] at event
        cases event
    | pop _ _ draining => exact idle draining
    | finishClose now pending =>
        rw [finished] at pending
        cases pending
    | transportLost => exact notLost rfl
  · intro still
    refine ⟨?_, ?_, ?_, ?_⟩
    · have none := still (.finishClose 0) (by simp)
      simp only [VirtualConn.act] at none
      split_ifs at none with pending
      exact Bool.eq_false_iff.mpr pending
    · intro draining
      have none := still .pop (by simp)
      simp only [VirtualConn.act, if_pos draining] at none
      cases none
    · intro waiting
      have none := still .wake (by simp)
      simp only [VirtualConn.act] at none
      split_ifs at none with ready
      exact Bool.eq_false_iff.mpr fun event => ready ⟨waiting, event⟩
    · intro running
      have none := still (.drainChunk 0) (by simp)
      cases queue : conn.txQueue with
      | nil => rfl
      | cons data rest =>
          simp only [VirtualConn.act, running, queue] at none
          cases none

namespace TeardownLog

/-- The id of a connection's session. -/
def sid (log : TeardownLog) (conn : VirtualConn) : Bytes :=
  (log.client.pool.objects conn.session).sessionId

/-- The connection is closed, one FIN was queued for its session, and once a FIN
of it was posted with status 200, the session is not in the pool. -/
structure TornDown (log : TeardownLog) (conn : VirtualConn) : Prop where
  closed : conn.closed = true
  oneFin : log.finsPut.count (log.sid conn) = 1
  removed : log.sid conn ∈ log.confirmed → log.client.pool.get (log.sid conn) = none

/-- A FIN or RST of the far side came for the session while it was in the pool;
and no FIN of it was posted with status 200 unless the session was dropped. -/
def EndedByFarSide (log : TeardownLog) (conn : VirtualConn) : Prop :=
  log.sid conn ∈ log.ended ∧ (log.sid conn ∈ log.confirmed → log.sid conn ∈ log.dropped)

instance (log : TeardownLog) (conn : VirtualConn) : Decidable (log.EndedByFarSide conn) :=
  inferInstanceAs (Decidable (_ ∧ _))

end TeardownLog

/-- What holds of a connection: a FIN or RST that came is in the receive queue
until the read loop takes it, closes and queues one FIN; a queue that is not
empty has woken the loop. -/
structure ConnSound (log : TeardownLog) (conn : VirtualConn) : Prop where
  bound : conn.session < log.client.pool.fresh
  reader : conn.closed = true ↔ conn.reader = .ended
  finishing : conn.finishing = true → conn.closed = true
  fins : log.finsPut.count (log.sid conn) =
    if conn.closed = true ∧ conn.finishing = false then 1 else 0
  ended : log.sid conn ∈ log.ended ↔ conn.closed = true ∨
    (log.client.pool.objects conn.session).rxQ.any Frame.ends = true
  woken : conn.reader = .waiting → (log.client.pool.objects conn.session).rxQ ≠ [] →
    (log.client.pool.objects conn.session).rxEvent = true
  mapped : log.client.pool.get (log.sid conn) =
    if log.sid conn ∈ log.dropped then none else some conn.session

/-- With the rest of the invariant: sessions and connections are paired, and what
is recorded is recorded of sessions that were opened. -/
structure TeardownSound (log : TeardownLog) : Prop where
  conns : ∀ conn ∈ log.client.conns, ConnSound log conn
  apart : (log.client.conns.map VirtualConn.session).Nodup
  ids : ∀ a < log.client.pool.fresh, ∀ b < log.client.pool.fresh,
    (log.client.pool.objects a).sessionId = (log.client.pool.objects b).sessionId → a = b
  known : ∀ sid ∈ log.finsPut ++ log.ended ++ log.dropped, ¬ Unseen sid log.client.pool

/-- Where no session object is new and each keeps its id, no two share one. -/
theorem TeardownSound.ids_kept {log : TeardownLog} {pool : SessionPool}
    (sound : TeardownSound log) (fresh : pool.fresh = log.client.pool.fresh)
    (ids : ∀ r < log.client.pool.fresh,
      (pool.objects r).sessionId = (log.client.pool.objects r).sessionId) :
    ∀ a < pool.fresh, ∀ b < pool.fresh,
      (pool.objects a).sessionId = (pool.objects b).sessionId → a = b := by
  rw [fresh]
  intro a boundA b boundB same
  rw [ids a boundA, ids b boundB] at same
  exact sound.ids a boundA b boundB same

/-- What the read loop sees of an object. -/
structure SameInbox (r : Nat) (before after : SessionPool) : Prop where
  id : (after.objects r).sessionId = (before.objects r).sessionId
  rx : (after.objects r).rxQ = (before.objects r).rxQ
  event : (after.objects r).rxEvent = (before.objects r).rxEvent

theorem SameInbox.of_object {r : Nat} {before after : SessionPool}
    (same : after.objects r = before.objects r) : SameInbox r before after :=
  ⟨congrArg _ same, congrArg _ same, congrArg _ same⟩

section Transfer

variable {log later : TeardownLog} {conn conn' : VirtualConn}

/-- A step that does not touch the connection's inbox nor its records. -/
theorem ConnSound.transfer (sound : ConnSound log conn) (session : conn'.session = conn.session)
    (state : conn'.closed = conn.closed ∧ conn'.finishing = conn.finishing ∧
      conn'.reader = conn.reader)
    (fresh : log.client.pool.fresh ≤ later.client.pool.fresh)
    (inbox : SameInbox conn.session log.client.pool later.client.pool)
    (get : later.client.pool.get (log.sid conn) = log.client.pool.get (log.sid conn))
    (fins : later.finsPut.count (log.sid conn) = log.finsPut.count (log.sid conn))
    (ended : log.sid conn ∈ later.ended ↔ log.sid conn ∈ log.ended)
    (dropped : log.sid conn ∈ later.dropped ↔ log.sid conn ∈ log.dropped) :
    ConnSound later conn' := by
  have sid : later.sid conn' = log.sid conn := by
    rw [TeardownLog.sid, session]
    exact inbox.id
  obtain ⟨closed, finishing, reader⟩ := state
  refine ⟨?_, ?_, ?_, ?_, ?_, ?_, ?_⟩
  · rw [session]
    exact sound.bound.trans_le fresh
  · rw [closed, reader]
    exact sound.reader
  · rw [closed, finishing]
    exact sound.finishing
  · rw [sid, fins, closed, finishing]
    exact sound.fins
  · rw [sid, session, inbox.rx, closed, ended]
    exact sound.ended
  · rw [session, inbox.rx, inbox.event, reader]
    exact sound.woken
  · rw [sid, session, get, sound.mapped]
    simp only [dropped]

theorem seen_grows {sid : Bytes} {before after : SessionPool} (grown : before.Extends after)
    (seen : ¬ Unseen sid before) : ¬ Unseen sid after := by
  intro unseen
  apply seen
  intro r bound
  rw [← grown.ids r bound]
  exact unseen r (bound.trans_le grown.fresh)

theorem seen_of_bound {pool : SessionPool} {r : Nat} (bound : r < pool.fresh) :
    ¬ Unseen (pool.objects r).sessionId pool := fun unseen => unseen r bound rfl

theorem seen_of_get {pool : SessionPool} {sid : Bytes} (found : (pool.get sid).isSome = true) :
    ¬ Unseen sid pool := by
  intro unseen
  rw [unseen_get unseen] at found
  cases found

end Transfer

section Drains

/-- A drain leaves every inbox as it is. -/
theorem drain_all_inbox (pool : SessionPool) (batchSize workerId : Nat) (now : ℚ) (r : Nat) :
    SameInbox r pool (drainAll pool batchSize workerId now).pool := by
  have untouched := untouched_drain_all pool batchSize workerId now
  refine ⟨untouched.ids r, untouched.rx r, ?_⟩
  refine drain_all_preserves
    (P := fun start => (start.objects r).rxEvent = (pool.objects r).rxEvent) ?_ ?_ _ _ _ rfl
  · intro start ref maxFrames same
    rw [drain_tx_objects]
    split_ifs with here
    · rw [← same, here]
      rfl
    · exact same
  · intro start ref snapshot at_ same
    rw [rollback_tx_objects]
    split_ifs with here
    · rw [← same, here]
      rfl
    · exact same

end Drains

section Acts

theorem conn_effect_event (pool : SessionPool) (session : Nat) (effect : ConnEffect) :
    ((effect.apply pool session).objects session).rxEvent =
      match effect with
      | .clearRxEvent => false
      | .sendFin _ _ => true
      | _ => (pool.objects session).rxEvent := by
  rw [conn_effect_object]
  cases effect <;> rfl

variable {log later : TeardownLog} {index : Nat} {act : ConnAct} {conn conn' : VirtualConn}
  {effect : ConnEffect}

/-- No act changes which session the connection has, nor where the pool has it. -/
theorem own_session_kept (sound : ConnSound log conn) (session : conn'.session = conn.session)
    (pool : later.client.pool = effect.apply log.client.pool conn.session)
    (dropped : later.dropped = log.dropped) :
    later.sid conn' = log.sid conn ∧ conn'.session < later.client.pool.fresh ∧
      later.client.pool.get (later.sid conn') =
        if later.sid conn' ∈ later.dropped then none else some conn'.session := by
  have grown := extends_conn_effect log.client.pool conn.session effect
  have sid : later.sid conn' = log.sid conn := by
    rw [TeardownLog.sid, session, pool]
    exact grown.ids _ sound.bound
  refine ⟨sid, ?_, ?_⟩
  · rw [session, pool]
    exact sound.bound.trans_le grown.fresh
  · rw [sid, session, dropped, pool, conn_effect_get]
    exact sound.mapped

/-- One round of the read loop: the frame it takes closes the connection if it is
a FIN or RST. -/
theorem own_pop_sound (sound : ConnSound log conn) (draining : conn.reader = .draining)
    (popped : conn.pop (log.client.pool.objects conn.session) = (conn', effect))
    (pool : later.client.pool = effect.apply log.client.pool conn.session)
    (fins : later.finsPut = log.finsPut) (ended : later.ended = log.ended)
    (dropped : later.dropped = log.dropped) : ConnSound later conn' := by
  have open_ : ¬ conn.closed = true := by
    rw [sound.reader, draining]
    simp
  have session := (VirtualConn.pop_acted popped).1.session
  have kept : effect ≠ .popRx → (later.client.pool.objects conn.session).rxQ =
      (log.client.pool.objects conn.session).rxQ := by
    intro noPop
    rw [pool, conn_effect_rx, if_neg noPop]
  obtain ⟨sid, bound, mapped⟩ := own_session_kept sound session pool dropped
  have unfinished : ¬ conn.finishing = true := fun finishing => open_ (sound.finishing finishing)
  have none := sound.fins
  rw [if_neg (fun both => open_ both.1)] at none
  have waiting : log.sid conn ∈ log.ended ↔
      (log.client.pool.objects conn.session).rxQ.any Frame.ends = true :=
    sound.ended.trans (or_iff_right open_)
  have first : ∀ f rest, (log.client.pool.objects conn.session).rxQ = f :: rest →
      (log.client.pool.objects conn.session).rxQ.any Frame.ends =
        (f.ends || rest.any Frame.ends) := by
    intro f rest received
    rw [received, List.any_cons]
  cases VirtualConn.pop_cases popped with
  | stopped closed => exact absurd closed open_
  | emptied opened received =>
      refine ⟨bound, ⟨fun closed => absurd closed open_, by simp⟩,
        fun finishing => absurd finishing unfinished, ?_, ?_, ?_, mapped⟩
      · rw [sid, fins, none, if_neg fun both => open_ both.1]
      · rw [sid, ended, waiting, kept (by simp)]
        exact (or_iff_right open_).symm
      · intro _ some
        rw [kept (by simp), received] at some
        exact absurd rfl some
  | ended f rest opened received closing =>
      refine ⟨bound, ⟨fun _ => rfl, fun _ => rfl⟩, fun _ => rfl, ?_, ?_, by simp, mapped⟩
      · rw [sid, fins, none, if_neg fun both => Bool.noConfusion both.2]
      · rw [sid, ended, waiting, first f rest received]
        have ends : f.ends = true := closing
        rw [ends, Bool.true_or]
        exact ⟨fun _ => .inl rfl, fun _ => rfl⟩
  -- a plain frame leaves the loop draining, whether or not it was written
  | wrote f rest opened received plain | skipped f rest opened received plain =>
      have notEnd : f.ends = false := plain
      refine ⟨bound, sound.reader, sound.finishing, ?_, ?_, ?_, mapped⟩
      · rw [sid, fins, none, if_neg fun both => open_ both.1]
      · rw [sid, ended, waiting, first f rest received, notEnd, Bool.false_or, session, pool,
          conn_effect_rx, if_pos rfl, received, List.tail_cons]
        exact (or_iff_right open_).symm
      · intro waits
        rw [draining] at waits
        cases waits

/-- An act of the connection itself. -/
theorem own_act_sound (sound : ConnSound log conn)
    (found : log.client.conns[index]? = some conn)
    (acted : conn.act (log.client.pool.objects conn.session) act = some (conn', effect))
    (pool : later.client.pool = effect.apply log.client.pool conn.session)
    (fins : later.finsPut = log.finsPut ++ log.client.finsOf (.conn index act))
    (ended : later.ended = log.ended) (dropped : later.dropped = log.dropped) :
    ConnSound later conn' := by
  have session := (VirtualConn.act_acted acted).1.session
  have grown := extends_conn_effect log.client.pool conn.session effect
  have kept : effect ≠ .popRx → (later.client.pool.objects conn.session).rxQ =
      (log.client.pool.objects conn.session).rxQ := by
    intro noPop
    rw [pool, conn_effect_rx, if_neg noPop]
  obtain ⟨sid, bound, mapped⟩ := own_session_kept sound session pool dropped
  have noFin : (∀ at_, act ≠ .finishClose at_) → later.finsPut = log.finsPut := by
    intro other
    rw [fins]
    cases act with
    | finishClose now => exact absurd rfl (other now)
    | drainChunk | wake | pop | transportLost => exact List.append_nil _
  have others : (∀ at_, act ≠ .finishClose at_) →
      (conn'.closed = conn.closed ∧ conn'.finishing = conn.finishing ∧
        conn'.reader = conn.reader) →
      SameInbox conn.session log.client.pool later.client.pool → ConnSound later conn' := by
    intro noClose state inbox
    refine sound.transfer session state ?_ inbox ?_ ?_ (by rw [ended]) (by rw [dropped])
    · rw [pool]
      exact grown.fresh
    · rw [pool, conn_effect_get]
    · rw [noFin noClose]
  have event := conn_effect_event log.client.pool conn.session effect
  cases VirtualConn.act_cases acted with
  | drainChunk now =>
      refine others (by simp) ⟨rfl, rfl, rfl⟩ ⟨?_, ?_, ?_⟩
      · rw [pool]
        exact grown.ids _ sound.bound
      · exact kept (by simp)
      · rw [pool, event]
  | wakeClosed ready _ closed =>
      rw [sound.reader, ready] at closed
      cases closed
  | wake _ _ opened =>
      refine ⟨bound, ?_, sound.finishing, ?_, ?_, by simp, mapped⟩
      · exact ⟨fun isClosed => absurd isClosed (Bool.eq_false_iff.mp opened), by simp⟩
      · rw [sid, noFin (by simp)]
        exact sound.fins
      · rw [sid, ended, kept (by simp)]
        exact sound.ended
  | pop _ _ draining popped =>
      exact own_pop_sound sound draining popped pool (noFin (by simp)) ended dropped
  | finishClose now pending =>
      have closed := sound.finishing pending
      refine ⟨bound, sound.reader, by simp, ?_, ?_, ?_, mapped⟩
      · have before := sound.fins
        rw [pending, if_neg (fun both => Bool.noConfusion both.2)] at before
        rw [sid, fins, List.count_append, before, Client.finsOf, found]
        simp [closed, TeardownLog.sid]
      · rw [sid, ended, kept (by simp)]
        exact sound.ended
      · intro waiting
        rw [sound.reader] at closed
        exact absurd (waiting.symm.trans closed) (by simp)
  | transportLost =>
      refine others (by simp) ⟨rfl, rfl, rfl⟩ (.of_object ?_)
      rw [pool]
      rfl

end Acts

section Client

variable {log later : TeardownLog}

theorem map_session_set {conns : List VirtualConn} {index : Nat} {conn conn' : VirtualConn}
    (found : conns[index]? = some conn) (session : conn'.session = conn.session) :
    (conns.set index conn').map VirtualConn.session = conns.map VirtualConn.session := by
  obtain ⟨bound, _⟩ := List.getElem?_eq_some_iff.mp found
  apply List.ext_getElem?
  intro place
  rw [List.getElem?_map, List.getElem?_map, List.getElem?_set]
  by_cases same : index = place
  · subst same
    rw [if_pos rfl, if_pos bound, found, Option.map_some, Option.map_some, session]
  · rw [if_neg same]

/-- What the read loops see of a pool, and the names in it. -/
structure SameInboxes (before after : SessionPool) : Prop where
  fresh : after.fresh = before.fresh
  targets : ∀ r, (after.objects r).target = (before.objects r).target
  inbox : ∀ r, SameInbox r before after
  get : ∀ sid, after.get sid = before.get sid

theorem SameInboxes.refl (pool : SessionPool) : SameInboxes pool pool :=
  ⟨rfl, fun _ => rfl, fun _ => .of_object rfl, fun _ => rfl⟩

theorem SameInboxes.drained (pool : SessionPool) (call : Client.DrainCall) :
    SameInboxes pool (call.run pool).pool where
  fresh := (untouched_drain_all _ _ _ _).fresh
  targets := (untouched_drain_all _ _ _ _).targets
  inbox := drain_all_inbox _ _ _ _
  get := (untouched_drain_all _ _ _ _).get

/-- The connections are the same but for chunks to send. -/
structure SameReaders (before after : List VirtualConn) : Prop where
  each : ∀ conn' ∈ after, ∃ conn ∈ before, conn'.session = conn.session ∧
    conn'.closed = conn.closed ∧ conn'.finishing = conn.finishing ∧ conn'.reader = conn.reader
  sessions : after.map VirtualConn.session = before.map VirtualConn.session

theorem SameReaders.refl (conns : List VirtualConn) : SameReaders conns conns :=
  ⟨fun conn member => ⟨conn, member, rfl, rfl, rfl, rfl⟩, rfl⟩

theorem SameReaders.written {conns : List VirtualConn} {index : Nat} {conn conn' : VirtualConn}
    {data : Bytes} (found : conns[index]? = some conn) (written : conn.write data = some conn') :
    SameReaders conns (conns.set index conn') := by
  have state : conn'.session = conn.session ∧ conn'.closed = conn.closed ∧
      conn'.finishing = conn.finishing ∧ conn'.reader = conn.reader := by
    rcases write_cases written with rfl | rfl <;> exact ⟨rfl, rfl, rfl, rfl⟩
  refine ⟨fun moved member => ?_, map_session_set found state.1⟩
  rcases List.mem_or_eq_of_mem_set member with old | rfl
  · exact ⟨moved, old, rfl, rfl, rfl, rfl⟩
  · exact ⟨conn, List.mem_of_getElem? found, state⟩

/-- Nothing that the invariant is about has changed. -/
theorem TeardownSound.same (sound : TeardownSound log)
    (pools : SameInboxes log.client.pool later.client.pool)
    (readers : SameReaders log.client.conns later.client.conns)
    (fins : later.finsPut = log.finsPut) (ended : later.ended = log.ended)
    (dropped : later.dropped = log.dropped) : TeardownSound later := by
  have grown : log.client.pool.Extends later.client.pool :=
    ⟨Nat.le_of_eq pools.fresh.symm, fun r _ => (pools.inbox r).id,
      fun r _ => pools.targets r⟩
  refine ⟨fun conn' member => ?_, ?_, ?_, fun sid recorded => ?_⟩
  · obtain ⟨conn, present, session, state⟩ := readers.each conn' member
    exact (sound.conns conn present).transfer session state grown.fresh (pools.inbox _)
      (pools.get _) (by rw [fins]) (by rw [ended]) (by rw [dropped])
  · rw [readers.sessions]
    exact sound.apart
  · exact sound.ids_kept pools.fresh fun r _ => (pools.inbox r).id
  · rw [fins, ended, dropped] at recorded
    exact seen_grows grown (sound.known sid recorded)

theorem unseen_unrecorded (sound : TeardownSound log) {sid : Bytes}
    (unseen : Unseen sid log.client.pool) :
    sid ∉ log.finsPut ∧ sid ∉ log.ended ∧ sid ∉ log.dropped := by
  have known := sound.known sid
  simp only [List.mem_append] at known
  exact ⟨fun member => known (.inl (.inl member)) unseen,
    fun member => known (.inl (.inr member)) unseen, fun member => known (.inr member) unseen⟩

section Opened

variable {sid : Bytes} {target : Text} {now : ℚ} {conn : VirtualConn}

/-- The new connection has an empty inbox and no record. -/
theorem new_conn_sound (sound : TeardownSound log) (unseen : Unseen sid log.client.pool)
    (opens : VirtualConn.OpensSession sid target now log.client.pool later.client.pool conn)
    (idle : conn.closed = false ∧ conn.finishing = false ∧ conn.reader = .waiting)
    (fins : later.finsPut = log.finsPut) (ended : later.ended = log.ended)
    (dropped : later.dropped = log.dropped) : ConnSound later conn := by
  obtain ⟨noFins, noEnds, noDrop⟩ := unseen_unrecorded sound unseen
  obtain ⟨open_, unfinished, reader⟩ := idle
  have id : later.sid conn = sid := by
    rw [TeardownLog.sid, opens.session, opens.object]
    rfl
  have empty : (later.client.pool.objects conn.session).rxQ = [] := by
    rw [opens.session, opens.object]
    rfl
  constructor
  · rw [opens.session, opens.fresh]
    exact Nat.lt_succ_self _
  · rw [open_, reader]
    simp
  · rw [unfinished]
    exact fun finishing => Bool.noConfusion finishing
  · rw [id, fins, List.count_eq_zero_of_not_mem noFins, open_]
    simp
  · rw [id, ended, empty, open_]
    simp [noEnds]
  · exact fun _ some => absurd empty some
  · rw [id, dropped, if_neg noDrop, opens.session]
    exact opens.get

/-- A new connection brings a new session. -/
theorem opened_sound (sound : TeardownSound log) (unseen : Unseen sid log.client.pool)
    (opens : VirtualConn.OpensSession sid target now log.client.pool later.client.pool conn)
    (idle : conn.closed = false ∧ conn.finishing = false ∧ conn.reader = .waiting)
    (conns : later.client.conns = log.client.conns ++ [conn])
    (fins : later.finsPut = log.finsPut) (ended : later.ended = log.ended)
    (dropped : later.dropped = log.dropped) : TeardownSound later := by
  have grown : log.client.pool.Extends later.client.pool :=
    ⟨(Nat.le_succ _).trans_eq opens.fresh.symm,
      fun r bound => congrArg Session.sessionId (opens.older r bound),
      fun r bound => congrArg Session.target (opens.older r bound)⟩
  constructor
  · intro other member
    rw [conns] at member
    rcases List.mem_append.mp member with old | new
    · have before := sound.conns other old
      have different : log.sid other ≠ sid := unseen other.session before.bound
      exact before.transfer rfl ⟨rfl, rfl, rfl⟩ grown.fresh
        (.of_object (opens.older _ before.bound)) (opens.others _ different) (by rw [fins])
        (by rw [ended]) (by rw [dropped])
    · rw [List.mem_singleton.mp new]
      exact new_conn_sound sound unseen opens idle fins ended dropped
  · rw [conns, List.map_append, List.map_singleton, opens.session, List.nodup_append]
    refine ⟨sound.apart, List.nodup_singleton _, ?_⟩
    intro r member other isNew
    obtain ⟨old, present, rfl⟩ := List.mem_map.mp member
    rw [List.mem_singleton.mp isNew]
    exact Nat.ne_of_lt (sound.conns old present).bound
  · have alone : ∀ r < log.client.pool.fresh,
        (later.client.pool.objects r).sessionId ≠
          (later.client.pool.objects log.client.pool.fresh).sessionId := by
      intro r bound
      rw [opens.older r bound, opens.object]
      exact unseen r bound
    intro a boundA b boundB same
    rw [opens.fresh] at boundA boundB
    rcases Nat.lt_succ_iff_lt_or_eq.mp boundA with oldA | rfl
    · rcases Nat.lt_succ_iff_lt_or_eq.mp boundB with oldB | rfl
      · rw [opens.older a oldA, opens.older b oldB] at same
        exact sound.ids a oldA b oldB same
      · exact absurd same (alone a oldA)
    · rcases Nat.lt_succ_iff_lt_or_eq.mp boundB with oldB | rfl
      · exact absurd same.symm (alone b oldB)
      · rfl
  · intro known recorded
    rw [fins, ended, dropped] at recorded
    exact seen_grows grown (sound.known known recorded)

end Opened

/-- The ids that an act puts a FIN for are those of its connection. -/
theorem own_fins {index : Nat} {act : ConnAct} {conn : VirtualConn}
    (found : log.client.conns[index]? = some conn) :
    ∀ sid ∈ log.client.finsOf (.conn index act), sid = log.sid conn := by
  cases act with
  | finishClose now =>
      rw [Client.finsOf, found]
      exact fun sid member => List.mem_singleton.mp member
  | drainChunk | wake | pop | transportLost => exact List.forall_mem_nil _

/-- An act of one connection leaves the others alone. -/
theorem other_conn_sound {index place : Nat} {act : ConnAct} {conn moved : VirtualConn}
    {effect : ConnEffect} (sound : TeardownSound log)
    (found : log.client.conns[index]? = some conn)
    (slot : log.client.conns[place]? = some moved) (other : index ≠ place)
    (pool : later.client.pool = effect.apply log.client.pool conn.session)
    (fins : later.finsPut = log.finsPut ++ log.client.finsOf (.conn index act))
    (ended : later.ended = log.ended) (dropped : later.dropped = log.dropped) :
    ConnSound later moved := by
  have before := sound.conns moved (List.mem_of_getElem? slot)
  have grown := extends_conn_effect log.client.pool conn.session effect
  have apart : moved.session ≠ conn.session := by
    intro same
    have both : (log.client.conns.map VirtualConn.session)[index]? =
        (log.client.conns.map VirtualConn.session)[place]? := by
      rw [List.getElem?_map, List.getElem?_map, found, slot]
      exact congrArg some same.symm
    refine other ((List.getElem?_inj ?_ sound.apart).mp both)
    rw [List.length_map]
    exact (List.getElem?_eq_some_iff.mp found).1
  have otherId : log.sid moved ≠ log.sid conn := fun same =>
    apart (sound.ids _ before.bound _ (sound.conns conn (List.mem_of_getElem? found)).bound same)
  refine before.transfer rfl ⟨rfl, rfl, rfl⟩ (by rw [pool]; exact grown.fresh) (.of_object ?_)
    ?_ ?_ (by rw [ended]) (by rw [dropped])
  · rw [pool]
    exact conn_effect_other _ _ _ apart
  · rw [pool, conn_effect_get]
  · have none : (log.client.finsOf (.conn index act)).count (log.sid moved) = 0 :=
      List.count_eq_zero_of_not_mem fun member => otherId (own_fins found _ member)
    rw [fins, List.count_append, none, Nat.add_zero]

theorem acted_sound {index : Nat} {act : ConnAct} {conn conn' : VirtualConn}
    {effect : ConnEffect} (sound : TeardownSound log)
    (found : log.client.conns[index]? = some conn)
    (acted : conn.act (log.client.pool.objects conn.session) act = some (conn', effect))
    (pool : later.client.pool = effect.apply log.client.pool conn.session)
    (conns : later.client.conns = log.client.conns.set index conn')
    (fins : later.finsPut = log.finsPut ++ log.client.finsOf (.conn index act))
    (ended : later.ended = log.ended) (dropped : later.dropped = log.dropped) :
    TeardownSound later := by
  have present := List.mem_of_getElem? found
  have session := (VirtualConn.act_acted acted).1.session
  have grown : log.client.pool.Extends later.client.pool := by
    rw [pool]
    exact extends_conn_effect _ _ _
  refine ⟨fun moved member => ?_, ?_, ?_, fun sid recorded => ?_⟩
  · rw [conns] at member
    obtain ⟨place, slot⟩ := List.getElem?_of_mem member
    by_cases here : index = place
    · subst here
      rw [List.getElem?_set_self (List.getElem?_eq_some_iff.mp found).1] at slot
      cases slot
      exact own_act_sound (sound.conns conn present) found acted pool fins ended dropped
    · rw [List.getElem?_set_ne here] at slot
      exact other_conn_sound sound found slot here pool fins ended dropped
  · rw [conns, map_session_set found session]
    exact sound.apart
  · have freshSame : later.client.pool.fresh = log.client.pool.fresh := by
      rw [pool]
      cases effect <;> rfl
    exact sound.ids_kept freshSame grown.ids
  · rw [fins, ended, dropped] at recorded
    simp only [List.mem_append] at recorded
    have known := sound.known sid
    simp only [List.mem_append] at known
    rcases recorded with ((old | new) | heard) | gone
    · exact seen_grows grown (known (.inl (.inl old)))
    · rw [own_fins found sid new]
      exact seen_grows grown (seen_of_bound (sound.conns conn present).bound)
    · exact seen_grows grown (known (.inl (.inr heard)))
    · exact seen_grows grown (known (.inr gone))

theorem client_step_sound {action : ClientAction} {client : Client} {sent : Option Post}
    (sound : TeardownSound log) (fresh : OpensFresh log (.client action))
    (reacted : log.client.react log.requests action = some (client, sent)) :
    TeardownSound { log with
      client := client
      requests := log.requests + 1
      finsPut := log.finsPut ++ log.client.finsOf action } := by
  have rest : (∀ sid target now, action ≠ .openConn sid target now) →
      (∀ index act, action ≠ .conn index act) → log.client.finsOf action = [] →
        TeardownSound { log with
          client := client
          requests := log.requests + 1
          finsPut := log.finsPut ++ log.client.finsOf action } := by
    intro notOpen notAct noFins
    have fins : log.finsPut ++ log.client.finsOf action = log.finsPut := by
      rw [noFins, List.append_nil]
    have kept : SameInboxes log.client.pool client.pool →
        SameReaders log.client.conns client.conns → TeardownSound { log with
          client := client
          requests := log.requests + 1
          finsPut := log.finsPut ++ log.client.finsOf action } :=
      fun pools readers => sound.same pools readers fins rfl rfl
    cases Client.react_reacted reacted with
    | opened sid target now pool conns => exact absurd rfl (notOpen sid target now)
    | acted index act conn conn' effect found acted pool conns =>
        exact absurd rfl (notAct index act)
    | wrote index data conn conn' found written pool conns =>
        apply kept
        · rw [pool]
          exact .refl _
        · rw [conns]
          exact .written found written
    | idle action call called unsent pool conns =>
        apply kept
        · rw [pool]
          exact .drained _ call
        · rw [conns]
          exact .refl _
    | posted action call called returned encodes pool conns =>
        apply kept
        · rw [pool]
          exact .drained _ call
        · rw [conns]
          exact .refl _
    | still action pool conns =>
        apply kept
        · rw [pool]
          exact .refl _
        · rw [conns]
          exact .refl _
  cases action with
  | openConn sid target now =>
      cases reacted
      exact opened_sound sound fresh
        (VirtualConn.open_session_made target now (unseen_get fresh)) ⟨rfl, rfl, rfl⟩ rfl
        (List.append_nil _) rfl rfl
  | conn index act =>
      cases Client.react_cases reacted with
      | conn _ _ conn conn' effect found acted =>
          exact acted_sound sound found acted rfl rfl rfl rfl rfl
  | write | work | heard | cooled | health | stop => exact rest (by simp) (by simp) rfl

end Client

section Answered

variable {log : TeardownLog} {pool : SessionPool} {sid : Bytes} {r : Nat}

theorem dispatch_frame_aside {f : Frame} (now : ℚ) (keyed : (pool.objects r).sessionId = sid)
    (elsewhere : pool.get sid ≠ some r) :
    (dispatchResponseFrame now pool f).objects r = pool.objects r := by
  unfold dispatchResponseFrame
  cases found : pool.get f.sessionId with
  | none => rfl
  | some s =>
      dsimp only
      rw [enqueue_rx_objects, if_neg]
      rintro rfl
      rw [← (get_keyed found).2] at found
      rw [← keyed] at elsewhere
      exact elsewhere found

/-- A response does not reach an object that is not in the dictionary. -/
theorem dispatch_response_aside (now : ℚ) (frames : List Frame)
    (keyed : (pool.objects r).sessionId = sid) (elsewhere : pool.get sid ≠ some r) :
    (dispatchResponseFrames pool now frames).objects r = pool.objects r := by
  induction frames generalizing pool with
  | nil => rfl
  | cons f rest ih =>
      have first := @dispatch_frame_aside pool sid r f now keyed elsewhere
      have split : dispatchResponseFrames pool now (f :: rest) =
          dispatchResponseFrames (dispatchResponseFrame now pool f) now rest := rfl
      rw [split, ih, first]
      · rw [first]
        exact keyed
      · rw [SessionPool.get, dispatch_response_dict]
        exact elsewhere

/-- Whatever a response queues wakes the reader. -/
theorem dispatch_response_woken (now : ℚ) (frames : List Frame)
    (woken : (pool.objects r).rxQ ≠ [] → (pool.objects r).rxEvent = true) :
    ((dispatchResponseFrames pool now frames).objects r).rxQ ≠ [] →
      ((dispatchResponseFrames pool now frames).objects r).rxEvent = true := by
  induction frames generalizing pool with
  | nil => exact woken
  | cons f rest ih =>
      apply @ih (dispatchResponseFrame now pool f)
      unfold dispatchResponseFrame
      cases pool.get f.sessionId with
      | none => exact woken
      | some s =>
          dsimp only
          rw [enqueue_rx_objects]
          split_ifs
          · exact fun _ => rfl
          · exact woken

theorem ends_heard_iff (frames : List Frame) (bodyLength : Nat) (client : Client) :
    sid ∈ client.endsHeard (.frames frames bodyLength) ↔
      (client.pool.get sid).isSome = true ∧
        (sessionFrames sid frames).any Frame.ends = true := by
  simp only [Client.endsHeard, Answer.brought, List.mem_map, List.mem_filter, Bool.and_eq_true,
    List.any_eq_true, sessionFrames, decide_eq_true_eq]
  constructor
  · rintro ⟨f, ⟨member, ends, found⟩, rfl⟩
    exact ⟨found, f, ⟨member, rfl⟩, ends⟩
  · rintro ⟨found, f, ⟨member, rfl⟩, ends⟩
    exact ⟨f, ⟨member, ends, found⟩, rfl⟩

/-- A response queues the far side's FIN or RST with the rest. -/
theorem heard_sound {later : TeardownLog} {conn : VirtualConn} {frames : List Frame}
    {bodyLength : Nat} {now : ℚ} (sound : ConnSound log conn)
    (isPool : later.client.pool = dispatchResponseFrames log.client.pool now frames)
    (fins : later.finsPut = log.finsPut)
    (ended : later.ended = log.ended ++ log.client.endsHeard (.frames frames bodyLength))
    (dropped : later.dropped = log.dropped) : ConnSound later conn := by
  have grown := extends_dispatch_response now frames log.client.pool
  have id : later.sid conn = log.sid conn := by
    rw [TeardownLog.sid, isPool]
    exact grown.ids _ sound.bound
  have get : later.client.pool.get (log.sid conn) = log.client.pool.get (log.sid conn) := by
    rw [isPool, SessionPool.get, dispatch_response_sessions]
    rfl
  have queue : (later.client.pool.objects conn.session).rxQ =
      (log.client.pool.objects conn.session).rxQ ++
        if (log.client.pool.get (log.sid conn)).isSome then sessionFrames (log.sid conn) frames
        else [] := by
    rw [isPool]
    by_cases gone : log.sid conn ∈ log.dropped
    · have missing := sound.mapped
      rw [if_pos gone] at missing
      rw [dispatch_response_aside now frames rfl, missing]
      · exact (List.append_nil _).symm
      · have elsewhere : log.client.pool.get (log.sid conn) ≠ some conn.session := by
          rw [missing]
          simp
        exact elsewhere
    · have found := sound.mapped
      rw [if_neg gone] at found
      rw [(dispatch_response_session found).2.1, found]
      rfl
  refine ⟨?_, sound.reader, sound.finishing, ?_, ?_, fun waits => ?_, ?_⟩
  · rw [isPool]
    exact sound.bound.trans_le grown.fresh
  · rw [id, fins]
    exact sound.fins
  · rw [id, ended, List.mem_append, ends_heard_iff, queue, List.any_append, Bool.or_eq_true,
      sound.ended, or_assoc]
    cases (log.client.pool.get (log.sid conn)).isSome <;> simp
  · rw [isPool]
    exact dispatch_response_woken now frames (sound.woken waits)
  · rw [id, get, dropped]
    exact sound.mapped

/-- A failed post takes the sessions of its SYN frames out. -/
theorem dropped_sound {later : TeardownLog} {conn : VirtualConn} {frames : List Frame}
    (sound : ConnSound log conn)
    (isPool : later.client.pool = dropFailed log.client.pool frames)
    (fins : later.finsPut = log.finsPut) (ended : later.ended = log.ended)
    (dropped : later.dropped = log.dropped ++
      (failedSids frames).filter fun sid => (log.client.pool.get sid).isSome) :
    ConnSound later conn := by
  have objects : later.client.pool.objects = log.client.pool.objects := by
    rw [isPool]
    exact (drop_failed_frame _ _).1
  have id : later.sid conn = log.sid conn := by
    rw [TeardownLog.sid, objects]
    rfl
  refine ⟨?_, sound.reader, sound.finishing, ?_, ?_, ?_, ?_⟩
  · rw [isPool]
    exact sound.bound.trans_le (extends_drop_failed _ _).fresh
  · rw [id, fins]
    exact sound.fins
  · rw [id, ended, objects]
    exact sound.ended
  · rw [objects]
    exact sound.woken
  · rw [id, isPool, drop_failed_get, dropped, sound.mapped]
    simp only [List.mem_append, List.mem_filter, sound.mapped]
    by_cases gone : log.sid conn ∈ log.dropped
    · simp [gone]
    · simp [gone]

theorem dispatch_response_fresh (now : ℚ) (frames : List Frame) (pool : SessionPool) :
    (dispatchResponseFrames pool now frames).fresh = pool.fresh := by
  induction frames generalizing pool with
  | nil => rfl
  | cons f rest ih =>
      apply (ih (dispatchResponseFrame now pool f)).trans
      unfold dispatchResponseFrame
      cases pool.get f.sessionId <;> rfl

theorem take_answer_fresh (pool : SessionPool) (ep : EndpointState) (frames : List Frame)
    (now : ℚ) (answer : Answer) :
    (takeAnswer pool ep frames now answer).pool.fresh = pool.fresh := by
  rcases Client.take_answer_pool pool ep frames now answer with ⟨respFrames, _, _, same⟩ |
    ⟨_, same | same⟩
  · rw [same]
    exact dispatch_response_fresh _ _ _
  · rw [same]
  · rw [same]
    exact (drop_failed_frame _ _).2

theorem mem_append_nothing {records more : List Bytes} (nothing : more = []) :
    sid ∈ records ++ more ↔ sid ∈ records := by
  rw [nothing, List.append_nil]

/-- An answer as one connection sees it. -/
theorem answered_conn_sound {index : Nat} {answer : Answer} {w : CarrierWorker} {request : Nat}
    {frames : List Frame} {ep : EndpointState} {now : ℚ} {endpoints : List EndpointState}
    {workers : List CarrierWorker} {conn : VirtualConn} {confirmed : List Bytes}
    (before : ConnSound log conn) (found : log.client.workers[index]? = some w)
    (posting : w.phase = .posting request frames) :
    ConnSound { log with
      client := { log.client with
        pool := (takeAnswer log.client.pool ep frames now answer).pool
        endpoints := endpoints
        workers := workers }
      ended := log.ended ++ log.client.endsHeard answer
      confirmed := confirmed
      dropped := log.dropped ++ log.client.sessionsDropped index answer } conn := by
  have posted : log.client.postedFrames index = frames := by
    rw [Client.postedFrames, found]
    dsimp only
    rw [posting]
  have grown := extends_take_answer log.client.pool ep frames now answer
  cases answer with
  | frames respFrames bodyLength =>
      exact heard_sound before rfl rfl rfl (List.append_nil _)
  | emptyBody | unreadable error =>
      exact before.transfer rfl ⟨rfl, rfl, rfl⟩ (Nat.le_refl _) (.of_object rfl) rfl rfl
        (mem_append_nothing rfl) (mem_append_nothing rfl)
  | failed status =>
      by_cases limited : status = 302 ∨ status = 429
      · refine before.transfer rfl ⟨rfl, rfl, rfl⟩ grown.fresh (.of_object ?_) ?_ rfl
          (mem_append_nothing rfl) (mem_append_nothing (if_pos limited))
        · dsimp only
          rw [takeAnswer, handleFailure, if_pos limited]
        · dsimp only
          rw [takeAnswer, handleFailure, if_pos limited]
      · refine @dropped_sound log _ conn frames before ?_ rfl ?_ ?_
        · dsimp only
          rw [takeAnswer, handleFailure, if_neg limited]
        · exact List.append_nil _
        · dsimp only
          rw [Client.sessionsDropped, if_neg limited, posted]

theorem answered_step_sound {index : Nat} {answer : Answer} {sent : Nat} {rttMs now : ℚ}
    {client : Client} (sound : TeardownSound log)
    (answered : log.client.answered index answer sent rttMs now = some client) :
    TeardownSound { log with
      client := client
      ended := log.ended ++ log.client.endsHeard answer
      confirmed := log.confirmed ++ log.client.finsConfirmed index answer
      dropped := log.dropped ++ log.client.sessionsDropped index answer } := by
  obtain ⟨w, request, frames, ep, found, posting, rfl⟩ := Client.answered_cases answered
  have grown := extends_take_answer log.client.pool (ep.recordPost sent rttMs) frames now answer
  have fresh := take_answer_fresh log.client.pool (ep.recordPost sent rttMs) frames now answer
  have heardKnown : ∀ sid ∈ log.client.endsHeard answer,
      (log.client.pool.get sid).isSome = true := by
    intro sid member
    obtain ⟨f, listed, rfl⟩ := List.mem_map.mp member
    exact (Bool.and_eq_true_iff.mp (List.mem_filter.mp listed).2).2
  have droppedKnown : ∀ sid ∈ log.client.sessionsDropped index answer,
      (log.client.pool.get sid).isSome = true := by
    cases answer with
    | failed status =>
        intro sid member
        rw [Client.sessionsDropped] at member
        split_ifs at member
        · cases member
        · exact (List.mem_filter.mp member).2
    | frames | emptyBody | unreadable => exact List.forall_mem_nil _
  refine ⟨fun conn member => ?_, sound.apart, ?_, fun sid recorded => ?_⟩
  · exact answered_conn_sound (sound.conns conn member) found posting
  · exact sound.ids_kept fresh grown.ids
  · have known := sound.known sid
    simp only [List.mem_append] at recorded known
    rcases recorded with (put | heard | new) | gone | new
    · exact seen_grows grown (known (.inl (.inl put)))
    · exact seen_grows grown (known (.inl (.inr heard)))
    · exact seen_grows grown (seen_of_get (heardKnown sid new))
    · exact seen_grows grown (known (.inr gone))
    · exact seen_grows grown (seen_of_get (droppedKnown sid new))

end Answered

section Runs

theorem teardown_start_sound (clientId : Bytes) (endpoints : Nat) :
    TeardownSound (.start clientId endpoints) :=
  ⟨List.forall_mem_nil _, List.nodup_nil, fun _ bound => absurd bound (Nat.not_lt_zero _),
    List.forall_mem_nil _⟩

theorem teardown_step_sound {log later : TeardownLog} {action : TeardownAction}
    (sound : TeardownSound log) (fresh : OpensFresh log action)
    (stepped : log.step action = some later) : TeardownSound later := by
  cases action with
  | client action =>
      obtain ⟨⟨client, sent⟩, reacted, rfl⟩ := Option.map_eq_some_iff.mp stepped
      exact client_step_sound sound fresh reacted
  | answered index answer sent rttMs now =>
      simp only [TeardownLog.step] at stepped
      split_ifs at stepped
      obtain ⟨client, answered, rfl⟩ := Option.map_eq_some_iff.mp stepped
      exact answered_step_sound sound answered

/-- A read loop that has run either closed the connection or found no FIN or RST. -/
theorem quiet_closed_iff {log : TeardownLog} {conn : VirtualConn} (sound : ConnSound log conn)
    (quiet : conn.Quiet (log.client.pool.objects conn.session)) :
    conn.closed = true ↔ log.sid conn ∈ log.ended := by
  obtain ⟨_, idle, waits, _⟩ := quiet
  refine ⟨fun closed => sound.ended.mpr (.inl closed), fun heard => ?_⟩
  rcases sound.ended.mp heard with closed | queued
  · exact closed
  · cases reader : conn.reader with
    | ended => exact sound.reader.mpr reader
    | draining => exact absurd reader idle
    | waiting =>
        have some : (log.client.pool.objects conn.session).rxQ ≠ [] := by
          intro none
          rw [none] at queued
          cases queued
        have woken := sound.woken reader some
        rw [waits reader] at woken
        cases woken

end Runs

/-- Once the tasks of a connection have run, it is torn down exactly when the far
side ended the session and the session's FIN was not posted in vain; whether
`connection_lost` was delivered makes no difference. -/
theorem torn_down_iff {clientId : Bytes} {endpoints : Nat} {history : List TeardownAction}
    {log : TeardownLog}
    (run : teardownMachine.Run OpensFresh (.start clientId endpoints) history log)
    {conn : VirtualConn} (member : conn ∈ log.client.conns)
    (quiet : conn.Quiet (log.client.pool.objects conn.session)) :
    log.TornDown conn ↔ log.EndedByFarSide conn := by
  have sound : TeardownSound log := run.invariant (teardown_start_sound clientId endpoints)
    fun _ _ _ before fresh stepped => teardown_step_sound before fresh stepped
  have own := sound.conns conn member
  have closed := quiet_closed_iff own quiet
  have removed : log.client.pool.get (log.sid conn) = none ↔ log.sid conn ∈ log.dropped := by
    rw [own.mapped]
    split_ifs with gone
    · exact ⟨fun _ => gone, fun _ => rfl⟩
    · exact ⟨by simp, fun dropped => absurd dropped gone⟩
  constructor
  · intro torn
    exact ⟨closed.mp torn.closed, fun confirmed => removed.mp (torn.removed confirmed)⟩
  · rintro ⟨heard, dropped⟩
    have isClosed := closed.mpr heard
    refine ⟨isClosed, ?_, fun confirmed => removed.mpr (dropped confirmed)⟩
    rw [own.fins, if_pos ⟨isClosed, quiet.1⟩]

def lostSid : Bytes := List.replicate SessionIDLen 2

/-- A session is opened, its SYN is posted, and the post is answered. -/
def openAndPost (answer : Answer) : List TeardownAction :=
  [.client (.openConn lostSid [97] 0), .client (.work 0 0), .answered 0 answer 0 0 0]

/-- The far side's FIN comes with the answer, and the SOCKS connection is lost
once the read loop has closed. -/
def endedThenLost : List TeardownAction :=
  openAndPost (.frames [finFrame lostSid] 0) ++
    [.client (.conn 0 .wake), .client (.conn 0 .pop), .client (.conn 0 (.finishClose 0)),
      .client (.conn 0 .transportLost)]

theorem ended_then_lost_torn_down : ∃ log : TeardownLog,
    ∃ conn ∈ log.client.conns, log.TornDown conn := by
  have passed : ((teardownMachine.exec OpensFresh (.start zeroId 1) endedThenLost).any fun log =>
      decide (∃ conn ∈ log.client.conns, conn.Quiet (log.client.pool.objects conn.session) ∧
        log.EndedByFarSide conn)) = true := by
    decide +kernel
  obtain ⟨log, run, seen⟩ := StepMachine.run_of_exec_any _ passed
  obtain ⟨conn, member, quiet, ended⟩ := of_decide_eq_true seen
  exact ⟨log, conn, member, (torn_down_iff run member quiet).mpr ended⟩

/-- The SOCKS client hangs up while the session is open. -/
theorem hangup_leaves_session_open :
    ¬ ∀ (clientId : Bytes) (endpoints : Nat) (history : List TeardownAction) (log : TeardownLog),
      teardownMachine.Run OpensFresh (.start clientId endpoints) history log →
        ∀ index conn, log.client.conns[index]? = some conn →
          .client (.conn index .transportLost) ∈ history →
            conn.Quiet (log.client.pool.objects conn.session) → log.TornDown conn := by
  intro always
  have passed : ((teardownMachine.exec OpensFresh (.start zeroId 1)
      (openAndPost .emptyBody ++ [.client (.conn 0 .transportLost)])).any fun log =>
        decide (∃ conn ∈ log.client.conns[0]?,
          conn.Quiet (log.client.pool.objects conn.session) ∧ conn.closed = false)) = true := by
    decide +kernel
  obtain ⟨log, run, seen⟩ := StepMachine.run_of_exec_any _ passed
  obtain ⟨conn, found, quiet, open_⟩ := of_decide_eq_true seen
  have torn := always _ _ _ log run 0 conn found (by simp) quiet
  rw [torn.closed] at open_
  cases open_

end Astrix
