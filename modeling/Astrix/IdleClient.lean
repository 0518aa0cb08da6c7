import Astrix.DrainAll
import Astrix.Tunnel

/-!
# A client with nothing to send

A worker posts only what it drained. When the sessions and connections of the
clients have nothing queued, nothing is in flight and no poll is open, no step
without new data from a SOCKS client makes a request, and none brings a frame.
-/

namespace Astrix

open PyRuntime SessionPool

set_option autoImplicit false

/-- The request whose answer a worker waits for. -/
def WorkerPhase.request : WorkerPhase → Option Nat
  | .posting request _ => some request
  | _ => none

/-- Steps that a SOCKS client causes. -/
def ClientAction.prompted : ClientAction → Bool
  | .openConn _ _ _ => true
  | .write _ _ => true
  | _ => false

/-- Further steps without new data from a SOCKS client. The clock of the server
goes on, each batch arrives once, and each response goes once, to the worker
whose post it answers. -/
def Unprompted (t : Tunnel) : TunnelAction → Prop
  | .client _ action => action.prompted = false
  | .arrive _ keep now atCheck afterScan =>
      keep = false ∧ t.time ≤ now ∧ now ≤ atCheck ∧ atCheck ≤ afterScan
  | .resume _ atCheck afterScan => t.time ≤ atCheck ∧ atCheck ≤ afterScan
  | .upstream _ _ => True
  | .deliver index keep client worker _ _ _ _ => keep = false ∧
      ∀ response ∈ t.responses[index]?, ∀ c ∈ t.clients[client]?, ∀ w ∈ c.workers[worker]?,
        w.phase.request = some response.request
  | .relay _ _ _ _ _ _ => True

namespace Client

/-- Nothing is queued in either direction and no worker waits for an answer. -/
structure Idle (client : Client) : Prop where
  queues : ∀ r < client.pool.fresh,
    (client.pool.objects r).txQ = [] ∧ (client.pool.objects r).rxQ = []
  conns : ∀ conn ∈ client.conns, conn.session < client.pool.fresh ∧ conn.txQueue = [] ∧
    conn.finishing = false
  workers : ∀ w ∈ client.workers, w.phase.request = none

instance (client : Client) : Decidable client.Idle :=
  decidable_of_iff ((∀ r < client.pool.fresh,
      (client.pool.objects r).txQ = [] ∧ (client.pool.objects r).rxQ = []) ∧
      (∀ conn ∈ client.conns, conn.session < client.pool.fresh ∧ conn.txQueue = [] ∧
        conn.finishing = false) ∧
      ∀ w ∈ client.workers, w.phase.request = none)
    ⟨fun all => ⟨all.1, all.2.1, all.2.2⟩, fun idle => ⟨idle.1, idle.2, idle.3⟩⟩

end Client

section Drain

variable {pool : SessionPool}

/-- There is nothing to drain. -/
theorem drain_all_empty (empty : ∀ r < pool.fresh, (pool.objects r).txQ = [])
    (batchSize workerId : Nat) (now : ℚ) :
    drainAll pool batchSize workerId now = startDrain pool := by
  have visit : ∀ sid, drainSession batchSize now (startDrain pool) sid = startDrain pool := by
    intro sid
    have nothing : pool.drainTxLimitedTxn sid batchSize = (pool, ⟨sid, [], 0, 0⟩) := by
      rcases drain_cases pool sid batchSize with ⟨_, same⟩ | ⟨ref, found, queued, _⟩
      · exact same
      · exact absurd (empty ref (get_keyed found).1) queued
    simp [drainSession, startDrain, nothing]
  have all : ∀ sids : List Bytes,
      sids.foldl (drainSession batchSize now) (startDrain pool) = startDrain pool := by
    intro sids
    induction sids with
    | nil => rfl
    | cons sid rest ih => rw [List.foldl_cons, visit sid, ih]
  exact all _

end Drain

namespace Client

variable {before after : Client} {sent : Option Post} {index request : Nat}

theorem Idle.set_phase (idle : before.Idle) {w : CarrierWorker} {phase : WorkerPhase}
    (silent : phase.request = none) : (before.setPhase index w phase).Idle where
  queues := idle.queues
  conns := idle.conns
  workers other member := by
    rcases List.mem_or_eq_of_mem_set member with old | rfl
    · exact idle.workers other old
    · exact silent

/-- A drain of an idle client's pool leads to no post. -/
theorem idle_send (idle : before.Idle) {w : CarrierWorker} {phase : WorkerPhase}
    (silent : phase.request = none) (batchSize : Nat) (now : ℚ)
    (result : before.send index w request phase
      (drainAll before.pool batchSize w.workerId now) = (after, sent)) :
    after.Idle ∧ sent = none := by
  rw [drain_all_empty fun r bound => (idle.queues r bound).1] at result
  cases result
  exact ⟨idle.set_phase silent, rfl⟩

/-- An act of a connection of an idle client changes no queue. -/
theorem idle_act {act : ConnAct} {conn conn' : VirtualConn} {effect : ConnEffect}
    (idle : before.Idle) (member : conn ∈ before.conns)
    (acted : conn.act (before.pool.objects conn.session) act = some (conn', effect)) :
    (effect = .nothing ∨ effect = .clearRxEvent) ∧ conn'.session = conn.session ∧
      conn'.txQueue = [] ∧ conn'.finishing = false := by
  obtain ⟨bound, unsent, open_⟩ := idle.conns conn member
  have unread := (idle.queues conn.session bound).2
  cases VirtualConn.act_cases acted with
  | drainChunk now data rest running head =>
      rw [unsent] at head
      cases head
  | wakeClosed | transportLost => exact ⟨.inl rfl, rfl, unsent, open_⟩
  | wake => exact ⟨.inr rfl, rfl, unsent, open_⟩
  | pop _ _ draining popped =>
      cases VirtualConn.pop_cases popped with
      | stopped | emptied => exact ⟨.inl rfl, rfl, unsent, open_⟩
      | ended f rest _ queue | wrote f rest _ queue | skipped f rest _ queue =>
          rw [unread] at queue
          cases queue
  | finishClose now pending =>
      rw [open_] at pending
      cases pending

theorem idle_effect (idle : before.Idle) {session : Nat} {effect : ConnEffect}
    (silent : effect = .nothing ∨ effect = .clearRxEvent) :
    (effect.apply before.pool session).fresh = before.pool.fresh ∧
      ∀ r < before.pool.fresh, ((effect.apply before.pool session).objects r).txQ = [] ∧
        ((effect.apply before.pool session).objects r).rxQ = [] := by
  rcases silent with rfl | rfl
  · exact ⟨rfl, idle.queues⟩
  · refine ⟨rfl, fun r bound => ?_⟩
    have object : (before.pool.clearRxEvent session).objects r =
        if r = session then (before.pool.objects session).clearRxEvent
        else before.pool.objects r := clear_rx_event_objects _ _ _
    have empty := idle.queues r bound
    rw [ConnEffect.apply, object]
    split_ifs with here
    · rw [here] at empty
      exact empty
    · exact empty

/-- A step of an idle client that nobody prompted posts nothing. -/
theorem Idle.react {action : ClientAction} (idle : before.Idle)
    (reacted : before.react request action = some (after, sent))
    (unprompted : action.prompted = false) :
    after.Idle ∧ sent = none := by
  cases Client.react_cases reacted with
  | openConn | write => cases unprompted
  | conn index act conn conn' effect found acted =>
      have member := List.mem_of_getElem? found
      obtain ⟨silent, session, unsent, open_⟩ := idle_act idle member acted
      obtain ⟨fresh, empty⟩ := idle_effect idle silent
      refine ⟨⟨?_, ?_, idle.workers⟩, rfl⟩
      · rw [fresh]
        exact empty
      · intro other listed
        rw [fresh]
        rcases List.mem_or_eq_of_mem_set listed with old | rfl
        · exact idle.conns other old
        · exact ⟨session ▸ (idle.conns conn member).1, unsent, open_⟩
  | work index now w ep _ _ found head present worked =>
      unfold work at worked
      split_ifs at worked with stopped dead
      · cases worked
        exact ⟨idle.set_phase rfl, rfl⟩
      · cases worked
        exact ⟨idle, rfl⟩
      · exact idle_send idle rfl _ _ worked
  | heard index activity now w ep _ _ found waiting present worked =>
      unfold hear at worked
      cases activity with
      | false =>
          cases worked
          exact ⟨idle.set_phase rfl, rfl⟩
      | true => exact idle_send idle rfl _ _ worked
  | cooled => exact ⟨idle.set_phase rfl, rfl⟩
  | health => exact ⟨⟨idle.queues, idle.conns, idle.workers⟩, rfl⟩
  | stop =>
      refine ⟨⟨idle.queues, idle.conns, fun w member => ?_⟩, rfl⟩
      obtain ⟨old, _, rfl⟩ := List.mem_map.mp member
      rfl

/-- No worker of an idle client waits for an answer. -/
theorem Idle.unanswered {answer : Answer} {bytes : Nat} {rttMs now : ℚ} (idle : before.Idle)
    (taken : before.answered index answer bytes rttMs now = some after) : False := by
  obtain ⟨w, request, frames, ep, found, posting, _⟩ := Client.answered_cases taken
  have nothing := idle.workers w (List.mem_of_getElem? found)
  rw [posting] at nothing
  cases nothing

end Client

namespace Tunnel

/-- Idle clients, nothing in flight and no open poll. -/
structure Silent (t : Tunnel) : Prop where
  clients : ∀ client ∈ t.clients, client.Idle
  posts : t.posts = []
  responses : t.responses = []
  polls : t.server.polls = []

instance (t : Tunnel) : Decidable t.Silent :=
  decidable_of_iff ((∀ client ∈ t.clients, client.Idle) ∧ t.posts = [] ∧ t.responses = [] ∧
      t.server.polls = [])
    ⟨fun all => ⟨all.1, all.2.1, all.2.2.1, all.2.2.2⟩,
      fun silent => ⟨silent.1, silent.2, silent.3, silent.4⟩⟩

/-- A silent tunnel stays silent, whatever the upstream workers do. -/
theorem Silent.step {t later : Tunnel} {action : TunnelAction} (silent : t.Silent)
    (unprompted : Unprompted t action) (stepped : t.step action = some later) : later.Silent := by
  cases step_stepped stepped with
  | client index action before after sent found reacted =>
      have idle := silent.clients before (List.mem_of_getElem? found)
      obtain ⟨still, none⟩ := idle.react reacted unprompted
      refine ⟨fun client member => ?_, ?_, silent.responses, silent.polls⟩
      · rcases List.mem_or_eq_of_mem_set member with old | rfl
        · exact silent.clients client old
        · exact still
      · dsimp only
        rw [none, silent.posts]
        rfl
  | arrive index keep now atCheck afterScan post server reply found reacted =>
      rw [silent.posts] at found
      cases found
  | resume index atCheck afterScan server reply reacted =>
      rcases ExitServer.react_cases reacted with ⟨_, _, _, _, _, _, same, _⟩ |
        ⟨_, _, _, _, _, _, found, _⟩ | ⟨_, _, _, _, _, same, _⟩
      · cases same
      · rw [silent.polls] at found
        cases found
      · cases same
  | upstream index act server reply reacted =>
      rcases ExitServer.react_cases reacted with ⟨_, _, _, _, _, _, same, _⟩ |
        ⟨_, _, _, _, _, same, _⟩ | ⟨_, _, w, w', effect, same, _, _, server, none⟩
      · cases same
      · cases same
      · refine ⟨silent.clients, silent.posts, ?_, ?_⟩
        · dsimp only
          rw [none, silent.responses]
          rfl
        · dsimp only
          rw [server]
          exact silent.polls
  | deliver index keep client worker bodyLength sent rttMs now response before after found present
      taken =>
      rw [silent.responses] at found
      cases found
  | relay client worker answer sent rttMs now before after bare present taken =>
      exact ((silent.clients before (List.mem_of_getElem? present)).unanswered taken).elim

theorem run_silent {t later : Tunnel} {history : List TunnelAction} (silent : t.Silent)
    (run : tunnelMachine.Run Unprompted t history later) : later.Silent :=
  run.invariant silent fun _ _ _ held unprompted stepped =>
    held.step unprompted stepped

end Tunnel

end Astrix
