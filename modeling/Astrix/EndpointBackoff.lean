import Astrix.ClientRuns
import Mathlib.Data.List.Count
import Mathlib.Data.List.Perm.Basic

/-!
# The backoff of dead endpoints

The health monitor marks an endpoint dead and starts `_revive_endpoint`, which
sleeps for the backoff, makes the endpoint alive and doubles the backoff. The
monitor starts one more at each tick that finds the endpoint dead. The runs
below have a clock, the times at which the monitor and the watchdog wake, and
the revives that have not ended; they keep when and with what backoff each
endpoint was marked dead, and the episodes that are over.
-/

namespace Astrix

open PyRuntime SessionPool

set_option autoImplicit false

def _HealthPollInterval : ℚ := 30
def _WatchdogInterval : ℚ := 15
def _WatchdogMaxIdle : ℚ := 120

/-- One round of the loop of `_health_loop`, and whether it starts a revive. -/
def EndpointState.tick (ep : EndpointState) : EndpointState × Bool :=
  if ep.consecutiveFailures ≥ _MaxConsecutiveFailures ∧ ep.isDead = false then
    (ep.health .markDead, true)
  else if ep.isDead then (ep, true)
  else (ep, false)

/-- A task of `_revive_endpoint`: created, or asleep until it is due. -/
structure Revive where
  endpoint : Nat
  due : Option ℚ
  deriving DecidableEq

/-- A death of an endpoint that is over. -/
structure Episode where
  endpoint : Nat
  died : ℚ
  backoff : ℚ
  revived : ℚ
  deriving DecidableEq

structure TimedClient where
  state : RunningClient
  clock : ℚ
  nextTick : ℚ
  nextWatch : ℚ
  lastActivity : ℚ
  revives : List Revive
  died : Nat → ℚ × ℚ
  episodes : List Episode

inductive TimedEvent where
  | client (event : ClientEvent)
  | tick
  | watch
  | begin (index : Nat)
  | elapse (index : Nat)
  | pass (now : ℚ)
  deriving DecidableEq

/-- The event is one of the endpoint events, which have their own steps here. -/
def ClientEvent.isHealth : ClientEvent → Bool
  | .act (.health _ _) => true
  | _ => false

/-- The event makes a worker drain frames. -/
def ClientEvent.drains (client : Client) : ClientEvent → Bool
  | .act action => (client.drainCall action).any fun call =>
      (call.run client.pool).failed = none ∧ (call.run client.pool).frames ≠ []
  | .answered _ _ _ _ _ => false

namespace TimedClient

def start (clientId : Bytes) (endpoints : Nat) : TimedClient where
  state := RunningClient.start clientId endpoints
  clock := 0
  nextTick := _HealthPollInterval
  nextWatch := _WatchdogInterval
  lastActivity := 0
  revives := []
  died := fun _ => (0, 0)
  episodes := []

def client (log : TimedClient) : Client := log.state.client

def endpoints (log : TimedClient) : List EndpointState := log.client.endpoints

def setEndpoints (log : TimedClient) (endpoints : List EndpointState) : TimedClient :=
  { log with state := { log.state with client := { log.client with endpoints := endpoints } } }

/-- The endpoints for which a tick starts a revive. -/
def spawned (log : TimedClient) : List Nat :=
  (List.range log.endpoints.length).filter fun i => log.endpoints[i]?.any fun ep => ep.tick.2

def monitor (log : TimedClient) : TimedClient :=
  { log.setEndpoints (log.endpoints.map fun ep => ep.tick.1) with
    nextTick := log.clock + _HealthPollInterval
    revives := log.revives ++ log.spawned.map fun i => ⟨i, none⟩
    died := fun i =>
      match log.endpoints[i]? with
      | some ep => if ep.tick.1.isDead ∧ ep.isDead = false then (log.clock, ep.backoff)
          else log.died i
      | none => log.died i }

/-- The end of `_revive_endpoint`. -/
def revive (log : TimedClient) (i : Nat) : TimedClient :=
  match log.endpoints[i]? with
  | some ep =>
      { log.setEndpoints (log.endpoints.set i (ep.health .revive)) with
        episodes := log.episodes ++
          if ep.isDead then [⟨i, (log.died i).1, (log.died i).2, log.clock⟩] else [] }
  | none => log

def step (log : TimedClient) : TimedEvent → Option TimedClient
  | .client event =>
      if event.isHealth then none
      else (log.state.step event).map fun later =>
        { log with
          state := later
          lastActivity := if event.drains log.client then log.clock else log.lastActivity }
  | .tick => if log.client.running ∧ log.nextTick ≤ log.clock then some log.monitor else none
  | .watch =>
      if log.client.running ∧ log.nextWatch ≤ log.clock then
        let later := { log with nextWatch := log.clock + _WatchdogInterval }
        if log.clock - log.lastActivity > _WatchdogMaxIdle ∧ log.client.pool.sessionCount > 0 then
          some (later.setEndpoints (log.endpoints.map fun ep => ep.health .forceFailures))
        else some later
      else none
  | .begin index =>
      match log.revives[index]? with
      | some ⟨i, none⟩ =>
          match log.endpoints[i]? with
          | some ep =>
              some { log with revives := log.revives.set index ⟨i, some (log.clock + ep.backoff)⟩ }
          | none => none
      | _ => none
  | .elapse index =>
      match log.revives[index]? with
      | some ⟨i, some due⟩ =>
          if due ≤ log.clock then
            let later := { log with revives := log.revives.eraseIdx index }
            some (if log.client.running then later.revive i else later)
          else none
      | _ => none
  | .pass now => if log.clock ≤ now then some { log with clock := now } else none

/-- The revives of an endpoint that have not ended. -/
def pending (log : TimedClient) (i : Nat) : Nat := log.revives.countP fun r => r.endpoint = i

/-- The episodes of an endpoint that are over. -/
def deaths (log : TimedClient) (i : Nat) : Nat := log.episodes.countP fun e => e.endpoint = i

end TimedClient

def timedClient : StepMachine TimedClient TimedEvent := ⟨TimedClient.step⟩

/-- The backoff after some doublings. -/
def backoffAfter : Nat → ℚ
  | 0 => _BackoffBase
  | n + 1 => min (backoffAfter n * 2) _BackoffMax

structure BackoffRespected (log : TimedClient) : Prop where
  onePending : ∀ i, log.pending i ≤ 1
  waits : ∀ e ∈ log.episodes, e.died + e.backoff ≤ e.revived
  doubles : ∀ i ep, log.endpoints[i]? = some ep → ep.backoff = backoffAfter (log.deaths i)

/-- No tick finds an endpoint that is already dead. -/
def TimedClient.TicksAlive (log : TimedClient) : TimedEvent → Prop
  | .tick => ∀ ep ∈ log.endpoints, ep.isDead = false
  | _ => True

instance (log : TimedClient) (event : TimedEvent) : Decidable (log.TicksAlive event) :=
  match event with
  | .tick => inferInstanceAs (Decidable (∀ ep ∈ log.endpoints, ep.isDead = false))
  | .client _ | .watch | .begin _ | .elapse _ | .pass _ => isTrue trivial

section Timing

/-- What only the monitor and revives change of an endpoint. -/
def EndpointState.timing (ep : EndpointState) : Bool × ℚ := (ep.isDead, ep.backoff)

def SameTiming (before after : List EndpointState) : Prop :=
  after.map EndpointState.timing = before.map EndpointState.timing

variable {before after : List EndpointState} {i : Nat} {ep : EndpointState}

theorem SameTiming.get (same : SameTiming before after) (found : after[i]? = some ep) :
    ∃ old, before[i]? = some old ∧ old.isDead = ep.isDead ∧ old.backoff = ep.backoff := by
  have entry : (before.map EndpointState.timing)[i]? = some ep.timing := by
    rw [← same, List.getElem?_map, found, Option.map_some]
  rw [List.getElem?_map] at entry
  obtain ⟨old, present, timing⟩ := Option.map_eq_some_iff.mp entry
  exact ⟨old, present, congrArg Prod.fst timing, congrArg Prod.snd timing⟩

theorem same_timing_map (change : EndpointState → EndpointState)
    (kept : ∀ ep, (change ep).timing = ep.timing) (endpoints : List EndpointState) :
    SameTiming endpoints (endpoints.map change) := by
  rw [SameTiming, List.map_map]
  exact List.map_congr_left fun ep _ => kept ep

theorem same_timing_set (found : before[i]? = some ep) {ep' : EndpointState}
    (kept : ep'.timing = ep.timing) : SameTiming before (before.set i ep') := by
  obtain ⟨bound, _⟩ := List.getElem?_eq_some_iff.mp found
  apply List.ext_getElem?
  intro j
  rw [List.getElem?_map, List.getElem?_map, List.getElem?_set]
  by_cases here : i = j
  · subst here
    rw [if_pos rfl, if_pos bound, found, Option.map_some, Option.map_some, kept]
  · rw [if_neg here]

theorem watch_timing (ep : EndpointState) : (ep.health .forceFailures).timing = ep.timing := by
  simp only [EndpointState.health]
  split_ifs <;> rfl

theorem adapt_timing (ep : EndpointState) (count : Nat) :
    (ep.adaptBatchSize count).timing = ep.timing := by
  rw [EndpointState.adaptBatchSize]
  split_ifs <;> rfl

theorem take_answer_timing (pool : SessionPool) (ep : EndpointState) (frames : List Frame)
    (now : ℚ) (answer : Answer) :
    (takeAnswer pool ep frames now answer).ep.timing = ep.timing := by
  cases answer with
  | frames respFrames bodyLength => exact adapt_timing _ _
  | emptyBody | unreadable error => rfl
  | failed status =>
      rw [takeAnswer, handleFailure]
      split_ifs <;> rfl

theorem send_endpoints (client : Client) (index : Nat) (w : CarrierWorker) (request : Nat)
    (idle : WorkerPhase) (drain : Drain) :
    (client.send index w request idle drain).1.endpoints = client.endpoints ∧
      ((client.send index w request idle drain).1.running = true → client.running = true) := by
  rw [Client.send]
  dsimp only
  cases drain.failed with
  | some error => exact ⟨rfl, id⟩
  | none =>
      dsimp only
      split_ifs
      · exact ⟨rfl, id⟩
      · cases batchPlaintext client.clientId drain.frames with
        | error error => exact ⟨rfl, id⟩
        | ok plaintext => exact ⟨rfl, id⟩

/-- Nothing but the endpoint events and the answers touches an endpoint. -/
theorem react_endpoints {before after : Client} {request : Nat} {action : ClientAction}
    {sent : Option Post} (reacted : before.react request action = some (after, sent))
    (notHealth : ∀ index event, action ≠ .health index event) :
    after.endpoints = before.endpoints ∧ (after.running = true → before.running = true) := by
  cases Client.react_cases reacted with
  | openConn | write | conn | cooled => exact ⟨rfl, id⟩
  | work index now w ep _ _ found head present worked =>
      have result := congrArg Prod.fst worked
      dsimp only at result
      rw [← result, Client.work]
      split_ifs
      · exact ⟨rfl, id⟩
      · exact ⟨rfl, id⟩
      · exact send_endpoints _ _ _ _ _ _
  | heard index activity now w ep _ _ found waiting present worked =>
      have result := congrArg Prod.fst worked
      dsimp only at result
      rw [← result, Client.hear]
      split_ifs
      · exact send_endpoints _ _ _ _ _ _
      · exact ⟨rfl, id⟩
  | health index event => exact absurd rfl (notHealth index event)
  | stop => exact ⟨rfl, fun running => by cases running⟩

/-- What holds of an endpoint whatever the monitor and the watchdog do to it, and
behind every answer to a post of an allowed round trip time. -/
structure EndpointKept (times : ℚ → Prop) (holds : EndpointState → Prop) : Prop where
  health : ∀ ep event, holds ep → holds (ep.health event)
  answered : ∀ ep pool frames sent rttMs now answer, times rttMs → holds ep →
    holds (takeAnswer pool (ep.recordPost sent rttMs) frames now answer).ep

/-- The round trip time that an event records is allowed. -/
def PostTimes (times : ℚ → Prop) : ClientEvent → Prop
  | .act _ => True
  | .answered _ _ _ rttMs _ => times rttMs

theorem untimed (event : ClientEvent) : PostTimes (fun _ => True) event := by
  cases event <;> trivial

section Kept

variable {times : ℚ → Prop} {holds : EndpointState → Prop} {before after : Client}

theorem EndpointKept.react {request : Nat} {action : ClientAction} {sent : Option Post}
    (kept : EndpointKept times holds) (all : ∀ ep ∈ before.endpoints, holds ep)
    (reacted : before.react request action = some (after, sent)) :
    ∀ ep ∈ after.endpoints, holds ep := by
  by_cases health : ∃ index event, action = .health index event
  · obtain ⟨index, event, rfl⟩ := health
    cases Client.react_cases reacted
    intro ep member
    obtain ⟨i, found⟩ := List.mem_iff_getElem?.mp member
    rw [List.getElem?_modify] at found
    obtain ⟨old, present, rfl⟩ := Option.map_eq_some_iff.mp found
    have sound := all old (List.mem_of_getElem? present)
    split_ifs
    · exact kept.health old event sound
    · exact sound
  · have same := (react_endpoints reacted fun index event same => health ⟨index, event, same⟩).1
    rw [same]
    exact all

theorem EndpointKept.answer {index : Nat} {answer : Answer} {sent : Nat} {rttMs now : ℚ}
    (kept : EndpointKept times holds) (timed : times rttMs)
    (all : ∀ ep ∈ before.endpoints, holds ep)
    (taken : before.answered index answer sent rttMs now = some after) :
    ∀ ep ∈ after.endpoints, holds ep := by
  unfold Client.answered at taken
  split at taken
  · split at taken
    · next w found _ request frames ep posting present =>
        cases taken
        intro later member
        rcases List.mem_or_eq_of_mem_set member with old | rfl
        · exact all later old
        · exact kept.answered ep _ _ _ _ _ _ timed (all ep (List.mem_of_getElem? present))
    · cases taken
  · cases taken

/-- It holds of every endpoint in every state that is reached. -/
theorem EndpointKept.run {allowed : RunningClient → ClientEvent → Prop}
    {start final : RunningClient} {history : List ClientEvent} (kept : EndpointKept times holds)
    (timed : ∀ state event, allowed state event → PostTimes times event)
    (fresh : ∀ ep ∈ start.client.endpoints, holds ep)
    (run : clientMachine.Run allowed start history final) :
    ∀ ep ∈ final.client.endpoints, holds ep := by
  apply @StepMachine.Run.invariant _ _ _ _ _ _ _
    (fun state => ∀ ep ∈ state.client.endpoints, holds ep) run
  · exact fresh
  · intro state event later all permitted stepped
    have postTimed := timed state event permitted
    rcases client_step_cases stepped with ⟨action, sent, rfl, reacted⟩ |
      ⟨index, answer, sent, rttMs, now, rfl, taken⟩
    · exact kept.react all reacted
    · exact kept.answer postTimed all taken

end Kept

theorem answered_timing {before after : Client} {index : Nat} {answer : Answer} {sent : Nat}
    {rttMs now : ℚ} (taken : before.answered index answer sent rttMs now = some after) :
    SameTiming before.endpoints after.endpoints ∧ after.running = before.running := by
  unfold Client.answered at taken
  split at taken
  · split at taken
    · next w found _ request frames ep posting present =>
        cases taken
        refine ⟨same_timing_set present ?_, rfl⟩
        exact (take_answer_timing _ _ _ _ _).trans rfl
    · cases taken
  · cases taken

end Timing

/-- The invariant. While the client runs, an endpoint is dead exactly when a
revive of it is pending, and the sleep of that revive is no shorter than the
backoff that the endpoint died with. -/
structure Reviving (log : TimedClient) : Prop where
  alive : log.client.running = true → ∀ i ep, log.endpoints[i]? = some ep →
    log.pending i = if ep.isDead then 1 else 0
  one : ∀ i, log.pending i ≤ 1
  marked : ∀ r ∈ log.revives, (log.died r.endpoint).1 ≤ log.clock ∧
    ∀ ep, log.endpoints[r.endpoint]? = some ep → ep.backoff = (log.died r.endpoint).2
  asleep : ∀ r ∈ log.revives, ∀ due ∈ r.due,
    (log.died r.endpoint).1 + (log.died r.endpoint).2 ≤ due
  waits : ∀ e ∈ log.episodes, e.died + e.backoff ≤ e.revived
  doubles : ∀ i ep, log.endpoints[i]? = some ep → ep.backoff = backoffAfter (log.deaths i)

theorem Reviving.respected {log : TimedClient} (reviving : Reviving log) :
    BackoffRespected log := ⟨reviving.one, reviving.waits, reviving.doubles⟩

section Steps

variable {log later : TimedClient}

/-- A step that the monitor and the revives have no part in. -/
theorem Reviving.quiet (reviving : Reviving log)
    (endpoints : SameTiming log.endpoints later.endpoints)
    (running : later.client.running = true → log.client.running = true)
    (clock : log.clock ≤ later.clock) (revives : later.revives = log.revives)
    (died : later.died = log.died) (episodes : later.episodes = log.episodes) :
    Reviving later where
  alive still i ep found := by
    obtain ⟨old, present, dead, _⟩ := endpoints.get found
    rw [TimedClient.pending, revives, ← dead]
    exact reviving.alive (running still) i old present
  one i := by
    rw [TimedClient.pending, revives]
    exact reviving.one i
  marked r member := by
    rw [revives] at member
    obtain ⟨past, backoff⟩ := reviving.marked r member
    rw [died]
    refine ⟨past.trans clock, fun ep found => ?_⟩
    obtain ⟨old, present, _, same⟩ := endpoints.get found
    rw [← same]
    exact backoff old present
  asleep r member := by
    rw [revives] at member
    rw [died]
    exact reviving.asleep r member
  waits := by
    rw [episodes]
    exact reviving.waits
  doubles i ep found := by
    obtain ⟨old, present, _, same⟩ := endpoints.get found
    rw [TimedClient.deaths, episodes, ← same]
    exact reviving.doubles i old present

theorem pending_spawned (log : TimedClient) (i : Nat) :
    (log.spawned.map fun i => (⟨i, none⟩ : Revive)).countP (fun r => r.endpoint = i) =
      if (log.endpoints[i]?.any fun ep => ep.tick.2) = true then 1 else 0 := by
  have nodup : log.spawned.Nodup := List.nodup_range.filter _
  have counted : (log.spawned.map fun i => (⟨i, none⟩ : Revive)).countP
      (fun r => r.endpoint = i) = log.spawned.count i := by
    rw [List.countP_map, List.count]
    exact List.countP_congr fun j _ => by simp
  rw [counted, nodup.count]
  refine if_congr ?_ rfl rfl
  rw [TimedClient.spawned, List.mem_filter, List.mem_range, and_iff_right_iff_imp]
  intro spawns
  cases found : log.endpoints[i]? with
  | some ep => exact (List.getElem?_eq_some_iff.mp found).1
  | none =>
      rw [found] at spawns
      cases spawns

theorem pending_monitor (log : TimedClient) (i : Nat) :
    log.monitor.pending i = log.pending i +
      if (log.endpoints[i]?.any fun ep => ep.tick.2) = true then 1 else 0 := by
  rw [TimedClient.pending, TimedClient.monitor, List.countP_append, pending_spawned]
  rfl

/-- A tick that finds the endpoint alive starts a revive exactly when it marks
the endpoint dead. -/
theorem tick_alive {ep : EndpointState} (alive : ep.isDead = false) :
    ep.tick.2 = ep.tick.1.isDead ∧ ep.tick.1.backoff = ep.backoff := by
  rw [EndpointState.tick]
  split_ifs with failures dead
  · simp [EndpointState.health, failures.1]
  · exact absurd dead (by simp [alive])
  · exact ⟨alive.symm, rfl⟩

theorem tick_dead {ep : EndpointState} (dead : ep.isDead = true) : ep.tick = (ep, true) := by
  simp [EndpointState.tick, dead]

theorem monitor_endpoint {i : Nat} {ep : EndpointState}
    (found : log.monitor.endpoints[i]? = some ep) :
    ∃ old, log.endpoints[i]? = some old ∧ old.tick.1 = ep := by
  have entry : (log.endpoints.map fun old => old.tick.1)[i]? = some ep := found
  rw [List.getElem?_map] at entry
  exact Option.map_eq_some_iff.mp entry

theorem monitor_died {i : Nat} {ep : EndpointState} (found : log.endpoints[i]? = some ep)
    (alive : ep.isDead = false) (spawns : ep.tick.2 = true) :
    log.monitor.died i = (log.clock, ep.backoff) := by
  rw [(tick_alive alive).1] at spawns
  simp only [TimedClient.monitor, found]
  rw [if_pos ⟨spawns, alive⟩]

theorem spawned_endpoint {i : Nat} (spawned : i ∈ log.spawned) :
    ∃ ep, log.endpoints[i]? = some ep ∧ ep.tick.2 = true := by
  have spawns := (List.mem_filter.mp spawned).2
  exact (Option.any_eq_true _ _).mp spawns

/-- With every endpoint alive no revive of one is pending. -/
theorem Reviving.idle (reviving : Reviving log) (running : log.client.running = true)
    (alive : ∀ ep ∈ log.endpoints, ep.isDead = false) {r : Revive} (member : r ∈ log.revives) :
    log.endpoints[r.endpoint]? = none := by
  cases found : log.endpoints[r.endpoint]? with
  | none => rfl
  | some ep =>
      have none := reviving.alive running r.endpoint ep found
      rw [alive ep (List.mem_of_getElem? found)] at none
      have some : 0 < log.pending r.endpoint :=
        List.countP_pos_iff.mpr ⟨r, member, decide_eq_true rfl⟩
      rw [none] at some
      exact absurd some (by simp)

theorem Reviving.monitor (reviving : Reviving log) (running : log.client.running = true)
    (alive : ∀ ep ∈ log.endpoints, ep.isDead = false) : Reviving log.monitor where
  alive still i ep found := by
    obtain ⟨old, present, rfl⟩ := monitor_endpoint found
    have idle := alive old (List.mem_of_getElem? present)
    have before := reviving.alive running i old present
    rw [idle, if_neg (by simp)] at before
    rw [pending_monitor, before, present, Option.any_some, (tick_alive idle).1, Nat.zero_add]
  one i := by
    rw [pending_monitor]
    cases present : log.endpoints[i]? with
    | none =>
        simp only [Option.any_none, Bool.false_eq_true, if_false]
        exact reviving.one i
    | some old =>
        have before := reviving.alive running i old present
        rw [alive old (List.mem_of_getElem? present), if_neg (by simp)] at before
        rw [before]
        split_ifs <;> simp
  marked r member := by
    rcases List.mem_append.mp member with old | new
    · have none := reviving.idle running alive old
      have kept : log.monitor.died r.endpoint = log.died r.endpoint := by
        simp only [TimedClient.monitor, none]
      refine ⟨kept ▸ (reviving.marked r old).1, fun ep found => ?_⟩
      obtain ⟨_, present, _⟩ := monitor_endpoint found
      rw [none] at present
      cases present
    · obtain ⟨i, spawned, rfl⟩ := List.mem_map.mp new
      obtain ⟨ep, found, spawns⟩ := spawned_endpoint spawned
      have idle := alive ep (List.mem_of_getElem? found)
      dsimp only
      rw [monitor_died found idle spawns]
      refine ⟨le_refl log.clock, fun ep' found' => ?_⟩
      obtain ⟨old, present, rfl⟩ := monitor_endpoint found'
      cases found.symm.trans present
      exact (tick_alive idle).2
  asleep r member due started := by
    rcases List.mem_append.mp member with old | new
    · have none := reviving.idle running alive old
      have kept : log.monitor.died r.endpoint = log.died r.endpoint := by
        simp only [TimedClient.monitor, none]
      rw [kept]
      exact reviving.asleep r old due started
    · obtain ⟨i, _, rfl⟩ := List.mem_map.mp new
      cases started
  waits := reviving.waits
  doubles i ep found := by
    obtain ⟨old, present, rfl⟩ := monitor_endpoint found
    rw [(tick_alive (alive old (List.mem_of_getElem? present))).2]
    exact reviving.doubles i old present

/-- A tick that finds an endpoint dead starts a second revive of it. -/
theorem Reviving.monitor_again (reviving : Reviving log) (running : log.client.running = true)
    {ep : EndpointState} (member : ep ∈ log.endpoints) (dead : ep.isDead = true) :
    ¬ BackoffRespected log.monitor := by
  intro respected
  obtain ⟨i, found⟩ := List.getElem?_of_mem member
  have before := reviving.alive running i ep found
  rw [dead, if_pos rfl] at before
  have after := respected.onePending i
  rw [pending_monitor, before, found, Option.any_some, tick_dead dead, if_pos rfl] at after
  exact absurd after (by decide)

/-- A revive that begins to sleep is still pending. -/
theorem pending_begun {index i : Nat} (created : log.revives[index]? = some ⟨i, none⟩)
    (due : Option ℚ) (j : Nat) :
    (log.revives.set index ⟨i, due⟩).countP (fun r => r.endpoint = j) = log.pending j := by
  obtain ⟨bound, _⟩ := List.getElem?_eq_some_iff.mp created
  have same : (log.revives.set index ⟨i, due⟩).map Revive.endpoint =
      log.revives.map Revive.endpoint := by
    rw [List.map_set]
    apply List.ext_getElem?
    intro k
    rw [List.getElem?_set, List.getElem?_map]
    by_cases own : index = k
    · subst own
      rw [if_pos rfl, created, List.length_map, if_pos bound]
      rfl
    · rw [if_neg own]
  have counts := congrArg (List.count j) same
  rw [List.count, List.countP_map, List.countP_map] at counts
  refine Eq.trans (List.countP_congr fun r _ => ?_)
    (counts.trans (List.countP_congr fun r _ => ?_))
  · simp
  · simp

theorem Reviving.begin (reviving : Reviving log) {index i : Nat} {ep : EndpointState}
    (created : log.revives[index]? = some ⟨i, none⟩) (found : log.endpoints[i]? = some ep) :
    Reviving { log with
      revives := log.revives.set index ⟨i, some (log.clock + ep.backoff)⟩ } := by
  have listed := List.mem_of_getElem? created
  have pending := pending_begun created (some (log.clock + ep.backoff))
  constructor
  · intro running j other present
    exact (pending j).trans (reviving.alive running j other present)
  · intro j
    exact (pending j).le.trans (reviving.one j)
  · intro r member
    rcases List.mem_or_eq_of_mem_set member with old | rfl
    · exact reviving.marked r old
    · exact reviving.marked ⟨i, none⟩ listed
  · intro r member due started
    rcases List.mem_or_eq_of_mem_set member with old | rfl
    · exact reviving.asleep r old due started
    · cases started
      obtain ⟨past, backoff⟩ := reviving.marked ⟨i, none⟩ listed
      rw [backoff ep found]
      exact add_le_add_left past _
  · exact reviving.waits
  · exact reviving.doubles

/-- The revive at `index` has ended. -/
def TimedClient.ended (log : TimedClient) (index : Nat) : TimedClient :=
  { log with revives := log.revives.eraseIdx index }

theorem pending_ended {index i : Nat} {due : Option ℚ}
    (found : log.revives[index]? = some ⟨i, due⟩) (j : Nat) :
    log.pending j = (if i = j then 1 else 0) + (log.ended index).pending j := by
  obtain ⟨bound, here⟩ := List.getElem?_eq_some_iff.mp found
  have perm := List.getElem_cons_eraseIdx_perm bound
  rw [here] at perm
  have counts := perm.countP_eq fun r : Revive => r.endpoint = j
  rw [List.countP_cons] at counts
  rw [TimedClient.pending, TimedClient.pending, TimedClient.ended, ← counts, Nat.add_comm]
  simp

theorem Reviving.ended_alone (reviving : Reviving log) {index i : Nat} {due : Option ℚ}
    (found : log.revives[index]? = some ⟨i, due⟩) : (log.ended index).pending i = 0 := by
  have split := pending_ended found i
  have one := reviving.one i
  rw [if_pos rfl] at split
  omega

/-- A revive that ends without touching its endpoint. -/
theorem Reviving.end_idle (reviving : Reviving log) {index i : Nat} {due : Option ℚ}
    (found : log.revives[index]? = some ⟨i, due⟩)
    (idle : log.client.running = false ∨ log.endpoints[i]? = none) :
    Reviving (log.ended index) where
  alive running j ep present := by
    have differs : i ≠ j := by
      rintro rfl
      rcases idle with stopped | none
      · cases stopped.symm.trans running
      · cases none.symm.trans present
    have split := pending_ended found j
    rw [if_neg differs, Nat.zero_add] at split
    exact split.symm.trans (reviving.alive running j ep present)
  one j := by
    have split := pending_ended found j
    have one := reviving.one j
    omega
  marked r member := reviving.marked r (List.mem_of_mem_eraseIdx member)
  asleep r member := reviving.asleep r (List.mem_of_mem_eraseIdx member)
  waits := reviving.waits
  doubles := reviving.doubles

theorem deaths_append (episodes : List Episode) (e : Episode) (j : Nat) :
    (episodes ++ [e]).countP (fun e => e.endpoint = j) =
      episodes.countP (fun e => e.endpoint = j) + if e.endpoint = j then 1 else 0 := by
  rw [List.countP_append, List.countP_singleton]
  simp

/-- A pending revive is of a dead endpoint. -/
theorem Reviving.dead (reviving : Reviving log) {index i : Nat} {due : Option ℚ}
    {ep : EndpointState} (found : log.revives[index]? = some ⟨i, due⟩)
    (running : log.client.running = true) (present : log.endpoints[i]? = some ep) :
    ep.isDead = true := by
  have before := reviving.alive running i ep present
  rw [pending_ended found i, if_pos rfl, reviving.ended_alone found] at before
  by_contra lives
  rw [if_neg lives] at before
  cases before

/-- What the revive of a dead endpoint leaves. -/
structure EpisodeEnds (log : TimedClient) (i : Nat) (ep : EndpointState) (later : TimedClient) :
    Prop where
  endpoints : ∀ j, later.endpoints[j]? =
    if i = j then some (ep.health .revive) else log.endpoints[j]?
  revives : later.revives = log.revives
  died : later.died = log.died
  clock : later.clock = log.clock
  episodes : later.episodes =
    log.episodes ++ [⟨i, (log.died i).1, (log.died i).2, log.clock⟩]

theorem revive_ends {i : Nat} {ep : EndpointState} (present : log.endpoints[i]? = some ep)
    (dead : ep.isDead = true) : EpisodeEnds log i ep (log.revive i) := by
  obtain ⟨bound, _⟩ := List.getElem?_eq_some_iff.mp present
  have revived : log.revive i =
      { log.setEndpoints (log.endpoints.set i (ep.health .revive)) with
        episodes := log.episodes ++ [⟨i, (log.died i).1, (log.died i).2, log.clock⟩] } := by
    rw [TimedClient.revive, present]
    simp only [dead, if_true]
  rw [revived]
  refine ⟨fun j => ?_, rfl, rfl, rfl, rfl⟩
  have entry : (log.endpoints.set i (ep.health .revive))[j]? =
      if i = j then some (ep.health .revive) else log.endpoints[j]? := by
    rw [List.getElem?_set]
    split_ifs <;> rfl
  exact entry

/-- The end of an episode. -/
theorem Reviving.end_episode (reviving : Reviving log) {index i : Nat} {due : ℚ}
    {ep : EndpointState} (found : log.revives[index]? = some ⟨i, some due⟩)
    (elapsed : due ≤ log.clock) (running : log.client.running = true)
    (present : log.endpoints[i]? = some ep) : Reviving ((log.ended index).revive i) := by
  have listed := List.mem_of_getElem? found
  have alone := reviving.ended_alone found
  have ends := @revive_ends (log.ended index) i ep present (reviving.dead found running present)
  have others : ∀ r ∈ (log.ended index).revives, i ≠ r.endpoint := by
    rintro r member rfl
    have some : 0 < (log.ended index).pending r.endpoint :=
      List.countP_pos_iff.mpr ⟨r, member, decide_eq_true rfl⟩
    omega
  have pending : ∀ j, ((log.ended index).revive i).pending j = (log.ended index).pending j := by
    intro j
    rw [TimedClient.pending, ends.revives]
    rfl
  constructor
  · intro _ j ep' found'
    rw [ends.endpoints] at found'
    rw [pending]
    split_ifs at found' with here
    · subst here
      cases found'
      exact alone
    · have split := pending_ended found j
      rw [if_neg here, Nat.zero_add] at split
      exact split.symm.trans (reviving.alive running j ep' found')
  · intro j
    have split := pending_ended found j
    have one := reviving.one j
    have same := pending j
    omega
  · intro r member
    rw [ends.revives] at member
    rw [ends.died, ends.endpoints, if_neg (others r member), ends.clock]
    exact reviving.marked r (List.mem_of_mem_eraseIdx member)
  · intro r member
    rw [ends.revives] at member
    rw [ends.died]
    exact reviving.asleep r (List.mem_of_mem_eraseIdx member)
  · rw [ends.episodes]
    intro e member
    rcases List.mem_append.mp member with old | new
    · exact reviving.waits e old
    · rw [List.mem_singleton.mp new]
      exact (reviving.asleep ⟨i, some due⟩ listed due rfl).trans elapsed
  · intro j ep' found'
    have counts : ((log.ended index).revive i).deaths j =
        log.deaths j + if i = j then 1 else 0 := by
      rw [TimedClient.deaths, ends.episodes]
      exact deaths_append log.episodes _ j
    rw [ends.endpoints] at found'
    rw [counts]
    split_ifs at found' ⊢ with here
    · subst here
      cases found'
      have before := reviving.doubles i ep present
      simp only [EndpointState.health, backoffAfter, before]
    · exact reviving.doubles j ep' found'

theorem client_event_quiet {state next : RunningClient} {event : ClientEvent}
    (other : event.isHealth = false) (stepped : state.step event = some next) :
    SameTiming state.client.endpoints next.client.endpoints ∧
      (next.client.running = true → state.client.running = true) := by
  rcases client_step_cases stepped with ⟨action, sent, rfl, reacted⟩ |
    ⟨index, answer, sent, rttMs, now, rfl, answered⟩
  · have notHealth : ∀ index event, action ≠ .health index event := by
      rintro index event rfl
      cases other
    obtain ⟨endpoints, running⟩ := react_endpoints reacted notHealth
    rw [SameTiming, endpoints]
    exact ⟨rfl, running⟩
  · obtain ⟨timing, running⟩ := answered_timing answered
    exact ⟨timing, fun still => running ▸ still⟩

/-- A step that is not a tick. -/
theorem reviving_step (reviving : Reviving log) {event : TimedEvent} (notTick : event ≠ .tick)
    (stepped : log.step event = some later) : Reviving later := by
  cases event with
  | client event =>
      rw [TimedClient.step] at stepped
      by_cases health : event.isHealth = true
      · rw [if_pos health] at stepped
        cases stepped
      rw [if_neg health] at stepped
      obtain ⟨next, taken, rfl⟩ := Option.map_eq_some_iff.mp stepped
      obtain ⟨timing, running⟩ := client_event_quiet (Bool.eq_false_iff.mpr health) taken
      exact reviving.quiet timing running (le_refl _) rfl rfl rfl
  | tick => exact absurd rfl notTick
  | watch =>
      simp only [TimedClient.step] at stepped
      split_ifs at stepped with awake idle
      · cases stepped
        exact reviving.quiet (same_timing_map _ watch_timing _) id (le_refl _) rfl rfl rfl
      · cases stepped
        exact reviving.quiet rfl id (le_refl _) rfl rfl rfl
  | begin index =>
      simp only [TimedClient.step] at stepped
      split at stepped
      · next i created =>
          split at stepped
          · next ep found =>
              cases stepped
              exact reviving.begin created found
          · cases stepped
      · cases stepped
  | elapse index =>
      simp only [TimedClient.step] at stepped
      split at stepped
      · next i due found =>
          split_ifs at stepped with elapsed running
          · have same : (log.ended index).revive i = later := Option.some.inj stepped
            rw [← same]
            cases present : log.endpoints[i]? with
            | some ep => exact reviving.end_episode found elapsed running present
            | none =>
                have idle : (log.ended index).revive i = log.ended index := by
                  have gone : (log.ended index).endpoints[i]? = none := present
                  rw [TimedClient.revive, gone]
                rw [idle]
                exact reviving.end_idle found (.inr present)
          · have same : log.ended index = later := Option.some.inj stepped
            rw [← same]
            exact reviving.end_idle found (.inl (Bool.eq_false_iff.mpr running))
      · cases stepped
  | pass now =>
      simp only [TimedClient.step] at stepped
      split_ifs at stepped with forward
      cases stepped
      exact reviving.quiet rfl id forward rfl rfl rfl

/-- A tick keeps the backoff exactly when it finds no endpoint dead. -/
theorem reviving_tick (reviving : Reviving log) (stepped : log.step .tick = some later) :
    log.TicksAlive .tick ∧ Reviving later ∨ ¬ log.TicksAlive .tick ∧ ¬ BackoffRespected later := by
  simp only [TimedClient.step] at stepped
  split_ifs at stepped with awake
  cases stepped
  by_cases alive : ∀ ep ∈ log.endpoints, ep.isDead = false
  · exact .inl ⟨alive, reviving.monitor awake.1 alive⟩
  · refine .inr ⟨alive, ?_⟩
    simp only [not_forall, exists_prop, Bool.not_eq_false] at alive
    obtain ⟨ep, member, dead⟩ := alive
    exact reviving.monitor_again awake.1 member dead

theorem reviving_start (clientId : Bytes) (endpoints : Nat) :
    Reviving (TimedClient.start clientId endpoints) := by
  have fresh : ∀ (i : Nat) (ep : EndpointState),
      (List.replicate endpoints EndpointState.new)[i]? = some ep → ep = EndpointState.new :=
    fun i ep found => List.eq_of_mem_replicate (List.mem_of_getElem? found)
  constructor
  · intro _ i ep found
    rw [fresh i ep found]
    rfl
  · intro i
    exact Nat.zero_le 1
  · exact List.forall_mem_nil _
  · exact List.forall_mem_nil _
  · exact List.forall_mem_nil _
  · intro i ep found
    rw [fresh i ep found]
    rfl

end Steps

/-- As long as no tick finds an endpoint already dead, one revive at most is
pending for each endpoint, none makes its endpoint alive early, and every death
doubles the backoff once; the first tick that does find one breaks this. -/
theorem backoff_respected_iff {clientId : Bytes} {endpoints : Nat} {history : List TimedEvent}
    {log : TimedClient}
    (run : timedClient.Run TimedClient.TicksAlive (TimedClient.start clientId endpoints)
      history log) :
    BackoffRespected log ∧ ∀ event later, log.step event = some later →
      (BackoffRespected later ↔ log.TicksAlive event) := by
  have reviving : Reviving log := by
    refine run.invariant (reviving_start clientId endpoints) fun state event later before alive
      stepped => ?_
    by_cases tick : event = .tick
    · subst tick
      rcases reviving_tick before stepped with ⟨_, still⟩ | ⟨dead, _⟩
      · exact still
      · exact absurd alive dead
    · exact reviving_step before tick stepped
  refine ⟨reviving.respected, fun event later stepped => ?_⟩
  by_cases tick : event = .tick
  · subst tick
    rcases reviving_tick reviving stepped with ⟨alive, still⟩ | ⟨dead, broken⟩
    · exact iff_of_true still.respected alive
    · exact iff_of_false broken dead
  · apply iff_of_true (reviving_step reviving tick stepped).respected
    cases event with
    | tick => exact absurd rfl tick
    | _ => trivial

section IdleTunnel

/-- The watchdog wakes every 15 seconds, the monitor at every second time. -/
def wakeUps (first count : Nat) : List TimedEvent :=
  (List.range' first count).flatMap fun k =>
    [.pass (15 * k), .watch] ++ if k % 2 = 0 then [.tick] else []

/-- One connection sends its SYN, and nothing else happens until the watchdog has
made the endpoint fail and the monitor has marked it dead. -/
def firstDeath : List TimedEvent :=
  [.client (.act (.openConn (List.replicate SessionIDLen 1) [97, 58, 49] 0)),
    .client (.act (.work 0 0)), .client (.answered 0 .emptyBody 0 0 0)] ++
  wakeUps 1 10 ++ [.begin 0, .pass 153, .elapse 0]

/-- The next four deaths. The last of them has a backoff of 48 seconds, and the
next tick finds the endpoint still dead. -/
def fourDeaths : List TimedEvent :=
  wakeUps 11 2 ++ [.begin 0, .pass 186, .elapse 0] ++
  wakeUps 13 2 ++ [.begin 0, .pass 222, .elapse 0] ++
  wakeUps 15 2 ++ [.begin 0] ++ wakeUps 17 1 ++ [.pass 264, .elapse 0] ++
  wakeUps 18 1 ++ [.begin 0] ++ wakeUps 19 2 ++ [.begin 1] ++ wakeUps 21 1 ++
  [.pass 318, .elapse 0]

/-- The sixth death, ended by the revive of the tick that was one too many. -/
def cutShort : List TimedEvent :=
  wakeUps 22 1 ++ [.begin 1] ++ wakeUps 23 1 ++ [.pass 348, .elapse 0]

theorem first_death_respected : ∃ log : TimedClient,
    log.episodes = [⟨0, 150, 3, 153⟩] ∧ BackoffRespected log := by
  have passed : ((timedClient.exec TimedClient.TicksAlive (TimedClient.start zeroId 1)
      firstDeath).any fun log => decide (log.episodes = [⟨0, 150, 3, 153⟩])) = true := by
    decide +kernel
  obtain ⟨log, run, one⟩ := StepMachine.run_of_exec_any _ passed
  exact ⟨log, of_decide_eq_true one, (backoff_respected_iff run).1⟩

/-- Marked dead at 330 with a backoff of 96, the endpoint is alive at 348. -/
theorem stale_revive_cuts_backoff :
    ¬ ∀ history log, timedClient.Run StepMachine.anyStep (TimedClient.start zeroId 1)
      history log → BackoffRespected log := by
  intro always
  have passed : ((timedClient.exec StepMachine.anyStep (TimedClient.start zeroId 1)
      (firstDeath ++ fourDeaths ++ cutShort)).any fun log =>
        decide (⟨0, 330, 96, 348⟩ ∈ log.episodes)) = true := by
    decide +kernel
  obtain ⟨log, run, cut⟩ := StepMachine.run_of_exec_any _ passed
  have waited := (always _ log run).waits _ (of_decide_eq_true cut)
  exact absurd waited (by decide +kernel)

end IdleTunnel

end Astrix
