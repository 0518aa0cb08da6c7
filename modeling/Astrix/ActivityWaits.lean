import Astrix.BatchSizes
import Astrix.ClientDirectory
import Astrix.Library.SharedEvent
import Astrix.LostConnection
import Astrix.QuietWorkers

/-!
# Waiting for activity

All workers of a client wait for the one event of its pool, and each of them
clears it before it waits. The client below keeps the event, the waits and their
timers, and lets a worker hear of activity only as the event allows. A worker
hears of it exactly when a session was created since its wait began and its
timer has not fired; frames queued on a session that exists wake nobody.
-/

namespace Astrix

open PyRuntime SessionPool

set_option autoImplicit false

/-- The worker is in `wait_for_activity`. -/
def Client.waits (client : Client) (index : Nat) : Bool :=
  (client.workers[index]?).any fun w => w.phase = .waiting

/-- A client with the event of its pool. `since` counts the sessions created before
a worker's last wait. -/
structure NoticingClient where
  state : RunningClient
  event : SharedEvent Nat
  since : Nat → Nat

inductive NoticingEvent where
  | client (event : ClientEvent)
  | timer (index : Nat)
  deriving DecidableEq

def NoticingEvent.ofClient : NoticingEvent → Option ClientEvent
  | .client event => some event
  | .timer _ => none

namespace NoticingClient

def start (clientId : Bytes) (endpoints : Nat) : NoticingClient where
  state := RunningClient.start clientId endpoints
  event := SharedEvent.new
  since _ := 0

/-- The wait of the worker has the result that the worker acts on. -/
def Permits (noticing : NoticingClient) : ClientEvent → Prop
  | .act (.heard index activity _) => noticing.event.result index = some activity
  | _ => True

instance (noticing : NoticingClient) (event : ClientEvent) : Decidable (noticing.Permits event) :=
  match event with
  | .act (.heard index activity _) =>
      inferInstanceAs (Decidable (noticing.event.result index = some activity))
  | .act (.openConn _ _ _) | .act (.write _ _) | .act (.conn _ _) | .act (.work _ _)
  | .act (.cooled _) | .act (.health _ _) | .act .stop | .answered _ _ _ _ _ => isTrue trivial

/-- What a step of the client does with the event: `get_or_create` sets it for a new
session, and a worker with nothing to send clears it and waits. -/
def after (noticing : NoticingClient) (event : ClientEvent) (later : RunningClient) :
    NoticingClient :=
  match event with
  | .act (.openConn sid _ _) =>
      { noticing with
        state := later
        event := if noticing.state.client.pool.get sid = none then noticing.event.set
          else noticing.event }
  | .act (.work index _) =>
      if later.client.waits index then
        { state := later
          event := noticing.event.clearAndWait index
          since := Function.update noticing.since index later.client.pool.fresh }
      else { noticing with state := later }
  | .act (.heard index _ _) =>
      { noticing with state := later, event := noticing.event.leave index }
  | .act .stop => { noticing with state := later, event := noticing.event.abandon }
  | _ => { noticing with state := later }

def step (noticing : NoticingClient) : NoticingEvent → Option NoticingClient
  | .client event =>
      if noticing.Permits event then (noticing.state.step event).map (noticing.after event)
      else none
  | .timer index =>
      (noticing.event.timeOut index).map fun event => { noticing with event := event }

end NoticingClient

theorem NoticingClient.after_state (noticing : NoticingClient) (event : ClientEvent)
    (later : RunningClient) : (noticing.after event later).state = later := by
  unfold NoticingClient.after
  split
  · rfl
  · split_ifs <;> rfl
  · rfl
  · rfl
  · rfl

def noticingMachine : StepMachine NoticingClient NoticingEvent := ⟨NoticingClient.step⟩

section Steps

variable {state later : RunningClient} {event : ClientEvent}

/-- The sessions that an event creates. -/
def RunningClient.created (state : RunningClient) (event : ClientEvent) : Nat :=
  match event.opened with
  | some sid => if state.client.pool.get sid = none then 1 else 0
  | none => 0

theorem step_created (stepped : state.step event = some later) :
    later.client.pool.fresh = state.client.pool.fresh + state.created event := by
  rcases client_step_cases stepped with ⟨action, sent, rfl, reacted⟩ |
    ⟨index, answer, sent, rttMs, now, rfl, taken⟩
  · cases opens : action.opens with
    | none =>
        have none : state.created (.act action) = 0 := by
          rw [RunningClient.created, ClientEvent.opened, opens]
        rw [none]
        exact (react_frame reacted opens).2
    | some sid =>
        cases action with
        | openConn other target now =>
            have made : later.client.pool.fresh =
                (state.client.pool.getOrCreate other FlagSYN target now).1.fresh :=
              (congrArg (fun result => result.1.pool.fresh) (Option.some.inj reacted)).symm
            rw [made]
            rcases get_or_create_cases state.client.pool other FlagSYN target now with
              ⟨ref, found, same⟩ | ⟨missing, inserted⟩
            · have known : state.created (.act (.openConn other target now)) = 0 := by
                simp [RunningClient.created, ClientEvent.opened, ClientAction.opens, found]
              rw [same, known]
              rfl
            · have new : state.created (.act (.openConn other target now)) = 1 := by
                simp [RunningClient.created, ClientEvent.opened, ClientAction.opens, missing]
              rw [inserted, new]
              rfl
        | _ => cases opens
  · obtain ⟨w, request, frames, ep, found, posting, same⟩ := Client.answered_cases taken
    rw [same]
    exact take_answer_fresh _ _ _ _ _

theorem waits_replaced {before after : Client} {index : Nat} {w w' : CarrierWorker}
    (found : before.workers[index]? = some w)
    (workers : after.workers = before.workers.set index w') :
    after.waits index = decide (w'.phase = .waiting) ∧
      ∀ other, other ≠ index → after.waits other = before.waits other := by
  have bound := (List.getElem?_eq_some_iff.mp found).1
  constructor
  · rw [Client.waits, workers, List.getElem?_set_self bound]
    rfl
  · intro other different
    rw [Client.waits, workers, List.getElem?_set_ne different.symm]
    rfl

/-- A drain leaves its worker idle, ended or in its post. -/
theorem send_workers {client after : Client} {index request : Nat} {w : CarrierWorker}
    {idle : WorkerPhase} {drain : Drain} {sent : Option Post}
    (result : client.send index w request idle drain = (after, sent)) :
    ∃ phase, after.workers = client.workers.set index { w with phase := phase } ∧
      (phase = idle ∨ phase ≠ .waiting) := by
  unfold Client.send at result
  dsimp only at result
  split at result
  · cases result
    exact ⟨.ended, rfl, .inr (by decide)⟩
  · split_ifs at result with empty
    · cases result
      exact ⟨idle, rfl, .inl rfl⟩
    · split at result
      · cases result
        exact ⟨.ended, rfl, .inr (by decide)⟩
      · cases result
        exact ⟨.posting request drain.frames, rfl, .inr fun same => by cases same⟩

/-- The action leaves the event of the pool alone. -/
def ClientAction.Quiet : ClientAction → Prop
  | .write _ _ | .conn _ _ | .cooled _ | .health _ _ => True
  | .openConn _ _ _ | .work _ _ | .heard _ _ _ | .stop => False

/-- What a step changes of who waits: only the loop head begins a wait, and only the
worker itself or the end of the client ends it. -/
inductive WaitsMove (before after : Client) : ClientAction → Prop where
  | worked (index : Nat) (now : ℚ) (head : before.waits index = false)
      (others : ∀ other, other ≠ index → after.waits other = before.waits other) :
      WaitsMove before after (.work index now)
  | heard (index : Nat) (activity : Bool) (now : ℚ) (ended : after.waits index = false)
      (others : ∀ other, other ≠ index → after.waits other = before.waits other) :
      WaitsMove before after (.heard index activity now)
  | stopped (ended : ∀ index, after.waits index = false) : WaitsMove before after .stop
  | opened (sid : Bytes) (target : Text) (now : ℚ) (same : after.waits = before.waits) :
      WaitsMove before after (.openConn sid target now)
  | still (action : ClientAction) (quiet : action.Quiet) (same : after.waits = before.waits) :
      WaitsMove before after action

theorem waits_settled {before after : Client} {index : Nat} {w : CarrierWorker}
    {phase : WorkerPhase} (found : before.workers[index]? = some w) (runs : w.phase ≠ .waiting)
    (settled : phase ≠ .waiting)
    (workers : after.workers = before.workers.set index { w with phase := phase }) :
    after.waits = before.waits := by
  obtain ⟨own, others⟩ := waits_replaced found workers
  funext other
  by_cases here : other = index
  · rw [here, own, decide_eq_false settled, Client.waits, found, Option.any_some,
      decide_eq_false runs]
  · exact others other here

theorem react_waits {before after : Client} {request : Nat} {action : ClientAction}
    {sent : Option Post} (reacted : before.react request action = some (after, sent)) :
    WaitsMove before after action := by
  cases Client.react_cases reacted with
  | openConn sid target now => exact .opened sid target now rfl
  | write | conn | health => exact .still _ trivial rfl
  | stop =>
      refine .stopped fun index => ?_
      rw [Client.waits, List.getElem?_map]
      cases before.workers[index]? <;> rfl
  | cooled index w found cooling =>
      have runs : w.phase ≠ .waiting := by
        rw [cooling]
        decide
      have settled : WorkerPhase.head ≠ .waiting := by decide
      exact .still _ trivial (waits_settled found runs settled rfl)
  | work index now w ep _ _ found head present worked =>
      have unwaiting : before.waits index = false := by
        rw [Client.waits, found, Option.any_some, head]
        rfl
      unfold Client.work at worked
      split_ifs at worked with stopped dead
      · cases worked
        exact .worked index now unwaiting (waits_replaced found rfl).2
      · cases worked
        exact .worked index now unwaiting fun _ _ => rfl
      · obtain ⟨phase, workers, _⟩ := send_workers worked
        exact .worked index now unwaiting (waits_replaced found workers).2
  | heard index activity now w ep _ _ found waiting present worked =>
      unfold Client.hear at worked
      cases activity with
      | false =>
          cases worked
          have workers : (before.setPhase index w .head).workers =
              before.workers.set index { w with phase := .head } := rfl
          obtain ⟨own, others⟩ := waits_replaced found workers
          exact .heard index false now own others
      | true =>
          obtain ⟨phase, workers, settled⟩ := send_workers worked
          obtain ⟨own, others⟩ := waits_replaced found workers
          refine .heard index true now ?_ others
          rw [own]
          apply decide_eq_false
          intro same
          rcases settled with head | settled
          · cases head.symm.trans same
          · exact settled same

theorem answered_waits {index : Nat} {answer : Answer} {sent : Nat} {rttMs now : ℚ}
    {after : Client} (taken : state.client.answered index answer sent rttMs now = some after) :
    after.waits = state.client.waits := by
  obtain ⟨w, request, frames, ep, found, posting, rfl⟩ := Client.answered_cases taken
  apply waits_settled found _ _ rfl
  · rw [posting]
    exact fun same => by cases same
  · rcases take_answer_raises state.client.pool (ep.recordPost sent rttMs) frames now answer with
      ⟨_, ended⟩ | ⟨_, head | cooling⟩
    · rw [ended]
      decide
    · rw [head]
      decide
    · rw [cooling]
      decide

end Steps

/-- Exactly the workers that wait have a wait, and the waits are private. -/
structure WaitsSound (noticing : NoticingClient) : Prop where
  waits : ∀ index, (noticing.event.waits index).isSome = noticing.state.client.waits index
  told : noticing.event.Private noticing.state.client.pool.fresh noticing.since

section Runs

variable {noticing later : NoticingClient}

theorem waits_start (clientId : Bytes) (endpoints : Nat) :
    WaitsSound (NoticingClient.start clientId endpoints) where
  waits index := by
    have heads : ∀ w ∈ (NoticingClient.start clientId endpoints).state.client.workers,
        w.phase = .head := by
      intro w member
      simp only [NoticingClient.start, RunningClient.start, Client.start, List.mem_flatMap,
        List.mem_map] at member
      obtain ⟨_, _, _, _, rfl⟩ := member
      rfl
    rw [Client.waits]
    cases found : (NoticingClient.start clientId endpoints).state.client.workers[index]? with
    | none => rfl
    | some w =>
        rw [Option.any_some, heads w (List.mem_of_getElem? found)]
        rfl
  told := SharedEvent.private_new _ _

theorem waits_kept (sound : WaitsSound noticing) {event : ClientEvent} {state : RunningClient}
    (stepped : noticing.state.step event = some state) (opensNone : event.opened = none)
    (same : state.client.waits = noticing.state.client.waits) :
    WaitsSound { noticing with state := state } := by
  have fresh := step_created stepped
  rw [RunningClient.created, opensNone] at fresh
  refine ⟨fun index => (sound.waits index).trans (congrFun same index).symm, ?_⟩
  dsimp only
  rw [fresh]
  exact sound.told

theorem waits_opened (sound : WaitsSound noticing) {sid : Bytes} {target : Text} {now : ℚ}
    {state : RunningClient}
    (stepped : noticing.state.step (.act (.openConn sid target now)) = some state)
    (same : state.client.waits = noticing.state.client.waits) :
    WaitsSound (noticing.after (.act (.openConn sid target now)) state) := by
  have fresh := step_created stepped
  rw [RunningClient.created] at fresh
  dsimp only [ClientEvent.opened, ClientAction.opens] at fresh
  rw [NoticingClient.after]
  by_cases missing : noticing.state.client.pool.get sid = none
  · rw [if_pos missing] at fresh
    rw [if_pos missing]
    refine ⟨fun index => ?_, ?_⟩
    · dsimp only
      rw [SharedEvent.set_waits, same]
      exact sound.waits index
    · dsimp only
      rw [fresh]
      exact sound.told.set
  · rw [if_neg missing] at fresh
    rw [if_neg missing]
    refine ⟨fun index => (sound.waits index).trans (congrFun same index).symm, ?_⟩
    dsimp only
    rw [fresh]
    exact sound.told

theorem waits_worked (sound : WaitsSound noticing) {index : Nat} {now : ℚ} {state : RunningClient}
    (stepped : noticing.state.step (.act (.work index now)) = some state)
    (head : noticing.state.client.waits index = false)
    (others : ∀ other, other ≠ index →
      state.client.waits other = noticing.state.client.waits other) :
    WaitsSound (noticing.after (.act (.work index now)) state) := by
  have fresh := step_created stepped
  rw [RunningClient.created] at fresh
  dsimp only [ClientEvent.opened, ClientAction.opens, Nat.add_zero] at fresh
  rw [NoticingClient.after]
  by_cases idle : state.client.waits index = true
  · rw [if_pos idle]
    refine ⟨fun other => ?_, ?_⟩
    · dsimp only [SharedEvent.clearAndWait]
      by_cases own : other = index
      · rw [own, Function.update_self, idle]
        rfl
      · rw [Function.update_of_ne own, others other own]
        exact sound.waits other
    · dsimp only
      rw [fresh]
      exact sound.told.clearAndWait index
  · rw [if_neg idle]
    refine ⟨fun other => ?_, ?_⟩
    · by_cases own : other = index
      · rw [own, Bool.eq_false_iff.mpr idle, ← head]
        exact sound.waits index
      · rw [others other own]
        exact sound.waits other
    · dsimp only
      rw [fresh]
      exact sound.told

theorem waits_heard (sound : WaitsSound noticing) {index : Nat} {activity : Bool} {now : ℚ}
    {state : RunningClient}
    (stepped : noticing.state.step (.act (.heard index activity now)) = some state)
    (ended : state.client.waits index = false)
    (others : ∀ other, other ≠ index →
      state.client.waits other = noticing.state.client.waits other) :
    WaitsSound (noticing.after (.act (.heard index activity now)) state) := by
  have fresh := step_created stepped
  rw [RunningClient.created] at fresh
  dsimp only [ClientEvent.opened, ClientAction.opens, Nat.add_zero] at fresh
  rw [NoticingClient.after]
  refine ⟨fun other => ?_, ?_⟩
  · dsimp only [SharedEvent.leave]
    by_cases own : other = index
    · rw [own, Function.update_self, ended]
      rfl
    · rw [Function.update_of_ne own, others other own]
      exact sound.waits other
  · dsimp only
    rw [fresh]
    exact sound.told.leave index

theorem waits_stopped {state : RunningClient}
    (stepped : noticing.state.step (.act .stop) = some state)
    (ended : ∀ index, state.client.waits index = false) :
    WaitsSound (noticing.after (.act .stop) state) := by
  have fresh := step_created stepped
  rw [RunningClient.created] at fresh
  dsimp only [ClientEvent.opened, ClientAction.opens, Nat.add_zero] at fresh
  rw [NoticingClient.after]
  refine ⟨fun index => (ended index).symm, ?_⟩
  dsimp only
  rw [fresh]
  exact SharedEvent.Private.abandon

theorem waits_step {event : NoticingEvent} (sound : WaitsSound noticing)
    (stepped : noticing.step event = some later) : WaitsSound later := by
  cases event with
  | timer index =>
      obtain ⟨event, fired, rfl⟩ := Option.map_eq_some_iff.mp stepped
      refine ⟨fun other => ?_, sound.told.timeOut fired⟩
      exact (SharedEvent.time_out_waits fired other).trans (sound.waits other)
  | client event =>
      simp only [NoticingClient.step] at stepped
      split_ifs at stepped with permitted
      obtain ⟨state, advanced, rfl⟩ := Option.map_eq_some_iff.mp stepped
      rcases client_step_cases advanced with ⟨action, sent, rfl, reacted⟩ |
        ⟨index, answer, sent, rttMs, now, rfl, taken⟩
      · cases react_waits reacted with
        | worked index now head others => exact waits_worked sound advanced head others
        | heard index activity now ended others => exact waits_heard sound advanced ended others
        | stopped ended => exact waits_stopped advanced ended
        | opened sid target now same => exact waits_opened sound advanced same
        | still _ quiet same =>
            cases action with
            | write | conn | cooled | health => exact waits_kept sound advanced rfl same
            | openConn | work | heard | stop => cases quiet
      · exact waits_kept sound advanced rfl (answered_waits taken)

/-- In every run of a client, with all its workers sharing the event of the pool: what
the client does is a run without the event, and the wait of a worker can end with
activity exactly when a session was created since it began and its timer has not
fired, and without when the timer has fired. -/
theorem waits_are_private {clientId : Bytes} {endpoints : Nat} {history : List NoticingEvent}
    (run : noticingMachine.Run StepMachine.anyStep (NoticingClient.start clientId endpoints)
      history noticing) :
    clientMachine.Run StepMachine.anyStep (RunningClient.start clientId endpoints)
        (history.filterMap NoticingEvent.ofClient) noticing.state ∧
      ∀ index activity now, noticing.state.client.waits index = true →
        ((noticing.step (.client (.act (.heard index activity now)))).isSome = true ↔
          (noticing.state.step (.act (.heard index activity now))).isSome = true ∧
            ((activity = true ∧ noticing.since index < noticing.state.client.pool.fresh ∧
                noticing.event.waits index ≠ some .timedOut) ∨
              (activity = false ∧ noticing.event.waits index = some .timedOut))) := by
  constructor
  · induction run with
    | start => exact .start
    | @next history before later event prior _ stepped ih =>
        rw [List.filterMap_append]
        cases event with
        | timer index =>
            obtain ⟨_, _, rfl⟩ := Option.map_eq_some_iff.mp stepped
            rw [List.filterMap_cons_none rfl, List.filterMap_nil, List.append_nil]
            exact ih
        | client event =>
            simp only [noticingMachine, NoticingClient.step] at stepped
            split_ifs at stepped
            obtain ⟨state, advanced, rfl⟩ := Option.map_eq_some_iff.mp stepped
            rw [NoticingClient.after_state]
            exact ih.next trivial advanced
  · intro index activity now waits
    have sound : WaitsSound noticing :=
      run.invariant (waits_start clientId endpoints) fun _ _ _ before _ stepped =>
        waits_step before stepped
    have present := (sound.waits index).trans waits
    rw [← sound.told.result_iff present activity, NoticingClient.step]
    split_ifs with permitted
    · rw [Option.isSome_map]
      exact (and_iff_left permitted).symm
    · exact iff_of_false (fun none => by cases none) fun both => permitted both.2

/-- Two workers wait when a session is opened; the third has nothing to send and
clears the event before they run. -/
def clearedBehind : List NoticingEvent :=
  [.client (.act (.work 0 0)), .client (.act (.work 1 0)), .client (opens 0),
    .client (.act (.work 2 0))]

/-- The two hear of the session, the third does not. -/
theorem cleared_behind_heard : ∃ noticing,
    noticingMachine.Run StepMachine.anyStep (NoticingClient.start (List.replicate ClientIDLen 7) 1)
      clearedBehind noticing ∧
    noticing.event.value = false ∧
    noticing.event.waits 1 = some .woken ∧ noticing.since 1 < noticing.state.client.pool.fresh ∧
    ¬ (noticing.step (.client (.act (.heard 2 true 0)))).isSome = true := by
  obtain ⟨noticing, run, checked⟩ : ∃ noticing,
      noticingMachine.Run StepMachine.anyStep
        (NoticingClient.start (List.replicate ClientIDLen 7) 1) clearedBehind noticing ∧
      decide (noticing.event.value = false ∧ noticing.event.waits 1 = some .woken ∧
        noticing.state.client.waits 1 = true ∧ noticing.state.client.waits 2 = true ∧
        noticing.since 2 = noticing.state.client.pool.fresh ∧
        (noticing.step (.client (.act (.heard 1 true 0)))).isSome = true) = true :=
    StepMachine.run_of_exec_any _ (by decide +kernel)
  obtain ⟨cleared, woken, waits, third, late, hears⟩ := of_decide_eq_true checked
  have told := (waits_are_private run).2
  refine ⟨noticing, run, cleared, woken, ?_, fun heard => ?_⟩
  · rcases ((told 1 true 0 waits).mp hears).2 with ⟨_, since, _⟩ | ⟨unheard, _⟩
    · exact since
    · cases unheard
  · rcases ((told 2 true 0 third).mp heard).2 with ⟨_, since, _⟩ | ⟨unheard, _⟩
    · exact absurd since (by rw [late]; exact Nat.lt_irrefl _)
    · cases unheard

end Runs

end Astrix
