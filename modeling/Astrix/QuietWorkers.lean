import Astrix.BlockedHeads
import Astrix.Library.StepCost

/-!
# Workers that fall silent

A carrier starts its workers once. One that ends, at a drain or an encoding that
raises or at an answer that cannot be decoded, is never started again, and when
the last one has ended the client only collects frames. A worker of a dead
endpoint keeps going round, but it posts only if it was already waiting for
activity when the endpoint died.
-/

namespace Astrix

open PyRuntime SessionPool

set_option autoImplicit false

def WorkerPhase.Posting : WorkerPhase → Prop
  | .posting _ _ => True
  | _ => False

/-- A turn of a worker: how its phase changes and what it posts. It takes
frames from the loop head only if it is `ready`, and goes on behind a post only
when it is `answered`. -/
inductive Turn (ready answered : Prop) : WorkerPhase → WorkerPhase → Option Post → Prop where
  | waits (alive : ready) : Turn ready answered .head .waiting none
  | posts (phase : WorkerPhase) (request : Nat) (frames : List Frame) (post : Post)
      (draining : phase = .waiting ∨ phase = .head ∧ ready) :
      Turn ready answered phase (.posting request frames) (some post)
  | rests (phase next : WorkerPhase) (runs : phase ≠ .ended) (left : phase.Posting → answered)
      (settled : next = .head ∨ next = .cooling) : Turn ready answered phase next none
  | ends (phase : WorkerPhase) (runs : phase ≠ .ended) (left : phase.Posting → answered) :
      Turn ready answered phase .ended none

namespace Client

/-- The endpoint of the worker is not marked dead. -/
def Alive (client : Client) (w : CarrierWorker) : Prop :=
  ∃ ep, client.endpoints[w.endpoint]? = some ep ∧ ep.isDead = false

/-- The drain ends its worker: it raises, or its batch cannot be encoded. -/
def Raises (client : Client) (call : DrainCall) : Prop :=
  (call.run client.pool).failed ≠ none ∨
    (call.run client.pool).frames ≠ [] ∧ ¬ Encodes client.clientId (call.run client.pool).frames

instance (client : Client) (call : DrainCall) : Decidable (client.Raises call) :=
  inferInstanceAs (Decidable (_ ∨ _))

/-- Every worker has ended. -/
def AllEnded (client : Client) : Prop := ∀ w ∈ client.workers, w.phase = .ended

/-- A stopped client has no worker left. -/
def EndedIfStopped (client : Client) : Prop := client.running = true ∨ client.AllEnded

/-- The worker that an action makes run. -/
def actor (client : Client) : ClientAction → Option CarrierWorker
  | .work index _ | .heard index _ _ => client.workers[index]?
  | _ => none

/-- Everything a step can do to the workers. -/
inductive WorkersMove (before after : Client) (actor : Option CarrierWorker)
    (raises answered : Prop) (sent : Option Post) : Prop where
  | still (workers : after.workers = before.workers) (quiet : ¬ raises) (silent : sent = none)
  | stopped (halted : after.running = false) (silent : sent = none)
      (workers : after.workers = before.workers.map fun w => { w with phase := .ended })
  | turn (index : Nat) (w : CarrierWorker) (phase : WorkerPhase)
      (found : before.workers[index]? = some w)
      (acting : ∀ post, sent = some post → actor = some w)
      (workers : after.workers = before.workers.set index { w with phase := phase })
      (raised : raises ↔ phase = .ended)
      (turned : Turn (before.Alive w) answered w.phase phase sent)

section Moves

variable {before after : Client} {request : Nat}

/-- What a drain leads to for the worker that made it. -/
theorem send_moves {index : Nat} {w : CarrierWorker} {idle : WorkerPhase} {call : DrainCall}
    {sent : Option Post} (found : before.workers[index]? = some w)
    (draining : w.phase = .waiting ∨ w.phase = .head ∧ before.Alive w)
    (idles : Turn (before.Alive w) False w.phase idle none) (awake : idle ≠ .ended)
    (result : before.send index w request idle (call.run before.pool) = (after, sent)) :
    WorkersMove before after (some w) (before.Raises call) False sent := by
  have runs : w.phase ≠ .ended := by
    rcases draining with waiting | ⟨head, _⟩
    · rw [waiting]
      decide
    · rw [head]
      decide
  have left : w.phase.Posting → False := by
    rcases draining with waiting | ⟨head, _⟩
    · rw [waiting]
      exact id
    · rw [head]
      exact id
  unfold Client.send at result
  dsimp only at result
  cases failed : (call.run before.pool).failed with
  | some error =>
      rw [failed] at result
      cases result
      have raised : before.Raises call := by
        refine .inl fun none => ?_
        cases failed.symm.trans none
      exact .turn index w .ended found (fun _ _ => rfl) rfl (iff_of_true raised rfl)
        (.ends _ runs left)
  | none =>
      rw [failed] at result
      dsimp only at result
      split_ifs at result with empty
      · cases result
        have quiet : ¬ before.Raises call := by
          intro raised
          rcases raised with error | ⟨some, _⟩
          · exact error failed
          · exact some empty
        exact .turn index w idle found (fun _ _ => rfl) rfl (iff_of_false quiet awake) idles
      · cases written : batchPlaintext before.clientId (call.run before.pool).frames with
        | error error =>
            rw [written] at result
            cases result
            have unencodable : ¬ Encodes before.clientId (call.run before.pool).frames := by
              intro encodes
              rw [Encodes, written] at encodes
              cases encodes
            exact .turn index w .ended found (fun _ _ => rfl) rfl
              (iff_of_true (.inr ⟨empty, unencodable⟩) rfl) (.ends _ runs left)
        | ok plaintext =>
            rw [written] at result
            cases result
            have quiet : ¬ before.Raises call := by
              intro raised
              rcases raised with error | ⟨_, unencodable⟩
              · exact error failed
              · apply unencodable
                rw [Encodes, written]
                rfl
            refine .turn index w _ found (fun _ _ => rfl) rfl ?_ (.posts _ request _ _ draining)
            exact iff_of_false quiet fun same => by cases same

/-- The drains of an action, and whether they end its worker. -/
def ActRaises (client : Client) (action : ClientAction) : Prop :=
  ∃ call, client.drainCall action = some call ∧ client.Raises call

theorem act_raises_iff {client : Client} {action : ClientAction} {call : DrainCall}
    (called : client.drainCall action = some call) :
    client.ActRaises action ↔ client.Raises call := by
  constructor
  · intro raises
    obtain ⟨other, same, raised⟩ := raises
    cases called.symm.trans same
    exact raised
  · intro raised
    exact ⟨call, called, raised⟩

theorem act_raises_none {client : Client} {action : ClientAction}
    (uncalled : client.drainCall action = none) : ¬ client.ActRaises action := by
  intro raises
  obtain ⟨call, called, _⟩ := raises
  cases uncalled.symm.trans called

instance (client : Client) (action : ClientAction) : Decidable (client.ActRaises action) :=
  match called : client.drainCall action with
  | some _ => decidable_of_iff _ (act_raises_iff called).symm
  | none => isFalse (act_raises_none called)

/-- A client moves its workers by turns, until it stops them all. -/
theorem react_moves {action : ClientAction} {sent : Option Post}
    (endedIf : before.EndedIfStopped)
    (reacted : before.react request action = some (after, sent)) :
    WorkersMove before after (before.actor action) (before.ActRaises action) False sent := by
  cases react_cases reacted with
  | openConn | write | conn | health => exact .still rfl (act_raises_none rfl) rfl
  | stop => exact .stopped rfl rfl rfl
  | cooled index w found cooling =>
      have turned : Turn (before.Alive w) False w.phase .head none :=
        .rests _ _ (by rw [cooling]; decide) (by rw [cooling]; exact id) (.inl rfl)
      refine .turn index w .head found (fun _ none => by cases none) rfl ?_ turned
      exact iff_of_false (act_raises_none rfl) (by decide)
  | work index now w ep _ _ found head present worked =>
      have running : before.running = true := by
        apply endedIf.resolve_right
        intro ended
        cases (ended w (List.mem_of_getElem? found)).symm.trans head
      have actor : before.actor (.work index now) = some w := found
      rw [actor]
      unfold work at worked
      rw [if_neg (by rw [running]; decide)] at worked
      split_ifs at worked with dead
      · cases worked
        refine .still rfl (act_raises_none ?_) rfl
        simp [drainCall, workerCall, found, present, dead]
      · have called : before.drainCall (.work index now) =
            some ⟨ep.batchSize, w.workerId, now⟩ := by
          simp [drainCall, workerCall, found, present, head, running, dead]
        have alive : before.Alive w := ⟨ep, present, Bool.eq_false_iff.mpr dead⟩
        have raised := act_raises_iff called
        rw [raised]
        apply send_moves found (.inr ⟨head, alive⟩) _ (by decide) worked
        rw [head]
        exact .waits alive
  | heard index activity now w ep _ _ found waiting present worked =>
      have actor : before.actor (.heard index activity now) = some w := found
      rw [actor]
      have idles : Turn (before.Alive w) False w.phase .head none :=
        .rests _ _ (by rw [waiting]; decide) (by rw [waiting]; exact id) (.inl rfl)
      unfold hear at worked
      cases activity with
      | false =>
          cases worked
          refine .turn index w .head found (fun _ none => by cases none) rfl ?_ idles
          exact iff_of_false (act_raises_none rfl) (by decide)
      | true =>
          have called : before.drainCall (.heard index true now) =
              some ⟨ep.batchSize, w.workerId, now⟩ := by
            simp [drainCall, workerCall, found, present, waiting]
          have raised := act_raises_iff called
          rw [raised]
          exact send_moves found (.inl waiting) idles (by decide) worked

end Moves

end Client

/-- The answer makes its worker raise. -/
def Answer.Raises : Answer → Prop
  | .unreadable _ => True
  | _ => False

instance (answer : Answer) : Decidable answer.Raises :=
  match answer with
  | .unreadable _ => isTrue trivial
  | .frames _ _ | .emptyBody | .failed _ => isFalse id

theorem take_answer_raises (pool : SessionPool) (ep : EndpointState) (frames : List Frame)
    (now : ℚ) (answer : Answer) :
    answer.Raises ∧ (takeAnswer pool ep frames now answer).finish.phase = .ended ∨
      ¬ answer.Raises ∧ ((takeAnswer pool ep frames now answer).finish.phase = .head ∨
        (takeAnswer pool ep frames now answer).finish.phase = .cooling) := by
  cases answer with
  | frames | emptyBody => exact .inr ⟨id, .inl rfl⟩
  | unreadable error => exact .inl ⟨trivial, rfl⟩
  | failed status =>
      rw [takeAnswer, handleFailure]
      split_ifs
      · exact .inr ⟨id, .inr rfl⟩
      · exact .inr ⟨id, .inl rfl⟩

def ClientEvent.Answered : ClientEvent → Prop
  | .act _ => False
  | .answered _ _ _ _ _ => True

namespace RunningClient

/-- The event makes the worker that it concerns raise. -/
def Raises (state : RunningClient) : ClientEvent → Prop
  | .act action => state.client.ActRaises action
  | .answered _ answer _ _ _ => answer.Raises

instance (state : RunningClient) (event : ClientEvent) : Decidable (state.Raises event) :=
  match event with
  | .act action => inferInstanceAs (Decidable (state.client.ActRaises action))
  | .answered _ answer _ _ _ => inferInstanceAs (Decidable answer.Raises)

def posted (state : RunningClient) : ClientEvent → Option Post
  | .act action => (state.client.react state.requests action).bind Prod.snd
  | .answered _ _ _ _ _ => none

def actor (state : RunningClient) : ClientEvent → Option CarrierWorker
  | .act action => state.client.actor action
  | .answered _ _ _ _ _ => none

end RunningClient

theorem step_moves {state later : RunningClient} {event : ClientEvent}
    (endedIf : state.client.EndedIfStopped) (stepped : state.step event = some later) :
    state.client.WorkersMove later.client (state.actor event) (state.Raises event)
      event.Answered (state.posted event) := by
  rcases client_step_cases stepped with ⟨action, sent, rfl, reacted⟩ |
    ⟨index, answer, sent, rttMs, now, rfl, taken⟩
  · have posted : state.posted (.act action) = sent := by
      rw [RunningClient.posted, reacted]
      rfl
    rw [posted]
    exact Client.react_moves endedIf reacted
  · obtain ⟨w, request, frames, ep, found, posting, same⟩ := Client.answered_cases taken
    have workers := congrArg Client.workers same
    have runs : w.phase ≠ .ended := by
      rw [posting]
      exact fun same => by cases same
    rcases take_answer_raises state.client.pool (ep.recordPost sent rttMs) frames now answer with
      ⟨raises, ended⟩ | ⟨quiet, settled⟩
    · rw [ended] at workers
      exact .turn index w .ended found (fun _ none => by cases none) workers
        (iff_of_true raises rfl) (.ends _ runs fun _ => trivial)
    · refine .turn index w _ found (fun _ none => by cases none) workers ?_
        (.rests _ _ runs (fun _ => trivial) settled)
      refine iff_of_false quiet fun ended => ?_
      rw [ended] at settled
      rcases settled with same | same <;> cases same

section Counting

/-- Replacing one element of a list, seen by a count. -/
theorem count_set {α : Type} {p : α → Bool} {items : List α} {index : Nat} {old : α}
    (found : items[index]? = some old) (new : α) :
    (items.set index new).countP p + (if p old then 1 else 0) =
      items.countP p + if p new then 1 else 0 := by
  induction items generalizing index with
  | nil => cases found
  | cons first rest ih =>
      cases index with
      | zero =>
          cases found
          simp only [List.set_cons_zero, List.countP_cons]
          omega
      | succ index =>
          have later := ih found
          simp only [List.set_cons_succ, List.countP_cons]
          omega

namespace Client

def endedWorkers (client : Client) : Nat := client.workers.countP fun w => w.phase = .ended

/-- The workers of an endpoint that are in `wait_for_activity`. -/
def waitingFor (client : Client) (e : Nat) : Nat :=
  client.workers.countP fun w => w.endpoint = e ∧ w.phase = .waiting

theorem ended_replaced {before after : Client} {index : Nat} {w : CarrierWorker}
    {phase : WorkerPhase} (found : before.workers[index]? = some w) (runs : w.phase ≠ .ended)
    (workers : after.workers = before.workers.set index { w with phase := phase }) :
    after.endedWorkers = before.endedWorkers + if phase = .ended then 1 else 0 := by
  have counted := @count_set _ (fun w => decide (w.phase = .ended)) _ _ _ found
    { w with phase := phase }
  rw [← workers] at counted
  simpa [endedWorkers, runs] using counted

theorem waiting_replaced {before after : Client} {index : Nat} {w : CarrierWorker}
    {phase : WorkerPhase} (found : before.workers[index]? = some w)
    (workers : after.workers = before.workers.set index { w with phase := phase }) (e : Nat) :
    after.waitingFor e + (if w.endpoint = e ∧ w.phase = .waiting then 1 else 0) =
      before.waitingFor e + if w.endpoint = e ∧ phase = .waiting then 1 else 0 := by
  have counted := @count_set _ (fun w => decide (w.endpoint = e ∧ w.phase = .waiting)) _ _ _ found
    { w with phase := phase }
  rw [← workers] at counted
  simp only [decide_eq_true_eq] at counted
  exact counted

end Client

end Counting

section Ended

variable {state later : RunningClient} {event : ClientEvent}

theorem Turn.runs {ready answered : Prop} {phase next : WorkerPhase} {sent : Option Post}
    (turned : Turn ready answered phase next sent) : phase ≠ .ended := by
  cases turned with
  | waits => decide
  | posts _ request frames post draining =>
      rcases draining with waiting | ⟨head, _⟩
      · rw [waiting]
        decide
      · rw [head]
        decide
  | rests _ _ runs | ends _ runs => exact runs

theorem Turn.draining {ready answered : Prop} {phase next : WorkerPhase} {post : Post}
    (turned : Turn ready answered phase next (some post)) :
    phase = .waiting ∨ phase = .head ∧ ready := by
  cases turned with
  | posts _ _ _ _ draining => exact draining

theorem Turn.starts_waiting {ready answered : Prop} {phase : WorkerPhase} {sent : Option Post}
    (turned : Turn ready answered phase .waiting sent) : ready := by
  cases turned with
  | waits alive => exact alive
  | rests _ _ _ _ settled => rcases settled with same | same <;> cases same

theorem send_running (client : Client) (index : Nat) (w : CarrierWorker) (request : Nat)
    (idle : WorkerPhase) (drain : Drain) :
    (client.send index w request idle drain).1.running = client.running := by
  rw [Client.send]
  dsimp only
  cases drain.failed with
  | some error => rfl
  | none =>
      dsimp only
      split_ifs
      · rfl
      · cases batchPlaintext client.clientId drain.frames <;> rfl

theorem react_running {before after : Client} {request : Nat} {action : ClientAction}
    {sent : Option Post} (reacted : before.react request action = some (after, sent))
    (goesOn : action ≠ .stop) : after.running = before.running := by
  cases Client.react_cases reacted with
  | stop => exact absurd rfl goesOn
  | openConn | write | conn | cooled | health => rfl
  | work index now w ep _ _ found head present worked =>
      have result := congrArg Prod.fst worked
      dsimp only at result
      rw [← result, Client.work]
      split_ifs
      · rfl
      · rfl
      · exact send_running _ _ _ _ _ _
  | heard index activity now w ep _ _ found waiting present worked =>
      have result := congrArg Prod.fst worked
      dsimp only at result
      rw [← result, Client.hear]
      split_ifs
      · exact send_running _ _ _ _ _ _
      · rfl

/-- Only `stop` stops a client. -/
theorem step_running (stepped : state.step event = some later) (goesOn : event ≠ .act .stop) :
    later.client.running = state.client.running := by
  rcases client_step_cases stepped with ⟨action, sent, rfl, reacted⟩ |
    ⟨index, answer, sent, rttMs, now, rfl, taken⟩
  · exact react_running reacted fun stops => goesOn (congrArg ClientEvent.act stops)
  · obtain ⟨_, _, _, _, _, _, same⟩ := Client.answered_cases taken
    rw [same]

/-- One worker ends at each event that raises. -/
def RunningClient.endings (state : RunningClient) (event : ClientEvent) : Nat :=
  if state.Raises event then 1 else 0

theorem step_ends (running : state.client.running = true) (goesOn : event ≠ .act .stop)
    (stepped : state.step event = some later) :
    later.client.endedWorkers = state.client.endedWorkers + state.endings event ∧
      later.client.workers.length = state.client.workers.length := by
  rw [RunningClient.endings]
  cases step_moves (.inl running) stepped with
  | still workers quiet =>
      rw [Client.endedWorkers, Client.endedWorkers, workers, if_neg quiet]
      exact ⟨rfl, rfl⟩
  | stopped halted =>
      have still := (step_running stepped goesOn).trans running
      cases still.symm.trans halted
  | turn index w phase found _ workers raised turned =>
      rw [Client.ended_replaced found turned.runs workers, workers, List.length_set]
      simp only [raised, and_self]

theorem Client.all_ended_iff (client : Client) :
    client.AllEnded ↔ client.endedWorkers = client.workers.length := by
  rw [Client.endedWorkers, List.countP_eq_length]
  simp only [Client.AllEnded, decide_eq_true_eq]

theorem ended_worker_calls (ended : state.client.AllEnded) (action : ClientAction) :
    state.client.drainCall action = none := by
  have none : ∀ index phase ready now, phase ≠ WorkerPhase.ended →
      state.client.workerCall index phase ready now = none := by
    intro index phase ready now runs
    unfold Client.workerCall
    split
    · next w found =>
        have finished := ended w (List.mem_of_getElem? found)
        split
        · rw [finished, if_neg fun both => runs both.1.symm]
        · rfl
    · rfl
  cases action with
  | work index now => exact none _ _ _ _ (by decide)
  | heard index activity now =>
      cases activity with
      | true => exact none _ _ _ _ (by decide)
      | false => rfl
  | openConn | write | conn | cooled | health | stop => rfl

theorem ended_workers_silent (ended : state.client.AllEnded) {action : ClientAction}
    {after : Client} {request : Nat} {sent : Option Post}
    (reacted : state.client.react request action = some (after, sent)) : sent = none := by
  cases Client.react_reacted reacted with
  | posted _ call called =>
      cases (ended_worker_calls ended action).symm.trans called
  | opened | wrote | acted | idle | still => rfl

theorem react_ended {before after : Client} {request : Nat} {action : ClientAction}
    {sent : Option Post} (ended : before.AllEnded)
    (reacted : before.react request action = some (after, sent)) : after.AllEnded := by
  have none : ∀ (index : Nat) (w : CarrierWorker), before.workers[index]? = some w →
      w.phase = .ended := fun index w found => ended w (List.mem_of_getElem? found)
  cases Client.react_cases reacted with
  | openConn | write | conn | health => exact ended
  | cooled index w found cooling => cases (none index w found).symm.trans cooling
  | work index now w ep _ _ found head => cases (none index w found).symm.trans head
  | heard index activity now w ep _ _ found waiting =>
      cases (none index w found).symm.trans waiting
  | stop =>
      intro w member
      obtain ⟨old, _, rfl⟩ := List.mem_map.mp member
      rfl

/-- Ended workers stay ended, and then nothing leaves a queue. -/
theorem ended_step (ended : state.client.AllEnded) (stepped : state.step event = some later) :
    later.client.AllEnded ∧ QueuesGrow state.client.pool later.client.pool := by
  rcases client_step_cases stepped with ⟨action, sent, rfl, reacted⟩ |
    ⟨index, answer, sent, rttMs, now, rfl, taken⟩
  · exact ⟨react_ended ended reacted, react_grows reacted (ended_worker_calls ended action)⟩
  · obtain ⟨w, request, frames, ep, found, posting, _⟩ := Client.answered_cases taken
    cases (ended w (List.mem_of_getElem? found)).symm.trans posting

/-- Nothing is ever sent again, and the queues keep all that is put on them. -/
def SilentFrom (state : RunningClient) : Prop :=
  ∀ (continued : List ClientEvent) (later : RunningClient),
    clientMachine.Run StepMachine.anyStep state continued later →
      QueuesGrow state.client.pool later.client.pool ∧
        ∀ (action : ClientAction) (after : Client) (sent : Option Post),
          later.client.react later.requests action = some (after, sent) → sent = none

theorem all_ended_silent (ended : state.client.AllEnded) : SilentFrom state := by
  intro continued later run
  have kept : later.client.AllEnded ∧ QueuesGrow state.client.pool later.client.pool := by
    apply @StepMachine.Run.invariant _ _ _ _ _ _ _
      (fun reached => reached.client.AllEnded ∧ QueuesGrow state.client.pool reached.client.pool)
      run
    · exact ⟨ended, QueuesGrow.refl _⟩
    · intro before event after held _ stepped
      obtain ⟨still, grown⟩ := ended_step held.1 stepped
      exact ⟨still, held.2.trans grown⟩
  exact ⟨kept.2, fun action after sent reacted => ended_workers_silent kept.1 reacted⟩

theorem start_workers (clientId : Bytes) (endpoints : Nat) :
    (Client.start clientId endpoints).workers.length = workersPerEndpoint * endpoints := by
  simp [Client.start, List.length_flatMap, Nat.mul_comm]

/-- No worker is ever replaced. In every run of a client that is not stopped as many
workers have ended as events have raised; they are at most all workers, and with
the last one the client falls silent for good. -/
theorem workers_end_for_good {clientId : Bytes} {endpoints : Nat} {history : List ClientEvent}
    {state : RunningClient}
    (run : clientMachine.Run (fun _ event => event ≠ .act .stop)
      (RunningClient.start clientId endpoints) history state) :
    state.client.endedWorkers =
        clientMachine.totalCost RunningClient.endings (RunningClient.start clientId endpoints)
          history ∧
      state.client.endedWorkers ≤ workersPerEndpoint * endpoints ∧
      (state.client.endedWorkers = workersPerEndpoint * endpoints → SilentFrom state) := by
  obtain ⟨⟨_, length⟩, kept⟩ := run.keeping
    (fun reached => reached.client.running = true ∧
      reached.client.workers.length = workersPerEndpoint * endpoints)
    ⟨rfl, start_workers clientId endpoints⟩
    fun before event after held goesOn stepped =>
      ⟨(step_running stepped goesOn).trans held.1,
        (step_ends held.1 goesOn stepped).2.trans held.2⟩
  have counted := kept.accumulates (fun reached => reached.client.endedWorkers)
    fun before event after held stepped => (step_ends held.1.1 held.2 stepped).1
  have fresh : (RunningClient.start clientId endpoints).client.endedWorkers = 0 := by
    rw [Client.endedWorkers, List.countP_eq_zero]
    intro w member
    simp only [RunningClient.start, Client.start, List.mem_flatMap, List.mem_map] at member
    obtain ⟨_, _, _, _, rfl⟩ := member
    exact fun finished => by cases of_decide_eq_true finished
  rw [fresh, Nat.zero_add] at counted
  have bound := List.countP_le_length (p := fun w : CarrierWorker => decide (w.phase = .ended))
    (l := state.client.workers)
  rw [length] at bound
  refine ⟨counted, bound, fun all => all_ended_silent ((Client.all_ended_iff _).mpr ?_)⟩
  rw [all, length]

/-- Three connections, one for each worker of one endpoint. Each worker posts its
SYN and is answered by a body that does not decode. -/
def undecodableRun : List ClientEvent :=
  (List.range 3).map opens ++ (List.range 3).flatMap fun worker =>
    [.act (.work worker 0), .answered worker (.unreadable .binasciiError) 100 50 0]

theorem undecodable_answers_silence : ∃ state : RunningClient,
    clientMachine.Run (fun _ event => event ≠ .act .stop) freshClient undecodableRun state ∧
      SilentFrom state := by
  obtain ⟨state, run, checked⟩ : ∃ state,
      clientMachine.Run (fun _ event => event ≠ .act .stop) freshClient undecodableRun state ∧
        decide (state.client.endedWorkers = 3) = true :=
    StepMachine.run_of_exec_any _ (by decide +kernel)
  exact ⟨state, run, (workers_end_for_good run).2.2 (of_decide_eq_true checked)⟩

end Ended

section Dead

variable {state later : RunningClient} {event : ClientEvent} {e : Nat}

/-- The endpoint is marked dead. -/
def DeadAt (e : Nat) (client : Client) : Prop :=
  ∃ ep, client.endpoints[e]? = some ep ∧ ep.isDead = true

/-- The event does not revive the endpoint. -/
def LeavesDead (e : Nat) (_ : RunningClient) (event : ClientEvent) : Prop :=
  event ≠ .act (.health e .revive)

instance (state : RunningClient) (event : ClientEvent) : Decidable (LeavesDead e state event) :=
  inferInstanceAs (Decidable (_ ≠ _))

/-- The posts that an event makes to an endpoint. -/
def RunningClient.postsTo (e : Nat) (state : RunningClient) (event : ClientEvent) : Nat :=
  if (state.posted event).isSome ∧ (state.actor event).any fun w => w.endpoint = e then 1 else 0

theorem health_dead {ep : EndpointState} {change : EndpointEvent} (dead : ep.isDead = true)
    (notRevived : change ≠ .revive) : (ep.health change).isDead = true := by
  cases change with
  | markDead | forceFailures =>
      rw [EndpointState.health]
      split_ifs <;> first | rfl | exact dead
  | revive => exact absurd rfl notRevived

theorem same_timing_dead {before after : Client} (dead : DeadAt e before)
    (same : SameTiming before.endpoints after.endpoints) : DeadAt e after := by
  obtain ⟨ep, present, isDead⟩ := dead
  obtain ⟨bound, _⟩ := List.getElem?_eq_some_iff.mp present
  have length : after.endpoints.length = before.endpoints.length := by
    simpa using congrArg List.length same
  have found := List.getElem?_eq_getElem (length ▸ bound)
  obtain ⟨old, was, sameDead, _⟩ := same.get found
  cases present.symm.trans was
  exact ⟨_, found, sameDead.symm.trans isDead⟩

theorem react_dead {before after : Client} {request : Nat} {action : ClientAction}
    {sent : Option Post} (dead : DeadAt e before) (left : action ≠ .health e .revive)
    (reacted : before.react request action = some (after, sent)) : DeadAt e after := by
  by_cases health : ∃ index change, action = .health index change
  · obtain ⟨index, change, rfl⟩ := health
    obtain ⟨ep, present, isDead⟩ := dead
    cases Client.react_cases reacted
    by_cases here : index = e
    · have notRevived : change ≠ .revive := fun same => left (by rw [here, same])
      refine ⟨ep.health change, ?_, health_dead isDead notRevived⟩
      rw [List.getElem?_modify, present, Option.map_eq_map, Option.map_some, if_pos here]
    · refine ⟨ep, ?_, isDead⟩
      rw [List.getElem?_modify, present, Option.map_eq_map, Option.map_some, if_neg here]
  · have same := (react_endpoints reacted fun index change same =>
      health ⟨index, change, same⟩).1
    rw [DeadAt, same]
    exact dead

/-- A dead endpoint is dead until it is revived. -/
theorem dead_step (dead : DeadAt e state.client) (left : LeavesDead e state event)
    (stepped : state.step event = some later) : DeadAt e later.client := by
  rcases client_step_cases stepped with ⟨action, sent, rfl, reacted⟩ |
    ⟨index, answer, sent, rttMs, now, rfl, taken⟩
  · exact react_dead dead (fun same => left (congrArg ClientEvent.act same)) reacted
  · unfold Client.answered at taken
    split at taken
    · split at taken
      · next w found _ request frames endpoint posting there =>
          apply same_timing_dead dead
          rw [← Option.some.inj taken]
          exact same_timing_set there (take_answer_timing _ _ _ _ _)
      · cases taken
    · cases taken

theorem stopped_waiting {before after : Client}
    (workers : after.workers = before.workers.map fun w => { w with phase := .ended }) (e : Nat) :
    after.waitingFor e = 0 := by
  rw [Client.waitingFor, workers, List.countP_eq_zero]
  intro w member
  obtain ⟨_, _, rfl⟩ := List.mem_map.mp member
  simp

/-- A post to a dead endpoint is paid for by a worker that stops waiting, and none
starts to wait. -/
theorem dead_step_pays (endedIf : state.client.EndedIfStopped) (dead : DeadAt e state.client)
    (stepped : state.step event = some later) :
    state.postsTo e event + later.client.waitingFor e ≤ state.client.waitingFor e := by
  have silent : ∀ {sent}, state.posted event = sent → sent = none → state.postsTo e event = 0 := by
    intro sent same none
    rw [RunningClient.postsTo, same, none]
    rfl
  cases step_moves endedIf stepped with
  | still workers _ none =>
      rw [silent rfl none, Client.waitingFor, workers, Nat.zero_add]
      exact Nat.le_refl _
  | stopped _ none workers =>
      rw [silent rfl none, stopped_waiting workers]
      exact Nat.zero_le _
  | turn index w phase found acting workers _ turned =>
      have counted := Client.waiting_replaced found workers e
      have notAlive : w.endpoint = e → ¬ state.client.Alive w := by
        intro here alive
        obtain ⟨ep, present, isDead⟩ := dead
        obtain ⟨other, there, isAlive⟩ := alive
        rw [here, present] at there
        cases there
        cases isDead.symm.trans isAlive
      have atMost : state.postsTo e event ≤
          if w.endpoint = e ∧ w.phase = .waiting then 1 else 0 := by
        cases posted : state.posted event with
        | none =>
            rw [silent posted rfl]
            exact Nat.zero_le _
        | some post =>
            have acted := acting post posted
            rw [posted] at turned
            rw [RunningClient.postsTo, posted, acted]
            by_cases here : w.endpoint = e
            · have waiting : w.phase = .waiting :=
                turned.draining.resolve_right fun ready => notAlive here ready.2
              simp [here, waiting]
            · simp [here]
      have noneStarts : ¬ (w.endpoint = e ∧ phase = .waiting) := by
        intro starts
        rw [starts.2] at turned
        exact notAlive starts.1 turned.starts_waiting
      rw [if_neg noneStarts] at counted
      omega

/-- The endpoints that the workers belong to. -/
def Client.places (client : Client) : List Nat := client.workers.map CarrierWorker.endpoint

theorem set_map_same {α β : Type} {f : α → β} {items : List α} {index : Nat} {old new : α}
    (found : items[index]? = some old) (same : f new = f old) :
    (items.set index new).map f = items.map f := by
  apply List.ext_getElem?
  intro i
  rw [List.getElem?_map, List.getElem?_map, List.getElem?_set]
  split_ifs with here bound
  · rw [← here, found, Option.map_some, Option.map_some, same]
  · exact absurd (here ▸ (List.getElem?_eq_some_iff.mp found).1) bound
  · rfl

theorem step_places (endedIf : state.client.EndedIfStopped)
    (stepped : state.step event = some later) : later.client.places = state.client.places := by
  cases step_moves endedIf stepped with
  | still workers => rw [Client.places, workers, Client.places]
  | stopped _ _ workers =>
      rw [Client.places, workers, List.map_map, Client.places]
      rfl
  | turn index w phase found _ workers =>
      rw [Client.places, workers, Client.places]
      exact set_map_same found rfl

theorem step_ended_if (endedIf : state.client.EndedIfStopped)
    (stepped : state.step event = some later) : later.client.EndedIfStopped := by
  by_cases stops : event = .act .stop
  · subst stops
    rcases client_step_cases stepped with ⟨action, sent, same, reacted⟩ |
      ⟨_, _, _, _, _, other, _⟩
    · cases same
      have ended : later.client.workers =
          state.client.workers.map fun w => { w with phase := .ended } :=
        (congrArg (fun result => result.1.workers) (Option.some.inj reacted)).symm
      refine .inr fun w member => ?_
      rw [ended] at member
      obtain ⟨_, _, rfl⟩ := List.mem_map.mp member
      rfl
    · cases other
  · rcases endedIf with running | ended
    · exact .inl ((step_running stepped stops).trans running)
    · exact .inr (ended_step ended stepped).1

theorem start_places (clientId : Bytes) (endpoints e : Nat) :
    (Client.start clientId endpoints).places.countP (fun place => place = e) ≤
      workersPerEndpoint := by
  have placed : (Client.start clientId endpoints).places =
      (List.range endpoints).flatMap fun place => List.replicate workersPerEndpoint place := by
    simp only [Client.places, Client.start, List.map_flatMap, List.map_map]
    rfl
  have each : ∀ n, ((List.range n).flatMap fun place =>
      List.replicate workersPerEndpoint place).countP (fun place => place = e) =
        if e < n then workersPerEndpoint else 0 := by
    intro n
    induction n with
    | zero => rfl
    | succ n ih =>
        rw [List.range_succ, List.flatMap_append, List.countP_append, ih, List.flatMap_singleton,
          List.countP_replicate]
        by_cases here : n = e
        · simp [here]
        · have other : (e < n + 1) ↔ e < n := by omega
          simp [here, other]
  rw [placed, each]
  split_ifs
  · exact Nat.le_refl _
  · exact Nat.zero_le _

/-- From any reachable state: to an endpoint that is dead and is not revived the
workers post, in any run, at most once for each of them that was waiting for
activity when the endpoint died. -/
theorem dead_endpoint_posts {clientId : Bytes} {endpoints : Nat}
    {history continued : List ClientEvent}
    (reached : clientMachine.Run StepMachine.anyStep (RunningClient.start clientId endpoints)
      history state)
    (dead : DeadAt e state.client)
    (run : clientMachine.Run (LeavesDead e) state continued later) :
    DeadAt e later.client ∧
      clientMachine.totalCost (RunningClient.postsTo e) state continued +
        later.client.waitingFor e ≤ state.client.waitingFor e ∧
      state.client.waitingFor e ≤ workersPerEndpoint := by
  have started : state.client.EndedIfStopped ∧
      state.client.places = (Client.start clientId endpoints).places := by
    apply @StepMachine.Run.invariant _ _ _ _ _ _ _ (fun reached => reached.client.EndedIfStopped ∧
      reached.client.places = (Client.start clientId endpoints).places) reached
    · exact ⟨.inl rfl, rfl⟩
    · intro before event after held _ stepped
      exact ⟨step_ended_if held.1 stepped, (step_places held.1 stepped).trans held.2⟩
  obtain ⟨⟨_, stillDead⟩, kept⟩ := run.keeping
    (fun reached => reached.client.EndedIfStopped ∧ DeadAt e reached.client)
    ⟨started.1, dead⟩
    fun before event after held left stepped =>
      ⟨step_ended_if held.1 stepped, dead_step held.2 left stepped⟩
  refine ⟨stillDead, ?_, ?_⟩
  · apply kept.amortized (fun reached => reached.client.waitingFor e)
    intro before event after held stepped
    exact dead_step_pays held.1.1 held.1.2 stepped
  · have few := start_places clientId endpoints e
    rw [← started.2, Client.places, List.countP_map] at few
    apply le_trans _ few
    rw [Client.waitingFor]
    apply List.countP_mono_left
    intro w _ both
    simp only [Function.comp, decide_eq_true_eq] at both ⊢
    exact both.1

/-- Five failures kill the only endpoint while its second worker waits. -/
def diesWaiting : List ClientEvent :=
  [opens 0, .act (.work 1 0)] ++ (List.range 5).flatMap (fun n =>
    [opens (n + 1), .act (.work 0 0), .answered 0 (.failed 0) 100 50 0]) ++
      [.act (.health 0 .markDead)]

/-- The waiting worker posts a SYN; the others find the endpoint dead. -/
def strayPost : List ClientEvent :=
  [opens 10, opens 11, .act (.heard 1 true 0), .act (.work 0 0), .act (.work 2 0)]

theorem stray_post_only : ∃ state later : RunningClient,
    clientMachine.Run StepMachine.anyStep freshClient diesWaiting state ∧
      clientMachine.Run (LeavesDead 0) state strayPost later ∧
      clientMachine.totalCost (RunningClient.postsTo 0) state strayPost ≤ 1 := by
  obtain ⟨state, run, checked⟩ : ∃ state,
      clientMachine.Run StepMachine.anyStep freshClient diesWaiting state ∧
        (state.client.endpoints[0]?.any EndpointState.isDead &&
          decide (state.client.waitingFor 0 = 1) &&
          (clientMachine.exec (LeavesDead 0) state strayPost).isSome) = true :=
    StepMachine.run_of_exec_any _ (by decide +kernel)
  simp only [Bool.and_eq_true, decide_eq_true_eq, Option.any_eq_true] at checked
  obtain ⟨⟨dead, one⟩, goesOn⟩ := checked
  obtain ⟨later, executed⟩ := Option.isSome_iff_exists.mp goesOn
  have continued := StepMachine.run_of_exec strayPost executed
  have few := (dead_endpoint_posts run dead continued).2.1
  rw [one] at few
  exact ⟨state, later, run, continued, (Nat.le_add_right _ _).trans few⟩

end Dead

end Astrix
