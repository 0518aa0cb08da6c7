import Astrix.AppsScript
import Astrix.ClientDirectory
import Astrix.QuietWorkers

/-!
# A client behind the script

All endpoints of a client are deployments of the script, and whatever the relays
do, the script answers with status 200. So nothing that depends on the status of
an answer ever happens: no endpoint counts a failure, none is left as dead, and
no session is given up. What a relay's outage does instead is to make the workers
raise.
-/

namespace Astrix

open PyRuntime SessionPool

set_option autoImplicit false

section Scripted

/-- The relays of the script, what the key makes of a body, and the bytes in which
the text of the script arrives. -/
structure Script where
  relayUrls : List Text
  prims : Primitives
  deliver : Text → Bytes

namespace Script

/-- The answer to a post of `contents` when the relays give `fetch`. -/
def answer (script : Script) (contents : Option Text) (fetch : Nat → Fetched) : Answer :=
  readAnswer script.prims 200 (script.deliver (doPost script.relayUrls contents fetch).text)

/-- Every post is answered by the script, its relays being as `relays` says. -/
def Answers (script : Script) (relays : (Nat → Fetched) → Prop) (_ : RunningClient) :
    ClientEvent → Prop
  | .act _ => True
  | .answered _ answer _ _ _ =>
      ∃ contents fetch, relays fetch ∧ answer = script.answer contents fetch

/-- The text cannot be what a server sealed. -/
def Foreign (script : Script) (text : Text) : Prop :=
  script.deliver text ≠ [] ∧ ∀ plaintext,
    openBody script.prims (script.deliver text) ≠ .ok plaintext

/-- No relay has status 200, and what the script makes of them was not sealed by
a server. -/
structure Outage (script : Script) (fetch : Nat → Fetched) : Prop where
  fails : ∀ k < script.relayUrls.length, (fetch k).succeeds = false
  foreign : ∀ k < script.relayUrls.length, script.Foreign (fetch k).lastText

end Script

end Scripted

section Samples

/-- One relay, which cannot be reached. -/
def oneRelay : Script where
  relayUrls := [literal "http://203.0.113.7:8443/tunnel"]
  prims := tagPrimitives
  deliver text := text.map fun point => UInt8.ofNat point.val

def unreachable (_ : Nat) : Fetched := .raised (literal "Exception: Timeout")

theorem timeout_foreign : oneRelay.Foreign (literal "Exception: Timeout") :=
  ⟨by decide +kernel, short_body_rejected _ _ (by decide +kernel)⟩

theorem unreachable_outage : oneRelay.Outage unreachable where
  fails _ _ := rfl
  foreign _ _ := timeout_foreign

/-- The three workers post a SYN each and get what the script says of its relay. -/
def threeUnanswered : List ClientEvent :=
  (List.range 3).map opens ++ (List.range 3).flatMap fun worker =>
    [.act (.work worker 0), .answered worker (oneRelay.answer none unreachable) 100 50 0]

theorem unanswered_event {event : ClientEvent} (member : event ∈ threeUnanswered) :
    (∀ index, event ≠ .act (.health index .forceFailures)) ∧ event ≠ .act .stop ∧
      oneRelay.Answers oneRelay.Outage freshClient event := by
  have answered : oneRelay.Answers oneRelay.Outage freshClient
      (.answered 0 (oneRelay.answer none unreachable) 100 50 0) :=
    ⟨none, unreachable, unreachable_outage, rfl⟩
  simp only [threeUnanswered, List.mem_append, List.mem_map, List.mem_flatMap, List.mem_cons,
    List.not_mem_nil, or_false] at member
  rcases member with ⟨n, _, rfl⟩ | ⟨n, _, rfl | rfl⟩
  · exact ⟨fun _ same => (by cases same), fun same => (by cases same), trivial⟩
  · exact ⟨fun _ same => (by cases same), fun same => (by cases same), trivial⟩
  · exact ⟨fun _ same => (by cases same), fun same => (by cases same), answered⟩

theorem unanswered_run : ∃ state : RunningClient,
    clientMachine.Run (fun _ event => event ∈ threeUnanswered) freshClient threeUnanswered state ∧
      decide (state.client.endedWorkers = 3) = true :=
  StepMachine.run_of_exec_any _ (by decide +kernel)

end Samples

/-- Neither an answer with another status nor the watchdog counts as a failure. -/
def Untroubled : ClientEvent → Prop
  | .act (.health _ .forceFailures) => False
  | .act _ => True
  | .answered _ (.failed _) _ _ _ => False
  | .answered _ _ _ _ _ => True

/-- As an endpoint is created, except for what its posts add up to. -/
structure EndpointState.Untouched (ep : EndpointState) : Prop where
  failures : ep.consecutiveFailures = 0
  alive : ep.isDead = false
  noError : ep.lastError = ""

theorem Script.answer_untroubled (script : Script) (contents : Option Text) (fetch : Nat → Fetched)
    (status : Nat) : script.answer contents fetch ≠ .failed status := by
  intro failed
  rw [answer, readAnswer, if_pos rfl] at failed
  split_ifs at failed
  split at failed <;> cases failed

theorem untouched_new : EndpointState.new.Untouched := ⟨rfl, rfl, rfl⟩

theorem untouched_health {ep : EndpointState} {event : EndpointEvent} (untouched : ep.Untouched)
    (unforced : event ≠ .forceFailures) : (ep.health event).Untouched := by
  cases event with
  | markDead =>
      have few : ¬ ep.consecutiveFailures ≥ _MaxConsecutiveFailures := by
        rw [untouched.failures]
        decide
      rw [EndpointState.health, if_neg few]
      exact untouched
  | revive => exact ⟨rfl, rfl, untouched.noError⟩
  | forceFailures => exact absurd rfl unforced

theorem untouched_adapt {ep : EndpointState} (untouched : ep.Untouched) (count : Nat) :
    (ep.adaptBatchSize count).Untouched := by
  unfold EndpointState.adaptBatchSize
  split_ifs <;> exact ⟨untouched.failures, untouched.alive, untouched.noError⟩

theorem untouched_answer {ep : EndpointState} (untouched : ep.Untouched) (pool : SessionPool)
    (frames : List Frame) (sent : Nat) (rttMs now : ℚ) {answer : Answer}
    (noFailure : ∀ status, answer ≠ .failed status) :
    (takeAnswer pool (ep.recordPost sent rttMs) frames now answer).ep.Untouched := by
  cases answer with
  | frames respFrames bodyLength =>
      apply untouched_adapt
      exact ⟨rfl, untouched.alive, untouched.noError⟩
  | emptyBody | unreadable => exact ⟨rfl, untouched.alive, untouched.noError⟩
  | failed status => exact absurd rfl (noFailure status)

section Runs

variable {state later : RunningClient} {event : ClientEvent}

theorem untouched_step (all : ∀ ep ∈ state.client.endpoints, ep.Untouched)
    (untroubled : Untroubled event) (stepped : state.step event = some later) :
    ∀ ep ∈ later.client.endpoints, ep.Untouched := by
  rcases client_step_cases stepped with ⟨action, sent, rfl, reacted⟩ |
    ⟨index, answer, sent, rttMs, now, rfl, taken⟩
  · by_cases health : ∃ index change, action = .health index change
    · obtain ⟨index, change, rfl⟩ := health
      have same := (Option.some.inj reacted).symm
      have endpoints := congrArg (fun result => result.1.endpoints) same
      dsimp only at endpoints
      rw [endpoints]
      intro ep member
      obtain ⟨i, found⟩ := List.mem_iff_getElem?.mp member
      rw [List.getElem?_modify] at found
      obtain ⟨old, present, rfl⟩ := Option.map_eq_some_iff.mp found
      have untouched := all old (List.mem_of_getElem? present)
      split_ifs
      · refine untouched_health untouched fun forced => ?_
        subst forced
        exact untroubled
      · exact untouched
    · have same := (react_endpoints reacted fun index change same => health ⟨index, change, same⟩).1
      rw [same]
      exact all
  · have noFailure : ∀ status, answer ≠ .failed status := by
      intro status failed
      subst failed
      exact untroubled
    unfold Client.answered at taken
    split at taken
    · split at taken
      · next w found _ request frames ep posting present =>
          have endpoints := congrArg Client.endpoints (Option.some.inj taken)
          dsimp only at endpoints
          rw [← endpoints]
          intro ep' member
          rcases List.mem_or_eq_of_mem_set member with old | rfl
          · exact all ep' old
          · exact untouched_answer (all ep (List.mem_of_getElem? present)) _ _ _ _ _ noFailure
      · cases taken
    · cases taken

theorem untroubled_drops (untroubled : Untroubled event) : state.dropped event = [] := by
  cases event with
  | act action => rfl
  | answered index answer sent rttMs now =>
      cases answer with
      | failed status => exact absurd untroubled id
      | frames | emptyBody | unreadable => rfl

/-- The script answers every post, its relays doing what they may; the watchdog does
not count failures. -/
structure Script.Serves (script : Script) (state : RunningClient) (event : ClientEvent) : Prop where
  unforced : ∀ index, event ≠ .act (.health index .forceFailures)
  answered : script.Answers (fun _ => True) state event

theorem Script.Serves.untroubled {script : Script} (serves : script.Serves state event) :
    Untroubled event := by
  have answered := serves.answered
  cases event with
  | act action =>
      cases action with
      | health index change =>
          cases change with
          | forceFailures => exact serves.unforced index rfl
          | markDead | revive => trivial
      | openConn | write | conn | work | heard | cooled | stop => trivial
  | answered index answer sent rttMs now =>
      obtain ⟨contents, fetch, _, same⟩ := answered
      cases answer with
      | failed status => exact script.answer_untroubled contents fetch status same.symm
      | frames | emptyBody | unreadable => trivial

/-- Behind the script nothing looks like a failure, whatever the relays do: every
endpoint is alive and shows no error, and no session is given up. -/
theorem script_hides_failures {script : Script} {clientId : Bytes} {endpoints : Nat}
    {history : List ClientEvent}
    (run : clientMachine.Run script.Serves (RunningClient.start clientId endpoints) history state) :
    (∀ ep ∈ state.client.endpoints, ep.Untouched) ∧
      state.client.pool.sessions.keys = firsts (history.filterMap ClientEvent.opened) := by
  constructor
  · apply @StepMachine.Run.invariant _ _ _ _ _ _ _
      (fun reached => ∀ ep ∈ reached.client.endpoints, ep.Untouched) run
    · intro ep member
      rw [List.eq_of_mem_replicate member]
      exact untouched_new
    · intro before event after all serves stepped
      exact untouched_step all serves.untroubled stepped
  · exact opened_keys (run.weaken fun _ _ serves => untroubled_drops serves.untroubled)

theorem unanswered_stay_open : ∃ state : RunningClient,
    clientMachine.Run oneRelay.Serves freshClient threeUnanswered state ∧
      (∀ ep ∈ state.client.endpoints, ep.isDead = false) ∧
      state.client.pool.sessionCount = 3 := by
  obtain ⟨state, run, _⟩ := unanswered_run
  have served : clientMachine.Run oneRelay.Serves freshClient threeUnanswered state := by
    apply run.weaken
    intro before event member
    obtain ⟨unforced, _, answered⟩ := unanswered_event member
    refine ⟨unforced, ?_⟩
    cases event with
    | act action => trivial
    | answered index answer sent rttMs now =>
        obtain ⟨contents, fetch, _, same⟩ := answered
        exact ⟨contents, fetch, trivial, same⟩
  obtain ⟨untouched, keys⟩ := script_hides_failures served
  refine ⟨state, served, fun ep member => (untouched ep member).alive, ?_⟩
  rw [SessionPool.sessionCount, ← List.length_map (f := Prod.fst)]
  exact (congrArg List.length keys).trans (by decide)

end Runs

section Outage

/-- A worker that posts or has ended makes no further post while no answer can be
decoded. -/
def WorkerPhase.spent : WorkerPhase → Bool
  | .posting _ _ | .ended => true
  | .head | .waiting | .cooling => false

/-- The workers that can still post. -/
def Client.unspent (client : Client) : Nat := client.workers.countP fun w => !w.phase.spent

theorem Turn.spends {ready answered : Prop} {phase next : WorkerPhase} {sent : Option Post}
    (turned : Turn ready answered phase next sent) (raises : answered → next = .ended) :
    (if sent.isSome then 1 else 0) + (if !next.spent then 1 else 0) ≤
      if !phase.spent then 1 else 0 := by
  cases turned with
  | waits => decide
  | posts _ request frames post draining =>
      rcases draining with rfl | ⟨rfl, _⟩
      · exact Nat.le_refl 1
      · exact Nat.le_refl 1
  | rests _ _ runs left settled =>
      have unspent : phase.spent = false := by
        cases phase with
        | posting request frames =>
            have ended := raises (left trivial)
            rw [ended] at settled
            rcases settled with same | same <;> cases same
        | ended => exact absurd rfl runs
        | head | waiting | cooling => rfl
      rw [unspent]
      rcases settled with rfl | rfl
      · exact Nat.le_refl 1
      · exact Nat.le_refl 1
  | ends => exact Nat.zero_le _

def RunningClient.posts (state : RunningClient) (event : ClientEvent) : Nat :=
  if (state.posted event).isSome then 1 else 0

def ClientEvent.answers : ClientEvent → Nat
  | .act _ => 0
  | .answered _ _ _ _ _ => 1

variable {state later : RunningClient} {event : ClientEvent}

/-- A post uses up a worker that could still post. -/
theorem unspent_step (running : state.client.running = true) (goesOn : event ≠ .act .stop)
    (raises : event.Answered → state.Raises event) (stepped : state.step event = some later) :
    state.posts event + later.client.unspent ≤ state.client.unspent := by
  rw [RunningClient.posts]
  cases step_moves (.inl running) stepped with
  | still workers _ silent =>
      rw [silent, Client.unspent, Client.unspent, workers]
      exact Nat.le_of_eq (Nat.zero_add _)
  | stopped halted =>
      have still := (step_running stepped goesOn).trans running
      cases still.symm.trans halted
  | turn index w phase found _ workers raised turned =>
      have counted := @count_set _ (fun w => !w.phase.spent) _ _ _ found { w with phase := phase }
      rw [← workers] at counted
      have spends := turned.spends fun answered => raised.mp (raises answered)
      rw [Client.unspent, Client.unspent]
      dsimp only at counted
      omega

theorem Script.outage_raises {script : Script} (relays : script.relayUrls ≠ [])
    (guarded : script.relayUrls.any isRelayLoop = true → script.Foreign relayLoopDetected)
    {contents : Option Text} {fetch : Nat → Fetched} (outage : script.Outage fetch) :
    (script.answer contents fetch).Raises := by
  have foreign : script.Foreign (doPost script.relayUrls contents fetch).text := by
    rw [doPost]
    split_ifs with loops
    · exact guarded loops
    · have none := @try_relays_fail (contents.getD []) [] fetch 0 script.relayUrls
      simp only [Nat.zero_add] at none
      rw [none outage.fails]
      obtain ⟨last, length⟩ := Nat.exists_eq_succ_of_ne_zero
        (List.length_pos_iff.mpr relays).ne'
      rw [length, List.range_succ, List.map_append, List.map_singleton, List.getLastD_concat]
      exact outage.foreign last (length ▸ Nat.lt_succ_self last)
  rw [answer, readAnswer, if_pos rfl, if_pos foreign.1]
  cases decoded : decodeBatch script.prims
      (script.deliver (doPost script.relayUrls contents fetch).text) with
  | ok accepted =>
      obtain ⟨plaintext, opened⟩ := decode_batch_opens foreign.1 decoded
      exact absurd opened (foreign.2 plaintext)
  | error error => exact trivial

/-- What holds in every state of a client that is not stopped. -/
structure Unstopped (endpoints : Nat) (client : Client) : Prop where
  running : client.running = true
  workers : client.workers.length = workersPerEndpoint * endpoints

theorem unstopped_start (clientId : Bytes) (endpoints : Nat) :
    Unstopped endpoints (RunningClient.start clientId endpoints).client :=
  ⟨rfl, start_workers clientId endpoints⟩

theorem unstopped_step {endpoints : Nat} (unstopped : Unstopped endpoints state.client)
    (goesOn : event ≠ .act .stop) (stepped : state.step event = some later) :
    Unstopped endpoints later.client where
  running := (step_running stepped goesOn).trans unstopped.running
  workers := (step_ends unstopped.running goesOn stepped).2.trans unstopped.workers

/-- The relays fail in the whole of the run, which does not stop the client. -/
structure Script.Down (script : Script) (state : RunningClient) (event : ClientEvent) : Prop where
  goesOn : event ≠ .act .stop
  outage : script.Answers script.Outage state event

theorem Script.Down.raises {script : Script} (down : script.Down state event)
    (relays : script.relayUrls ≠ [])
    (guarded : script.relayUrls.any isRelayLoop = true → script.Foreign relayLoopDetected)
    (answered : event.Answered) : state.Raises event := by
  have outage := down.outage
  cases event with
  | act action => exact answered.elim
  | answered index answer sent rttMs now =>
      rcases outage with ⟨contents, fetch, failing, rfl⟩
      exact script.outage_raises relays guarded failing

/-- From any reachable state: while the relays fail each worker posts at most once
more, each answer ends the worker that gets it, and once all have been answered the
client stays silent whatever becomes of the relays. -/
theorem outage_silences {script : Script} {clientId : Bytes} {endpoints : Nat}
    {history continued : List ClientEvent} (relays : script.relayUrls ≠ [])
    (guarded : script.relayUrls.any isRelayLoop = true → script.Foreign relayLoopDetected)
    (reached : clientMachine.Run (fun _ event => event ≠ .act .stop)
      (RunningClient.start clientId endpoints) history state)
    (run : clientMachine.Run script.Down state continued later) :
    clientMachine.totalCost RunningClient.posts state continued + later.client.unspent ≤
        state.client.unspent ∧
      state.client.unspent ≤ workersPerEndpoint * endpoints ∧
      state.client.endedWorkers + clientMachine.totalCost (fun _ => ClientEvent.answers) state
        continued ≤ later.client.endedWorkers ∧
      (later.client.endedWorkers = workersPerEndpoint * endpoints → SilentFrom later) := by
  have before : Unstopped endpoints state.client :=
    reached.invariant (unstopped_start clientId endpoints)
      fun _ _ _ unstopped goesOn stepped => unstopped_step unstopped goesOn stepped
  obtain ⟨after, kept⟩ := run.keeping (fun reached => Unstopped endpoints reached.client) before
    fun _ _ _ unstopped down stepped => unstopped_step unstopped down.goesOn stepped
  refine ⟨?_, ?_, ?_, fun all => all_ended_silent ((Client.all_ended_iff _).mpr ?_)⟩
  · apply kept.amortized (fun reached => reached.client.unspent)
    intro before event after held stepped
    exact unspent_step held.1.running held.2.goesOn (held.2.raises relays guarded) stepped
  · rw [← before.workers]
    exact List.countP_le_length
  · apply kept.gains (fun reached => reached.client.endedWorkers)
    intro before event after held stepped
    rw [(step_ends held.1.running held.2.goesOn stepped).1]
    apply Nat.add_le_add_left
    cases event with
    | act action => exact Nat.zero_le _
    | answered index answer sent rttMs now =>
        have raises := held.2.raises relays guarded trivial
        rw [RunningClient.endings, if_pos raises]
        exact Nat.le_refl 1
  · rw [all, after.workers]

theorem unanswered_silence : ∃ state : RunningClient,
    clientMachine.Run oneRelay.Down freshClient threeUnanswered state ∧ SilentFrom state := by
  obtain ⟨state, run, ended⟩ := unanswered_run
  have down : clientMachine.Run oneRelay.Down freshClient threeUnanswered state := by
    apply run.weaken
    intro before event member
    obtain ⟨_, goesOn, answered⟩ := unanswered_event member
    exact ⟨goesOn, answered⟩
  have relays : oneRelay.relayUrls ≠ [] := by decide
  have silent := outage_silences relays (fun loops => absurd loops (by decide +kernel)) .start down
  exact ⟨state, down, silent.2.2.2 (of_decide_eq_true ended)⟩

end Outage

end Astrix
