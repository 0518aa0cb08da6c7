import Astrix.Library.StepMachine
import Astrix.QueueBytes

/-!
# Runs of one client

A client among any answers to its posts: its applications, connections and
workers act in any order, and what a server does shows only in the answers.
-/

namespace Astrix

open PyRuntime SessionPool

set_option autoImplicit false

inductive ClientEvent where
  | act (action : ClientAction)
  | answered (index : Nat) (answer : Answer) (sent : Nat) (rttMs now : ℚ)
  deriving DecidableEq

/-- A client and the number of requests it has made room for. -/
structure RunningClient where
  client : Client
  requests : Nat

namespace RunningClient

def start (clientId : Bytes) (endpoints : Nat) : RunningClient where
  client := Client.start clientId endpoints
  requests := 0

/-- A failure has a status other than 200. -/
def step (state : RunningClient) : ClientEvent → Option RunningClient
  | .act action => (state.client.react state.requests action).map fun (client, _) =>
      { client := client, requests := state.requests + 1 }
  | .answered index answer sent rttMs now =>
      if answer = .failed 200 then none
      else (state.client.answered index answer sent rttMs now).map fun client =>
        { state with client := client }

end RunningClient

def clientMachine : StepMachine RunningClient ClientEvent := ⟨RunningClient.step⟩

/-- A step is one of the client's own or takes an answer. -/
theorem client_step_cases {state later : RunningClient} {event : ClientEvent}
    (stepped : state.step event = some later) :
    (∃ action sent, event = .act action ∧
      state.client.react state.requests action = some (later.client, sent)) ∨
    ∃ index answer sent rttMs now, event = .answered index answer sent rttMs now ∧
      state.client.answered index answer sent rttMs now = some later.client := by
  cases event with
  | act action =>
      obtain ⟨⟨client, sent⟩, reacted, rfl⟩ := Option.map_eq_some_iff.mp stepped
      exact .inl ⟨action, sent, rfl, reacted⟩
  | answered index answer sent rttMs now =>
      simp only [RunningClient.step] at stepped
      split_ifs at stepped
      obtain ⟨client, taken, rfl⟩ := Option.map_eq_some_iff.mp stepped
      exact .inr ⟨index, answer, sent, rttMs, now, rfl, taken⟩

/-- The queues hold frames of their own sessions, and `tx_bytes` counts their
payloads. -/
structure QueuesSound (state : RunningClient) : Prop where
  own : OwnQueues state.client.pool
  counted : Counted state.client.pool

theorem queues_sound_step {state later : RunningClient} {event : ClientEvent}
    (sound : QueuesSound state) (stepped : state.step event = some later) :
    QueuesSound later := by
  rcases client_step_cases stepped with ⟨action, sent, rfl, reacted⟩ |
    ⟨index, answer, sent, rttMs, now, rfl, taken⟩
  · have done := Client.react_reacted reacted
    exact ⟨Client.react_own sound.own done, Client.react_counted sound.counted done⟩
  · exact ⟨Client.answered_own sound.own taken, Client.answered_counted sound.counted taken⟩

/-- The pools of a client satisfy what the results about one drain assume. -/
theorem client_queues_sound {clientId : Bytes} {endpoints : Nat} {history : List ClientEvent}
    {state : RunningClient}
    (run : clientMachine.Run StepMachine.anyStep (RunningClient.start clientId endpoints)
      history state) : QueuesSound state :=
  run.invariant ⟨new_holds, Client.start_counted clientId endpoints⟩
    fun _ _ _ sound _ stepped => queues_sound_step sound stepped

end Astrix
