import Astrix.SocksTasks

/-!
# The client with its own clocks

`loop.time()` is a float, which has no `to_bytes`, so no call of `open` returns. The
SOCKS side has told its client of success by then: the connection stays, without a
session, and what comes over it stays in its buffer.
-/

namespace Astrix

open PyRuntime Socks5Protocol

set_option autoImplicit false

/-- No connection has a session, and there is nothing to post. -/
structure CarriesNothing (p : ProxyProcess) : Prop where
  idle : p.state.client.Idle
  conns : p.state.client.conns = []
  unopened : ∀ peer ∈ p.front.peers, peer.opened = none
  waiting : p.front.waiting = []

section Fronts

variable {config : SocksConfig} {front later : SocksFront} {conns : List VirtualConn}
  {event : SocksEvent} {action : Option ClientAction}

/-- A connection without a session gets none, and asks nothing of the client. -/
theorem unopened_step (unopened : ∀ peer ∈ front.peers, peer.opened = none)
    (nobody : front.waiting = [])
    (moved : front.step config clockIds conns event = some (later, action)) :
    action = none ∧ (∀ peer ∈ later.peers, peer.opened = none) ∧ later.waiting = [] := by
  cases event with
  | accept =>
      cases moved
      refine ⟨rfl, fun peer member => ?_, nobody⟩
      rcases List.mem_append.mp member with old | new
      · exact unopened peer old
      · rw [List.mem_singleton.mp new]
        rfl
  | segment k data =>
      obtain ⟨peer, found, same⟩ := Option.map_eq_some_iff.mp moved
      cases same
      refine ⟨rfl, fun other member => ?_, nobody⟩
      rcases List.mem_or_eq_of_mem_set member with old | rfl
      · exact unopened other old
      · exact unopened peer (List.mem_of_getElem? found)
  | task loopTime monotonicNs now =>
      simp only [SocksFront.step] at moved
      split at moved
      · cases moved
      · next task rest queued =>
          obtain ⟨peer, found, same⟩ := Option.map_eq_some_iff.mp moved
          cases task with
          | callback k host port =>
              -- The id is asked for before anything is opened.
              cases same
              exact ⟨rfl, unopened, nobody⟩
          | write k data =>
              have none_ := unopened peer (List.mem_of_getElem? found)
              rw [SocksFront.begin, @link_unopened peer conns none_] at same
              cases same
              exact ⟨rfl, unopened, nobody⟩
  | resume index =>
      simp only [SocksFront.step, nobody] at moved
      cases moved

end Fronts

namespace CarriesNothing

variable {config : SocksConfig} {p later : ProxyProcess} {event : ProxyEvent}

theorem start (clientId : Bytes) (endpoints : Nat) :
    CarriesNothing (.start clientId endpoints) where
  idle := {
    queues := fun _ bound => absurd bound (Nat.not_lt_zero _)
    conns := fun _ member => by cases member
    workers := fun w member => by
      obtain ⟨_, _, own⟩ := List.mem_flatMap.mp member
      obtain ⟨_, _, rfl⟩ := List.mem_map.mp own
      rfl }
  conns := rfl
  unopened _ member := by cases member
  waiting := rfl

theorem step (nothing : CarriesNothing p)
    (stepped : p.step config clockIds event = some later) : CarriesNothing later := by
  rcases ProxyProcess.step_cases stepped with
    ⟨socks, action, _, moved, _, ⟨_, same⟩ | ⟨act, acts, _⟩⟩ |
      ⟨client, _, unprompted, same, acted⟩
  · obtain ⟨_, unopened, waiting⟩ := unopened_step nothing.unopened nothing.waiting moved
    exact ⟨same ▸ nothing.idle, same ▸ nothing.conns, unopened, waiting⟩
  · obtain ⟨silent, _⟩ := unopened_step nothing.unopened nothing.waiting moved
    cases acts.symm.trans silent
  · have kept := (ProxyProcess.step_keeps unprompted acted).same
    rw [nothing.conns] at kept
    refine ⟨?_, List.eq_nil_of_length_eq_zero kept, ?_, ?_⟩
    · rcases client_step_cases acted with ⟨act, sent, rfl, reacted⟩ |
        ⟨_, _, _, _, _, _, taken⟩
      · exact (nothing.idle.react reacted unprompted).1
      · exact (nothing.idle.unanswered taken).elim
    · rw [same]
      exact nothing.unopened
    · rw [same]
      exact nothing.waiting

theorem run {clientId : Bytes} {endpoints : Nat} {history : List ProxyEvent}
    (run : (proxyMachine config clockIds).Run StepMachine.anyStep (.start clientId endpoints)
      history p) : CarriesNothing p :=
  run.invariant (start clientId endpoints) fun _ _ _ nothing _ stepped => nothing.step stepped

end CarriesNothing

/-- In every run no session is opened and nothing is posted. A connection that has
asked for a target is not told: the success reply is sent, and every segment since
is in its buffer. -/
theorem shipped_client_carries_nothing {config : SocksConfig} {p : ProxyProcess}
    {clientId : Bytes} {endpoints : Nat} {history : List ProxyEvent}
    (run : (proxyMachine config clockIds).Run StepMachine.anyStep (.start clientId endpoints)
      history p) :
    p.state.client.conns = [] ∧
    (∀ action after sent, action.prompted = false →
      p.state.client.react p.state.requests action = some (after, sent) → sent = none) ∧
    ∀ (k : Nat) (peer : SocksPeer), p.front.peers[k]? = some peer →
      peer.proto.state = .established → peer.opened = none ∧
        ∃ host port segments, Requested config peer host port segments ∧
          peer.proto.tunnelled = segments := by
  have nothing := CarriesNothing.run run
  refine ⟨nothing.conns, ?_, fun k peer found established => ?_⟩
  · intro action after sent unprompted reacted
    exact (nothing.idle.react reacted unprompted).2
  · have unopened := nothing.unopened peer (List.mem_of_getElem? found)
    refine ⟨unopened, ?_⟩
    cases (ProxyProcess.run_front run).flows k peer found with
    | negotiating state => exact absurd established state
    | called host port segments requested whole => exact ⟨host, port, segments, requested, whole⟩
    | refused host port segments _ requested whole =>
        exact ⟨host, port, segments, requested, whole⟩
    | served _ _ _ _ _ _ _ _ opened => cases opened.symm.trans unopened

/-- A CONNECT with a segment behind it; both tasks run and a worker looks for frames. -/
def shippedSegment : List ProxyEvent :=
  [.socks .accept, .socks (.segment 0 [5, 1, 0]),
    .socks (.segment 0 [5, 1, 0, 1, 127, 0, 0, 1, 0, 80]), .socks (.segment 0 [7]),
    .socks (.task (3 / 2) 1500000000 0), .socks (.task (3 / 2) 1500000000 0),
    .client (.act (.work 0 0))]

theorem shipped_segment_stays : ∃ p : ProxyProcess,
    (proxyMachine openConfig clockIds).Run StepMachine.anyStep (.start [] 1) shippedSegment p ∧
      ∃ peer host port, p.front.peers = [peer] ∧ peer.opened = none ∧
        Requested openConfig peer host port [[7]] := by
  obtain ⟨p, run, checked⟩ := @StepMachine.run_of_exec_any _ _
    (proxyMachine openConfig clockIds) StepMachine.anyStep (.start [] 1) _
    (fun p => p.front.peers.map (fun peer => (peer.proto.state, peer.proto.tunnelled)) =
      [(.established, [[7]])]) shippedSegment (by decide +kernel)
  obtain ⟨peer, only, known⟩ := List.map_eq_singleton_iff.mp (of_decide_eq_true checked)
  obtain ⟨established, tunnelled⟩ := Prod.ext_iff.mp known
  have found : p.front.peers[0]? = some peer := by
    rw [only]
    rfl
  obtain ⟨unopened, host, port, segments, requested, whole⟩ :=
    (shipped_client_carries_nothing run).2.2 0 peer found established
  have one : segments = [[7]] := whole.symm.trans tunnelled
  exact ⟨p, run, peer, host, port, only, unopened, one ▸ requested⟩

end Astrix
