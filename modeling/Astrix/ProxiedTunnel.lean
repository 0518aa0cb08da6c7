import Astrix.SealedTunnel
import Astrix.SocksTasks

/-!
# From SOCKS peers to the upstream

The tunnel of sealed bodies, with the SOCKS side of each client. It is a run of the
tunnel, and what comes out of it upstream are segments that a SOCKS peer sent.
-/

namespace Astrix

open PyRuntime Socks5Protocol

set_option autoImplicit false

/-- Each client's own settings and clocks. -/
structure ProxySettings where
  config : SocksConfig
  ids : IdSource

structure ProxiedTunnel where
  tunnel : SealedTunnel
  fronts : List SocksFront

inductive ProxiedAction where
  | socks (index : Nat) (event : SocksEvent)
  | tunnel (action : SealedAction)

def SealedAction.prompted : SealedAction → Bool
  | .client _ action _ => action.prompted
  | .arrive _ _ _ _ _ _ | .resume _ _ _ _ | .upstream _ _ _ | .deliver _ _ _ _ _ _ _ | .forge _
  | .relay _ _ _ _ _ _ => false

section Steps

variable (prims : Primitives) (settings : Nat → ProxySettings)

namespace ProxiedTunnel

def start (clients : List (Bytes × Nat)) : ProxiedTunnel where
  tunnel := .start clients
  fronts := clients.map fun _ => .start

/-- An `open` or a `write` posts nothing, so no encoder is called. -/
def step (p : ProxiedTunnel) : ProxiedAction → Option ProxiedTunnel
  | .socks index event =>
      match p.fronts[index]?, p.tunnel.clients[index]? with
      | some front, some client =>
          (front.step (settings index).config (settings index).ids client.conns event).bind
            fun (front, action) =>
              let fronts := p.fronts.set index front
              match action with
              | none => some { p with fronts := fronts }
              | some action =>
                  (p.tunnel.step prims (.client index action freshCodec)).map fun tunnel =>
                    ⟨tunnel, fronts⟩
      | _, _ => none
  | .tunnel action =>
      if action.prompted then none
      else (p.tunnel.step prims action).map fun tunnel => { p with tunnel := tunnel }

end ProxiedTunnel

def proxiedMachine : StepMachine ProxiedTunnel ProxiedAction :=
  ⟨ProxiedTunnel.step prims settings⟩

end Steps

section Clients

variable {prims : Primitives} {t later : SealedTunnel}

/-- What a step of the tunnel does to its clients. -/
theorem client_stepped {index : Nat} {action : ClientAction} {codec : Codec}
    (stepped : t.step prims (.client index action codec) = some later) :
    ∃ before after sent, t.clients[index]? = some before ∧
      before.react t.posted action = some (after, sent) ∧
        later.clients = t.clients.set index after := by
  simp only [SealedTunnel.step] at stepped
  split at stepped
  · next client found =>
      obtain ⟨⟨after, sent⟩, reacted, rfl⟩ := Option.map_eq_some_iff.mp stepped
      exact ⟨client, after, sent, found, reacted, rfl⟩
  · cases stepped

theorem served_clients {codec : Codec} {action : ServerAction}
    (served : t.serve prims codec action = some later) : later.clients = t.clients := by
  obtain ⟨_, _, rfl⟩ := Option.map_eq_some_iff.mp served
  rfl

theorem unprompted_step {action : SealedAction} (unprompted : action.prompted = false)
    (stepped : t.step prims action = some later) :
    later.clients = t.clients ∨ ∃ index before after, t.clients[index]? = some before ∧
      KeepsConns before after ∧ later.clients = t.clients.set index after := by
  cases action with
  | client index action codec =>
      obtain ⟨before, after, sent, found, reacted, clients⟩ := client_stepped stepped
      exact .inr ⟨index, before, after, found, react_keeps reacted unprompted, clients⟩
  | arrive index keep now atCheck afterScan codec =>
      simp only [SealedTunnel.step] at stepped
      split at stepped
      · split at stepped
        · exact .inl ((served_clients stepped).trans rfl)
        · cases stepped
          exact .inl rfl
      · cases stepped
  | resume index atCheck afterScan codec =>
      rw [SealedTunnel.step] at stepped
      exact .inl ((served_clients stepped).trans rfl)
  | upstream index act codec => exact .inl (served_clients stepped)
  | deliver index keep client worker sent rttMs now =>
      simp only [SealedTunnel.step] at stepped
      split at stepped
      · next sealed c _ found =>
          obtain ⟨after, taken, rfl⟩ := Option.map_eq_some_iff.mp stepped
          exact .inr ⟨client, c, after, found, answered_keeps taken, rfl⟩
      · cases stepped
  | forge post =>
      simp only [SealedTunnel.step] at stepped
      split at stepped
      · cases stepped
      · cases stepped
        exact .inl rfl
  | relay client worker response sent rttMs now =>
      simp only [SealedTunnel.step] at stepped
      split at stepped
      · next c _ found =>
          obtain ⟨after, taken, rfl⟩ := Option.map_eq_some_iff.mp stepped
          exact .inr ⟨client, c, after, found, answered_keeps taken, rfl⟩
      · cases stepped

end Clients

namespace ProxiedTunnel

variable {prims : Primitives} {settings : Nat → ProxySettings} {p later : ProxiedTunnel}
  {action : ProxiedAction} {history : List ProxiedAction} {clients : List (Bytes × Nat)}

/-- Every client is sound with its own SOCKS side. -/
def Sound (settings : Nat → ProxySettings) (p : ProxiedTunnel) : Prop :=
  ∀ (k : Nat) (client : Client), p.tunnel.clients[k]? = some client →
    ∃ front, p.fronts[k]? = some front ∧ FrontSound (settings k).config front client

/-- A step is one of a SOCKS side, with what the tunnel does for it, or one of the
tunnel that no SOCKS peer has prompted. -/
theorem step_cases (stepped : p.step prims settings action = some later) :
    (∃ index event front client next acts, p.fronts[index]? = some front ∧
        p.tunnel.clients[index]? = some client ∧
          front.step (settings index).config (settings index).ids client.conns event =
            some (next, acts) ∧
          later.fronts = p.fronts.set index next ∧
            (acts = none ∧ later.tunnel = p.tunnel ∨ ∃ act, acts = some act ∧
              p.tunnel.step prims (.client index act freshCodec) = some later.tunnel)) ∨
      ∃ inner, inner.prompted = false ∧ p.tunnel.step prims inner = some later.tunnel ∧
        later.fronts = p.fronts := by
  cases action with
  | socks index event =>
      simp only [step] at stepped
      split at stepped
      · next front client found present =>
          obtain ⟨⟨next, acts⟩, moved, done⟩ := Option.bind_eq_some_iff.mp stepped
          refine .inl ⟨index, event, front, client, next, acts, found, present, moved, ?_⟩
          cases acts with
          | none =>
              cases done
              exact ⟨rfl, .inl ⟨rfl, rfl⟩⟩
          | some act =>
              obtain ⟨tunnel, acted, rfl⟩ := Option.map_eq_some_iff.mp done
              exact ⟨rfl, .inr ⟨act, rfl, acted⟩⟩
      · cases stepped
  | tunnel inner =>
      simp only [step] at stepped
      split_ifs at stepped with prompted
      obtain ⟨tunnel, acted, rfl⟩ := Option.map_eq_some_iff.mp stepped
      exact .inr ⟨inner, Bool.eq_false_iff.mpr prompted, acted, rfl⟩

theorem start_sound (clients : List (Bytes × Nat)) : Sound settings (start clients) := by
  intro k client found
  obtain ⟨entry, listed, rfl⟩ := Option.map_eq_some_iff.mp (List.getElem?_map.symm.trans found)
  refine ⟨.start, ?_, start_front_sound _ _⟩
  exact List.getElem?_map.trans (congrArg (Option.map _) listed)

theorem Sound.replaced {k : Nat} {client : Client} {front : SocksFront} (sound : Sound settings p)
    (tunnel : later.tunnel.clients = p.tunnel.clients.set k client)
    (fronts : later.fronts = p.fronts.set k front)
    (here : FrontSound (settings k).config front client) : Sound settings later := by
  intro i other present
  rw [tunnel] at present
  rw [fronts]
  rcases place_of_set present with ⟨rfl, rfl⟩ | ⟨different, old⟩
  · have inside := (List.getElem?_eq_some_iff.mp present).1
    rw [List.length_set] at inside
    obtain ⟨_, found, _⟩ := sound k _ (List.getElem?_eq_getElem inside)
    exact ⟨front, List.getElem?_set_self (List.getElem?_eq_some_iff.mp found).1, here⟩
  · obtain ⟨front', found, known⟩ := sound i other old
    exact ⟨front', (List.getElem?_set_ne different).trans found, known⟩

theorem Sound.step (sound : Sound settings p)
    (stepped : p.step prims settings action = some later) : Sound settings later := by
  rcases step_cases stepped with
    ⟨k, event, front, client, next, acts, found, present, moved, fronts, done⟩ |
      ⟨inner, unprompted, moved, fronts⟩
  · obtain ⟨front', found', known⟩ := sound k client present
    cases found.symm.trans found'
    rcases done with ⟨rfl, same⟩ | ⟨act, rfl, acted⟩
    · have clients : later.tunnel.clients = p.tunnel.clients.set k client := by
        rw [same, set_place present]
      exact sound.replaced clients fronts (known.step moved rfl)
    · obtain ⟨before, after, sent, present', reacted, clients⟩ := client_stepped acted
      cases present.symm.trans present'
      exact sound.replaced clients fronts (known.step moved ⟨_, sent, reacted⟩)
  · rcases unprompted_step unprompted moved with same | ⟨k, before, after, present, keeps, clients⟩
    · intro k client present
      rw [same] at present
      rw [fronts]
      exact sound k client present
    · obtain ⟨front, found, known⟩ := sound k before present
      refine sound.replaced clients ?_ (known.kept keeps)
      rw [fronts, set_place found]

/-- What a SOCKS side opens has an id of sixteen bytes if its clocks make such ids. -/
theorem opens_named {config : SocksConfig} {ids : IdSource} {front next : SocksFront}
    {conns : List VirtualConn} {event : SocksEvent} {act : ClientAction}
    (named : ∀ loopTime monotonicNs sid, ids loopTime monotonicNs = .ok sid →
      sid.length = SessionIDLen)
    (moved : front.step config ids conns event = some (next, some act)) :
    Client.OpensNamed act := by
  cases event with
  | accept => cases moved
  | segment k data =>
      obtain ⟨peer, _, same⟩ := Option.map_eq_some_iff.mp moved
      cases same
  | task loopTime monotonicNs now =>
      simp only [SocksFront.step] at moved
      split at moved
      · cases moved
      · next task rest _ =>
          obtain ⟨peer, _, same⟩ := Option.map_eq_some_iff.mp moved
          cases task with
          | callback k host port =>
              simp only [SocksFront.begin] at same
              split at same
              · cases same
              · next sid made =>
                  cases same
                  exact named loopTime monotonicNs sid made
          | write k data =>
              simp only [SocksFront.begin] at same
              split at same
              · cases same
              · split_ifs at same <;> cases same
                exact True.intro
  | resume index =>
      simp only [SocksFront.step] at moved
      split at moved
      · cases moved
      · split at moved
        · cases moved
        · split_ifs at moved
          cases moved
          trivial

theorem unprompted_named (t : SealedTunnel) {inner : SealedAction}
    (unprompted : inner.prompted = false) : t.OpensNamed inner := by
  cases inner with
  | client index act codec =>
      cases act with
      | openConn => cases unprompted
      | write | conn | work | heard | cooled | health | stop => trivial
  | arrive | resume | upstream | deliver | forge | relay => trivial

/-- The SOCKS sides are sound, and what they do to the tunnel is a run of it. -/
theorem run_tunnel (named : ∀ k loopTime monotonicNs sid,
      (settings k).ids loopTime monotonicNs = .ok sid → sid.length = SessionIDLen)
    (run : (proxiedMachine prims settings).Run StepMachine.anyStep (start clients) history p) :
    p.Sound settings ∧
      ∃ steps, (sealedMachine prims).Run SealedTunnel.OpensNamed (.start clients) steps
        p.tunnel := by
  refine ⟨run.invariant (start_sound clients) fun _ _ _ sound _ stepped => sound.step stepped, ?_⟩
  refine (@StepMachine.Run.seen _ _ _ _ (proxiedMachine prims settings) (sealedMachine prims)
    StepMachine.anyStep SealedTunnel.OpensNamed tunnel (fun _ => True) _ _ _ run trivial
    (fun _ _ _ _ _ _ => trivial) ?_).2
  intro state action later _ _ stepped
  rcases step_cases stepped with
    ⟨k, _, _, _, _, _, _, _, moved, _, ⟨_, same⟩ | ⟨act, rfl, acted⟩⟩ |
      ⟨inner, unprompted, acted, _⟩
  · exact .inl same
  · exact .inr ⟨.client k act freshCodec, opens_named (named k) moved, acted⟩
  · exact .inr ⟨inner, unprompted_named _ unprompted, acted⟩

/-- The `VirtualConn` of a client is of one of its SOCKS peers, under the peer's id. -/
theorem Sound.owned {k i : Nat} {client : Client} {conn : VirtualConn} (sound : Sound settings p)
    (present : p.tunnel.clients[k]? = some client) (place : client.conns[i]? = some conn) :
    ∃ (front : SocksFront) (j : Nat) (peer : SocksPeer) (host : Text) (port : Nat)
      (segments : List Bytes), p.fronts[k]? = some front ∧ front.peers[j]? = some peer ∧
        peer.opened = some (i, (client.pool.objects conn.session).sessionId) ∧
          Requested (settings k).config peer host port segments ∧
            ∀ data ∈ conn.accepted, data ∈ segments := by
  obtain ⟨front, found, known⟩ := sound k client present
  obtain ⟨j, peer, sid, listed, opened⟩ := known.owners i conn place
  cases known.flows j peer listed with
  | negotiating _ _ _ unopened | called _ _ _ _ _ unopened | refused _ _ _ _ _ _ unopened =>
      cases opened.symm.trans unopened
  | served host port segments pending i' sid' conn' requested opened' place' _ own _ _ given =>
      cases opened.symm.trans opened'
      cases place.symm.trans place'
      refine ⟨front, j, peer, host, port, segments, found, listed, own.symm ▸ opened, requested,
        fun data member => ?_⟩
      exact requested.tunnelled.subset (given data (List.mem_append_left _ member))

/-- End to end, whatever the network does to the bodies: what is written to an upstream
are segments that a SOCKS peer of some client sent behind its CONNECT, and each
`VirtualConn` is of one SOCKS peer and writes to it what was read from an upstream;
both under the session id that was made for the peer. -/
theorem streams_join_socks_peers (lawful : prims.Lawful)
    (lengths : ∀ entry ∈ clients, entry.1.length = ClientIDLen)
    (named : ∀ k loopTime monotonicNs sid,
      (settings k).ids loopTime monotonicNs = .ok sid → sid.length = SessionIDLen)
    (run : (proxiedMachine prims settings).Run StepMachine.anyStep (start clients) history p) :
    (∀ w ∈ p.tunnel.server.workers, ∀ data ∈ w.written,
      ∃ (k j : Nat) (front : SocksFront) (peer : SocksPeer) (i : Nat) (host : Text) (port : Nat)
        (segments : List Bytes), p.fronts[k]? = some front ∧ front.peers[j]? = some peer ∧
          peer.opened = some (i, (p.tunnel.server.pool.objects w.session).sessionId) ∧
            Requested (settings k).config peer host port segments ∧ data ∈ segments) ∧
    ∀ (k i : Nat) (client : Client) (conn : VirtualConn), p.tunnel.clients[k]? = some client →
      client.conns[i]? = some conn → ∃ (front : SocksFront) (j : Nat) (peer : SocksPeer)
        (sid : Bytes), p.fronts[k]? = some front ∧ front.peers[j]? = some peer ∧
          peer.opened = some (i, sid) ∧ ∀ data ∈ conn.written, ∃ w ∈ p.tunnel.server.workers,
            (p.tunnel.server.pool.objects w.session).sessionId = sid ∧ data ∈ w.received := by
  obtain ⟨sound, steps, sealed⟩ := run_tunnel named run
  obtain ⟨frames, seen⟩ := (SealedTunnel.run_opened lawful lengths sealed).2
  have wired := Tunnel.run_wired seen
  constructor
  · intro w member data written
    obtain ⟨client, listed, conn, inside, own, accepted⟩ :=
      wired.server.written w member data written
    obtain ⟨k, present⟩ := List.mem_iff_getElem?.mp listed
    obtain ⟨i, place⟩ := List.mem_iff_getElem?.mp inside
    obtain ⟨front, j, peer, host, port, segments, found, seat, opened, requested, given⟩ :=
      sound.owned present place
    exact ⟨k, j, front, peer, i, host, port, segments, found, seat, own ▸ opened, requested,
      given data accepted⟩
  · intro k i client conn present place
    obtain ⟨front, j, peer, _, _, _, found, seat, opened, _, _⟩ := sound.owned present place
    refine ⟨front, j, peer, _, found, seat, opened, ?_⟩
    exact ((wired.clients client (List.mem_of_getElem? present)).conns conn
      (List.mem_of_getElem? place)).written

/-- A SOCKS peer asks for a target and sends a segment, which goes all the way up. -/
def sentSegment : List ProxiedAction :=
  [.socks 0 .accept, .socks 0 (.segment 0 [5, 1, 0]),
    .socks 0 (.segment 0 [5, 1, 0, 1, 127, 0, 0, 1, 0, 80]), .socks 0 (.segment 0 [7]),
    .socks 0 (.task 0 5 0), .socks 0 (.task 0 6 0),
    .tunnel (.client 0 (.conn 0 (.drainChunk 0)) freshCodec),
    .tunnel (.client 0 (.work 0 0) freshCodec), .tunnel (.arrive 0 false 0 0 0 freshCodec),
    .tunnel (.upstream 0 .begin freshCodec), .tunnel (.upstream 0 .dialed freshCodec),
    .tunnel (.upstream 0 .wake freshCodec), .tunnel (.upstream 0 .pop freshCodec)]

def counterSettings : Nat → ProxySettings := fun _ => ⟨openConfig, ProxyProcess.counterIds⟩

theorem sent_segment_joins : ∃ p : ProxiedTunnel,
    (proxiedMachine tagPrimitives counterSettings).Run StepMachine.anyStep
        (start [(streamClientId, 1)]) sentSegment p ∧
      ∃ (k j : Nat) (front : SocksFront) (peer : SocksPeer) (host : Text) (port : Nat)
        (segments : List Bytes), p.fronts[k]? = some front ∧ front.peers[j]? = some peer ∧
          Requested openConfig peer host port segments ∧ [7] ∈ segments := by
  obtain ⟨p, run, checked⟩ := @StepMachine.run_of_exec_any _ _
    (proxiedMachine tagPrimitives counterSettings) StepMachine.anyStep
    (start [(streamClientId, 1)]) _
    (fun p => p.tunnel.server.workers.map UpstreamWorker.written = [[[7]]]) sentSegment
    (by decide +kernel)
  obtain ⟨w, only, written⟩ := List.map_eq_singleton_iff.mp (of_decide_eq_true checked)
  have ids : ∀ k loopTime monotonicNs sid,
      (counterSettings k).ids loopTime monotonicNs = .ok sid → sid.length = SessionIDLen := by
    intro k loopTime monotonicNs sid made
    cases made
    exact big_endian_length _ _
  have listed : w ∈ p.tunnel.server.workers := by
    rw [only]
    exact List.mem_singleton_self w
  have chunk : [7] ∈ w.written := by
    rw [written]
    exact List.mem_singleton_self _
  obtain ⟨k, j, front, peer, _, host, port, segments, found, present, _, requested, sent⟩ :=
    (streams_join_socks_peers tag_primitives_lawful (by decide) ids run).1 w listed [7] chunk
  exact ⟨p, run, k, j, front, peer, host, port, segments, found, present, requested, sent⟩

end ProxiedTunnel

end Astrix
