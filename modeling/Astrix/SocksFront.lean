import Astrix.ClientRuns
import Astrix.IdleClient
import Astrix.SessionIds
import Astrix.SocksAuth
import Astrix.SocksSegments
import Astrix.Targets

/-!
# The SOCKS side of a client

Every accepted connection has a `SOCKS5Protocol` of its own. What the protocol
starts are tasks of the event loop: one callback, which opens the session, and one
`write` for each segment behind the CONNECT. Tasks begin in the order in which they
were created and run to their end; only a `write` that finds the queue of its
connection full waits, and writes that wait go on in any order.
-/

namespace Astrix

open PyRuntime Socks5Protocol

set_option autoImplicit false

/-- `open` makes the id of its session from `loop.time()` and `time.monotonic_ns()`. -/
abbrev IdSource := ℚ → Nat → Except OpenError Bytes

/-- `open` as it stands. -/
def clockIds : IdSource := fun loopTime monotonicNs =>
  packSessionId (.float loopTime) (.int monotonicNs)

/-- `opened` is the number of the connection's `VirtualConn` and its session id, once
`open` has returned; `segments` records what `data_received` was given. -/
structure SocksPeer where
  proto : Socks5Protocol
  opened : Option (Nat × Bytes)
  segments : List Bytes

inductive SocksTask where
  | callback (peer : Nat) (host : Text) (port : Nat)
  | write (peer : Nat) (data : Bytes)
  deriving DecidableEq

/-- `waited` counts the writes that have found a full queue. -/
structure SocksFront where
  peers : List SocksPeer
  tasks : List SocksTask
  waiting : List (Nat × Bytes)
  waited : Nat

inductive SocksEvent where
  | accept
  | segment (peer : Nat) (data : Bytes)
  | task (loopTime : ℚ) (monotonicNs : Nat) (now : ℚ)
  | resume (index : Nat)
  deriving DecidableEq

def SocksTask.peer : SocksTask → Nat
  | .callback peer _ _ | .write peer _ => peer

/-- The tasks that a call of `data_received` has created. -/
def SocksTask.created (peer : Nat) (before later : Socks5Protocol) : List SocksTask :=
  (later.callbacks.drop before.callbacks.length).map (fun target =>
      .callback peer target.1 target.2) ++
    (later.tunnelled.drop before.tunnelled.length).map (.write peer)

namespace SocksPeer

def new : SocksPeer where
  proto := .new
  opened := none
  segments := []

/-- The `VirtualConn` whose `open` has returned, with its number. -/
def link (conns : List VirtualConn) (peer : SocksPeer) : Option (Nat × VirtualConn) :=
  peer.opened.bind fun (i, _) => conns[i]?.map fun conn => (i, conn)

def dataReceived (config : SocksConfig) (conns : List VirtualConn) (peer : SocksPeer)
    (data : Bytes) : SocksPeer :=
  let virtualClosed := (peer.link conns).any fun (_, conn) => conn.closed
  { peer with
    proto := { peer.proto with virtualClosed := virtualClosed }.dataReceived config data
    segments := peer.segments ++ [data] }

end SocksPeer

namespace SocksFront

def start : SocksFront where
  peers := []
  tasks := []
  waiting := []
  waited := 0

/-- A task runs; `handle_new_conn` logs what `open` raises. A `write` without a
session or to a closed connection returns at once. -/
def begin (ids : IdSource) (front : SocksFront) (conns : List VirtualConn) (loopTime : ℚ)
    (monotonicNs : Nat) (now : ℚ) (peer : SocksPeer) :
    SocksTask → SocksFront × Option ClientAction
  | .callback k host port =>
      match ids loopTime monotonicNs with
      | .error _ => (front, none)
      | .ok sid =>
          ({ front with
              peers := front.peers.set k { peer with opened := some (conns.length, sid) } },
            some (.openConn sid (targetText host port) now))
  | .write k data =>
      match peer.link conns with
      | none => (front, none)
      | some (i, conn) =>
          if conn.closed then (front, none)
          else if conn.txQueue.length < txQueueMaxsize then (front, some (.write i data))
          else
            ({ front with
                waiting := front.waiting ++ [(k, data)]
                waited := front.waited + 1 }, none)

/-- What an event does, and what it makes the client do. -/
def step (config : SocksConfig) (ids : IdSource) (front : SocksFront)
    (conns : List VirtualConn) : SocksEvent → Option (SocksFront × Option ClientAction)
  | .accept => some ({ front with peers := front.peers ++ [.new] }, none)
  | .segment k data => front.peers[k]?.map fun peer =>
      let later := peer.dataReceived config conns data
      ({ front with
          peers := front.peers.set k later
          tasks := front.tasks ++ SocksTask.created k peer.proto later.proto }, none)
  | .task loopTime monotonicNs now =>
      match front.tasks with
      | [] => none
      | task :: rest => front.peers[task.peer]?.map fun peer =>
          { front with tasks := rest }.begin ids conns loopTime monotonicNs now peer task
  | .resume index =>
      match front.waiting[index]? with
      | none => none
      | some (k, data) =>
          match front.peers[k]?.bind (SocksPeer.link conns) with
          | none => none
          | some (i, conn) =>
              if conn.txQueue.length < txQueueMaxsize then
                some ({ front with waiting := front.waiting.eraseIdx index },
                  some (.write i data))
              else none

end SocksFront

/-- A client with its SOCKS server. -/
structure ProxyProcess where
  state : RunningClient
  front : SocksFront

inductive ProxyEvent where
  | socks (event : SocksEvent)
  | client (event : ClientEvent)
  deriving DecidableEq

def ClientEvent.prompted : ClientEvent → Bool
  | .act action => action.prompted
  | .answered _ _ _ _ _ => false

namespace ProxyProcess

def start (clientId : Bytes) (endpoints : Nat) : ProxyProcess where
  state := .start clientId endpoints
  front := .start

/-- Sessions are opened and chunks written by the tasks of the SOCKS side only. -/
def step (config : SocksConfig) (ids : IdSource) (p : ProxyProcess) :
    ProxyEvent → Option ProxyProcess
  | .socks event =>
      (p.front.step config ids p.state.client.conns event).bind fun (front, action) =>
        match action with
        | none => some { p with front := front }
        | some action => (p.state.step (.act action)).map fun state => ⟨state, front⟩
  | .client event =>
      if event.prompted then none
      else (p.state.step event).map fun state => { p with state := state }

end ProxyProcess

def proxyMachine (config : SocksConfig) (ids : IdSource) : StepMachine ProxyProcess ProxyEvent :=
  ⟨ProxyProcess.step config ids⟩

section Segments

variable {config : SocksConfig} {p later : Socks5Protocol} {data : Bytes}

/-- Everything a segment can do to a connection. -/
inductive TakesSegment (config : SocksConfig) (p : Socks5Protocol) (data : Bytes)
    (later : Socks5Protocol) : Prop where
  | negotiates (state : p.state ≠ .established) (next : later.state ≠ .established)
      (callbacks : later.callbacks = p.callbacks) (tunnelled : later.tunnelled = p.tunnelled)
  | connects (state : p.state = .command) (host : Text) (port : Nat)
      (next : later.state = .established) (created : later.created = p.created ++ [(host, port)])
      (callbacks : later.callbacks = p.callbacks ++ [(host, port)])
      (buffer : later.buffer = []) (tunnelled : later.tunnelled = p.tunnelled)
      (replied : later.closing = false → successReply config.sockname <:+ later.written)
  | tunnels (state : p.state = .established) (opened : p.virtualClosed = false)
      (same : later = { p with
        buffer := p.buffer ++ data
        tunnelled := p.tunnelled ++ [data] })
  | ignores (state : p.state = .established) (ended : p.created = [] ∨ p.virtualClosed = true)
      (same : later = { p with buffer := p.buffer ++ data })

theorem follow_connects_reply (p : Socks5Protocol) (host : Text) (port : Nat) :
    (p.follow config (.connect host port)).buffer = [] ∧
      ((p.follow config (.connect host port)).closing = false →
        successReply config.sockname <:+ (p.follow config (.connect host port)).written) := by
  rw [follow, Socks5Protocol.write]
  split_ifs with closing
  · exact ⟨rfl, fun open_ => absurd (closing.symm.trans open_) (by decide)⟩
  · exact ⟨rfl, fun _ => List.suffix_append _ _⟩

theorem data_received_cases (config : SocksConfig) (p : Socks5Protocol) (data : Bytes) :
    TakesSegment config p data (p.dataReceived config data) := by
  by_cases established : p.state = .established
  · rw [Socks5Protocol.dataReceived, if_pos established, handleTunnelData]
    split_ifs with active
    · exact .tunnels established (by simpa using active.2) rfl
    · refine .ignores established ?_ rfl
      by_contra neither
      rw [not_or] at neither
      exact active ⟨neither.1, by simpa using neither.2⟩
  · rw [data_received_open established]
    have tunnelled := @follow_tunnelled config { p with buffer := p.buffer ++ data }
    cases verdict : verdictIn config (p.buffer ++ data) p.state with
    | incomplete => exact .negotiates established established rfl rfl
    | reject reply =>
        obtain ⟨state, _, callbacks⟩ :=
          @follow_rejects config { p with buffer := p.buffer ++ data } reply
        exact .negotiates established (fun same => established (state.symm.trans same)) callbacks
          (tunnelled _)
    | advance reply next =>
        obtain ⟨state, _, callbacks⟩ :=
          @follow_advances config { p with buffer := p.buffer ++ data } reply next
        refine .negotiates established ?_ callbacks (tunnelled _)
        rw [state]
        rcases verdict_advances verdict with ⟨_, rfl⟩ | ⟨_, rfl, _⟩
        · split_ifs <;> decide
        · decide
    | connect host port =>
        obtain ⟨state, created, callbacks⟩ :=
          @follow_connects config { p with buffer := p.buffer ++ data } host port
        obtain ⟨buffer, replied⟩ :=
          @follow_connects_reply config { p with buffer := p.buffer ++ data } host port
        exact .connects (verdict_connects verdict) host port state created callbacks buffer
          (tunnelled _) replied

theorem virtual_closed_same (config : SocksConfig) (p : Socks5Protocol) (data : Bytes) :
    (p.dataReceived config data).virtualClosed = p.virtualClosed := by
  rw [Socks5Protocol.dataReceived]
  split_ifs
  · rw [handleTunnelData]
    split_ifs <;> rfl
  · cases verdictIn config (p.buffer ++ data) p.state with
    | incomplete => rfl
    | reject reply | advance reply next | connect host port =>
        simp only [follow, Socks5Protocol.write]
        split_ifs <;> rfl

theorem receive_virtual_open (config : SocksConfig) (segments : List Bytes) :
    (receive config segments).virtualClosed = false := by
  induction segments using List.reverseRecOn with
  | nil => rfl
  | append_singleton segments data ih => rw [receive_snoc, virtual_closed_same, ih]

/-- Up to the CONNECT a connection is what its segments make of it. -/
theorem peer_negotiates {conns : List VirtualConn} {peer : SocksPeer}
    (proto : peer.proto = receive config peer.segments) (unopened : peer.opened = none) :
    (peer.dataReceived config conns data).proto =
      receive config (peer.segments ++ [data]) := by
  have open_ : peer.proto.virtualClosed = false := proto ▸ receive_virtual_open config _
  have same : { peer.proto with virtualClosed := false } = peer.proto := by
    rw [← open_]
  rw [SocksPeer.dataReceived, SocksPeer.link, unopened, receive_snoc, ← proto]
  exact congrArg (fun p : Socks5Protocol => p.dataReceived config data) same

end Segments

section Created

variable {peer : Nat} {before later : Socks5Protocol}

theorem created_nothing (callbacks : later.callbacks = before.callbacks)
    (tunnelled : later.tunnelled = before.tunnelled) :
    SocksTask.created peer before later = [] := by
  rw [SocksTask.created, callbacks, tunnelled, List.drop_length, List.drop_length]
  rfl

theorem created_callback {host : Text} {port : Nat}
    (callbacks : later.callbacks = before.callbacks ++ [(host, port)])
    (tunnelled : later.tunnelled = before.tunnelled) :
    SocksTask.created peer before later = [.callback peer host port] := by
  rw [SocksTask.created, callbacks, tunnelled, List.drop_left, List.drop_length]
  rfl

theorem created_write {data : Bytes} (callbacks : later.callbacks = before.callbacks)
    (tunnelled : later.tunnelled = before.tunnelled ++ [data]) :
    SocksTask.created peer before later = [.write peer data] := by
  rw [SocksTask.created, callbacks, tunnelled, List.drop_left, List.drop_length]
  rfl

theorem created_peer (peer : Nat) (before later : Socks5Protocol) :
    ∀ task ∈ SocksTask.created peer before later, task.peer = peer := by
  intro task member
  rcases List.mem_append.mp member with callback | write
  · obtain ⟨_, _, rfl⟩ := List.mem_map.mp callback
    rfl
  · obtain ⟨_, _, rfl⟩ := List.mem_map.mp write
    rfl

end Created

/-- The connection has asked for a host and a port; `later` are the segments since. -/
structure Requested (config : SocksConfig) (peer : SocksPeer) (host : Text) (port : Nat)
    (later : List Bytes) : Prop where
  negotiation : ∃ negotiation, peer.segments = negotiation ++ later ∧
    (receive config negotiation).state = .established ∧
      (receive config negotiation).created = [(host, port)]
  state : peer.proto.state = .established
  created : peer.proto.created = [(host, port)]
  buffer : peer.proto.buffer = later.flatten
  tunnelled : peer.proto.tunnelled <+: later
  replied : peer.proto.closing = false → successReply config.sockname <:+ peer.proto.written

/-- Where the segments of a connection are. `waited` is the count of all writes that
have waited; until there is one, the chunks stay in order. -/
inductive Flow (config : SocksConfig) (client : Client) (k waited : Nat) (peer : SocksPeer)
    (tasks : List SocksTask) : Prop where
  | negotiating (state : peer.proto.state ≠ .established)
      (proto : peer.proto = receive config peer.segments)
      (tunnelled : peer.proto.tunnelled = []) (opened : peer.opened = none) (idle : tasks = [])
  | called (host : Text) (port : Nat) (later : List Bytes)
      (requested : Requested config peer host port later) (whole : peer.proto.tunnelled = later)
      (opened : peer.opened = none)
      (queued : tasks = .callback k host port :: later.map (.write k))
  | refused (host : Text) (port : Nat) (later pending : List Bytes)
      (requested : Requested config peer host port later) (whole : peer.proto.tunnelled = later)
      (opened : peer.opened = none) (queued : tasks = pending.map (.write k))
  | served (host : Text) (port : Nat) (later pending : List Bytes) (i : Nat) (sid : Bytes)
      (conn : VirtualConn) (requested : Requested config peer host port later)
      (opened : peer.opened = some (i, sid)) (place : client.conns[i]? = some conn)
      (bound : conn.session < client.pool.fresh)
      (own : (client.pool.objects conn.session).sessionId = sid)
      (whole : conn.closed = false → peer.proto.tunnelled = later)
      (queued : tasks = pending.map (.write k))
      (given : ∀ data ∈ conn.accepted ++ pending, data ∈ peer.proto.tunnelled)
      (order : waited = 0 → conn.accepted <+: peer.proto.tunnelled ∧
        (conn.closed = false → conn.accepted ++ pending = peer.proto.tunnelled))

section Flows

variable {config : SocksConfig} {client : Client} {k waited : Nat} {peer : SocksPeer}
  {tasks : List SocksTask} {host : Text} {port : Nat} {later : List Bytes}

theorem Requested.tunnels {conns : List VirtualConn}
    (requested : Requested config peer host port later)
    (whole : peer.proto.tunnelled = later) (data : Bytes)
    (same : (peer.dataReceived config conns data).proto = { peer.proto with
      virtualClosed := false
      buffer := peer.proto.buffer ++ data
      tunnelled := peer.proto.tunnelled ++ [data] }) :
    Requested config (peer.dataReceived config conns data) host port (later ++ [data]) := by
  obtain ⟨negotiation, split, done⟩ := requested.negotiation
  refine ⟨⟨negotiation, ?_, done⟩, ?_, ?_, ?_, ?_, ?_⟩
  · rw [← List.append_assoc, ← split]
    rfl
  · rw [same]
    exact requested.state
  · rw [same]
    exact requested.created
  · rw [same, List.flatten_concat, ← requested.buffer]
  · rw [same, whole]
  · rw [same]
    exact requested.replied

theorem Requested.ignores {conns : List VirtualConn}
    (requested : Requested config peer host port later)
    (data : Bytes)
    (same : (peer.dataReceived config conns data).proto = { peer.proto with
      virtualClosed := true
      buffer := peer.proto.buffer ++ data }) :
    Requested config (peer.dataReceived config conns data) host port (later ++ [data]) := by
  obtain ⟨negotiation, split, done⟩ := requested.negotiation
  refine ⟨⟨negotiation, ?_, done⟩, ?_, ?_, ?_, ?_, ?_⟩
  · rw [← List.append_assoc, ← split]
    rfl
  · rw [same]
    exact requested.state
  · rw [same]
    exact requested.created
  · rw [same, List.flatten_concat, ← requested.buffer]
  · rw [same]
    exact requested.tunnelled.trans (List.prefix_append _ _)
  · rw [same]
    exact requested.replied

/-- Behind the CONNECT a segment becomes a task until the connection is closed. -/
theorem Requested.received {conns : List VirtualConn}
    (requested : Requested config peer host port later)
    (data : Bytes) {closed : Bool}
    (link : (peer.link conns).any (fun (_, conn) => conn.closed) = closed) :
    (closed = false ∧ (peer.dataReceived config conns data).proto = { peer.proto with
        virtualClosed := false
        buffer := peer.proto.buffer ++ data
        tunnelled := peer.proto.tunnelled ++ [data] } ∧
      SocksTask.created k peer.proto (peer.dataReceived config conns data).proto =
        [.write k data]) ∨
    (closed = true ∧ (peer.dataReceived config conns data).proto = { peer.proto with
        virtualClosed := true
        buffer := peer.proto.buffer ++ data } ∧
      SocksTask.created k peer.proto (peer.dataReceived config conns data).proto = []) := by
  have proto : (peer.dataReceived config conns data).proto =
      { peer.proto with virtualClosed := closed }.dataReceived config data := by
    rw [← link]
    rfl
  cases data_received_cases config { peer.proto with virtualClosed := closed } data with
  | negotiates state => exact absurd requested.state state
  | connects state => cases state.symm.trans requested.state
  | tunnels state opened same =>
      cases opened
      refine .inl ⟨rfl, proto.trans same, created_write ?_ ?_⟩ <;> rw [proto, same]
  | ignores state ended same =>
      rcases ended with never | ended
      · cases requested.created.symm.trans never
      · cases ended
        refine .inr ⟨rfl, proto.trans same, created_nothing ?_ ?_⟩ <;> rw [proto, same]

theorem link_unopened {conns : List VirtualConn} (unopened : peer.opened = none) :
    peer.link conns = none := by
  rw [SocksPeer.link, unopened]
  rfl

theorem link_open {conns : List VirtualConn} (unopened : peer.opened = none) :
    (peer.link conns).any (fun (_, conn) => conn.closed) = false := by
  rw [link_unopened unopened]
  rfl

theorem link_opened {conns : List VirtualConn} {i : Nat} {sid : Bytes} {conn : VirtualConn}
    (opened : peer.opened = some (i, sid)) (place : conns[i]? = some conn) :
    peer.link conns = some (i, conn) := by
  rw [SocksPeer.link, opened, Option.bind_some]
  exact congrArg (Option.map fun conn => (i, conn)) place

theorem map_write_snoc (pending : List Bytes) (data : Bytes) :
    pending.map (SocksTask.write k) ++ [.write k data] =
      (pending ++ [data]).map (SocksTask.write k) := by
  rw [List.map_append, List.map_singleton]

/-- A segment for a connection that negotiates. -/
theorem Flow.negotiated (state : peer.proto.state ≠ .established)
    (proto : peer.proto = receive config peer.segments) (silent : peer.proto.tunnelled = [])
    (unopened : peer.opened = none) (data : Bytes) :
    Flow config client k waited (peer.dataReceived config client.conns data)
      (SocksTask.created k peer.proto (peer.dataReceived config client.conns data).proto) := by
  have reached := @peer_negotiates config data client.conns peer proto unopened
  have step := data_received_cases config peer.proto data
  rw [proto, ← receive_snoc, ← reached, ← proto] at step
  cases step with
  | negotiates _ next callbacks tunnelled =>
      exact .negotiating next reached (tunnelled.trans silent) unopened
        (created_nothing callbacks tunnelled)
  | connects _ host port next created callbacks buffer tunnelled replied =>
      have first : peer.proto.created = [] := by
        have one := (receive_sound config peer.segments).one
        rw [← proto, if_neg state] at one
        exact List.eq_nil_of_length_eq_zero one
      have made : (peer.dataReceived config client.conns data).proto.created = [(host, port)] := by
        rw [created, first]
        rfl
      refine .called host port [] ⟨⟨peer.segments ++ [data], ?_, ?_, ?_⟩, next, made, buffer, ?_,
        replied⟩
        (tunnelled.trans silent) unopened (created_callback callbacks tunnelled)
      · exact (List.append_nil _).symm
      · rw [← reached]
        exact next
      · rw [← reached]
        exact made
      · rw [tunnelled, silent]
  | tunnels established => exact absurd established state
  | ignores established => exact absurd established state

theorem Flow.received (flow : Flow config client k waited peer tasks) (data : Bytes) :
    Flow config client k waited (peer.dataReceived config client.conns data)
      (tasks ++ SocksTask.created k peer.proto
        (peer.dataReceived config client.conns data).proto) := by
  cases flow with
  | negotiating state proto tunnelled opened idle =>
      rw [idle]
      exact Flow.negotiated state proto tunnelled opened data
  | called host port later requested whole opened queued =>
      rcases @Requested.received config k peer host port later _ requested data _
          (link_open opened) with
        ⟨_, same, made⟩ | ⟨impossible, _⟩
      · refine .called host port (later ++ [data]) (requested.tunnels whole data same) ?_ opened ?_
        · rw [same, whole]
        · rw [made, queued, List.cons_append, map_write_snoc]
      · cases impossible
  | refused host port later pending requested whole opened queued =>
      rcases @Requested.received config k peer host port later _ requested data _
          (link_open opened) with
        ⟨_, same, made⟩ | ⟨impossible, _⟩
      · refine .refused host port (later ++ [data]) (pending ++ [data])
          (requested.tunnels whole data same) ?_ opened ?_
        · rw [same, whole]
        · rw [made, queued, map_write_snoc]
      · cases impossible
  | served host port later pending i sid conn requested opened place bound own whole queued given
      order =>
      have known : (peer.link client.conns).any (fun (_, conn) => conn.closed) = conn.closed := by
        rw [link_opened opened place]
        rfl
      rcases @Requested.received config k peer host port later _ requested data _ known with
        ⟨open_, same, made⟩ | ⟨closed, same, made⟩
      · refine .served host port (later ++ [data]) (pending ++ [data]) i sid conn
          (requested.tunnels (whole open_) data same) opened place bound own (fun _ => ?_) ?_ ?_ ?_
        · rw [same, whole open_]
        · rw [made, queued, map_write_snoc]
        · rw [same, ← List.append_assoc]
          intro other member
          rcases List.mem_append.mp member with old | new
          · exact List.mem_append_left _ (given other old)
          · exact List.mem_append_right _ new
        · intro never
          obtain ⟨front, all⟩ := order never
          rw [same]
          refine ⟨front.trans (List.prefix_append _ _), fun _ => ?_⟩
          dsimp only
          rw [← List.append_assoc, all open_]
      · refine .served host port (later ++ [data]) pending i sid conn (requested.ignores data same)
          opened place bound own (fun open_ => ?_) ?_ ?_ ?_
        · rw [closed] at open_
          cases open_
        · rw [made, queued, List.append_nil]
        · rw [same]
          exact given
        · rw [same]
          exact order

/-- What the steps of a client leave of its connections. -/
structure KeepsConns (before after : Client) : Prop where
  pool : before.pool.Extends after.pool
  same : after.conns.length = before.conns.length
  conns : ∀ (i : Nat) (conn : VirtualConn), before.conns[i]? = some conn →
    ∃ conn' : VirtualConn, after.conns[i]? = some conn' ∧ conn'.session = conn.session ∧
      conn'.accepted = conn.accepted ∧ (conn.closed = true → conn'.closed = true)

theorem Flow.kept {after : Client} (flow : Flow config client k waited peer tasks)
    (kept : KeepsConns client after) : Flow config after k waited peer tasks := by
  cases flow with
  | negotiating state proto tunnelled opened idle =>
      exact .negotiating state proto tunnelled opened idle
  | called host port later requested whole opened queued =>
      exact .called host port later requested whole opened queued
  | refused host port later pending requested whole opened queued =>
      exact .refused host port later pending requested whole opened queued
  | served host port later pending i sid conn requested opened place bound own whole queued given
      order =>
      obtain ⟨conn', place', session, accepted, closed⟩ := kept.conns i conn place
      have before : conn'.closed = false → conn.closed = false := fun open_ =>
        Bool.eq_false_iff.mpr fun ended => by
          rw [closed ended] at open_
          cases open_
      refine .served host port later pending i sid conn' requested opened place' ?_ ?_
        (fun open_ => whole (before open_)) queued ?_ ?_
      · rw [session]
        exact bound.trans_le kept.pool.fresh
      · rw [session, kept.pool.ids _ bound]
        exact own
      · rw [accepted]
        exact given
      · rw [accepted]
        exact fun never => ⟨(order never).1, fun open_ => (order never).2 (before open_)⟩

/-- Another connection moved on. -/
theorem Flow.elsewhere {after : Client} {count : Nat}
    (flow : Flow config client k waited peer tasks) (pool : client.pool.Extends after.pool)
    (same : ∀ i sid, peer.opened = some (i, sid) → after.conns[i]? = client.conns[i]?)
    (more : count = 0 → waited = 0) : Flow config after k count peer tasks := by
  cases flow with
  | negotiating state proto tunnelled opened idle =>
      exact .negotiating state proto tunnelled opened idle
  | called host port later requested whole opened queued =>
      exact .called host port later requested whole opened queued
  | refused host port later pending requested whole opened queued =>
      exact .refused host port later pending requested whole opened queued
  | served host port later pending i sid conn requested opened place bound own whole queued given
      order =>
      exact .served host port later pending i sid conn requested opened
        ((same i sid opened).trans place) (bound.trans_le pool.fresh)
        ((pool.ids _ bound).trans own) whole queued given fun never => order (more never)

end Flows

end Astrix
