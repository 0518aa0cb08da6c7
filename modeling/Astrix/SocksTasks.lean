import Astrix.SocksFront

/-!
# The tasks of SOCKS connections

One step of the SOCKS side of a client touches one connection. From this, what holds
along every run of a client process: a connection's `VirtualConn` is its own, and what
it accepts are the segments behind the CONNECT, in order as long as none has waited.
-/

namespace Astrix

open PyRuntime Socks5Protocol

set_option autoImplicit false

def SocksFront.tasksOf (front : SocksFront) (k : Nat) : List SocksTask :=
  front.tasks.filter fun task => task.peer = k

structure FrontSound (config : SocksConfig) (front : SocksFront) (client : Client) : Prop where
  flows : ∀ (k : Nat) (peer : SocksPeer), front.peers[k]? = some peer →
    Flow config client k front.waited peer (front.tasksOf k)
  owners : ∀ (i : Nat) (conn : VirtualConn), client.conns[i]? = some conn →
    ∃ (k : Nat) (peer : SocksPeer) (sid : Bytes),
      front.peers[k]? = some peer ∧ peer.opened = some (i, sid)
  apart : ∀ (k other : Nat) (peer peer' : SocksPeer) (i : Nat) (sid sid' : Bytes),
    front.peers[k]? = some peer → front.peers[other]? = some peer' →
      peer.opened = some (i, sid) → peer'.opened = some (i, sid') → k = other
  known : ∀ task ∈ front.tasks, task.peer < front.peers.length
  waits : ∀ k data, (k, data) ∈ front.waiting → ∃ peer, front.peers[k]? = some peer ∧
    peer.opened ≠ none ∧ data ∈ peer.proto.tunnelled
  idle : front.waited = 0 → front.waiting = []

section Fronts

variable {config : SocksConfig} {ids : IdSource} {front later : SocksFront}
  {client after : Client} {k : Nat} {peer : SocksPeer} {action : Option ClientAction}

theorem start_front_sound (clientId : Bytes) (endpoints : Nat) :
    FrontSound config .start (Client.start clientId endpoints) where
  flows _ _ found := by cases found
  owners _ _ present := by cases present
  apart _ _ _ _ _ _ _ found := by cases found
  known _ member := by cases member
  waits _ _ member := by cases member
  idle _ := rfl

theorem FrontSound.kept (sound : FrontSound config front client)
    (kept : KeepsConns client after) : FrontSound config front after where
  flows k peer found := (sound.flows k peer found).kept kept
  owners i conn present := by
    have inside : i < client.conns.length := kept.same ▸ (List.getElem?_eq_some_iff.mp present).1
    exact sound.owners i _ (List.getElem?_eq_getElem inside)
  apart := sound.apart
  known := sound.known
  waits := sound.waits
  idle := sound.idle

theorem tasks_of_created {other : Nat} {before next : Socks5Protocol} :
    (SocksTask.created k before next).filter (fun task => decide (task.peer = other)) =
      if k = other then SocksTask.created k before next else [] := by
  split_ifs with here
  · refine List.filter_eq_self.mpr fun task member => ?_
    rw [created_peer _ _ _ task member, here]
    exact decide_eq_true rfl
  · refine List.filter_eq_nil_iff.mpr fun task member => ?_
    rw [created_peer _ _ _ task member]
    simpa using here

/-- What a segment keeps of what is known of a connection. -/
theorem data_received_kept (config : SocksConfig) (conns : List VirtualConn) (peer : SocksPeer)
    (data : Bytes) : (peer.dataReceived config conns data).opened = peer.opened ∧
      peer.proto.tunnelled <+: (peer.dataReceived config conns data).proto.tunnelled := by
  refine ⟨rfl, ?_⟩
  cases data_received_cases config { peer.proto with
      virtualClosed := (peer.link conns).any (·.2.closed) } data with
  | negotiates _ _ _ tunnelled | connects _ _ _ _ _ _ _ tunnelled _ =>
      exact tunnelled ▸ List.prefix_refl _
  | tunnels _ _ same =>
      have grown := congrArg Socks5Protocol.tunnelled same
      exact ⟨[data], grown.symm⟩
  | ignores _ _ same =>
      have kept := congrArg Socks5Protocol.tunnelled same
      exact ⟨[], (List.append_nil _).trans kept.symm⟩

theorem place_of_snoc {Item : Type} {items : List Item} {last item : Item} {i : Nat}
    (found : (items ++ [last])[i]? = some item) :
    items[i]? = some item ∨ i = items.length ∧ item = last := by
  rw [List.getElem?_append] at found
  split_ifs at found with inside
  · exact .inl found
  · rw [List.getElem?_singleton] at found
    split_ifs at found with first
    cases found
    exact .inr ⟨by omega, rfl⟩

theorem place_of_set {Item : Type} {items : List Item} {new item : Item} {k i : Nat}
    (found : (items.set k new)[i]? = some item) :
    k = i ∧ item = new ∨ k ≠ i ∧ items[i]? = some item := by
  by_cases here : k = i
  · refine .inl ⟨here, ?_⟩
    rw [List.getElem?_set, if_pos here] at found
    split_ifs at found
    exact (Option.some.inj found).symm
  · exact .inr ⟨here, (List.getElem?_set_ne here).symm.trans found⟩

theorem FrontSound.accept (sound : FrontSound config front client) :
    FrontSound config { front with peers := front.peers ++ [.new] } client where
  flows k peer found := by
    rcases place_of_snoc found with old | ⟨here, new⟩
    · exact sound.flows k peer old
    · rw [new]
      refine .negotiating (by decide) rfl rfl rfl (List.filter_eq_nil_iff.mpr ?_)
      intro task member
      have known := sound.known task member
      simp only [decide_eq_true_eq]
      omega
  owners i conn present := by
    obtain ⟨k, peer, sid, found, opened⟩ := sound.owners i conn present
    refine ⟨k, peer, sid, ?_, opened⟩
    exact (List.getElem?_append_left (List.getElem?_eq_some_iff.mp found).1).trans found
  apart k other peer peer' i sid sid' found found' opened opened' := by
    rcases place_of_snoc found with old | ⟨_, new⟩
    · rcases place_of_snoc found' with old' | ⟨_, new'⟩
      · exact sound.apart k other peer peer' i sid sid' old old' opened opened'
      · rw [new'] at opened'
        cases opened'
    · rw [new] at opened
      cases opened
  known task member := by
    have before := sound.known task member
    rw [List.length_append]
    exact before.trans_le (Nat.le_add_right _ _)
  waits k data member := by
    obtain ⟨peer, found, known⟩ := sound.waits k data member
    refine ⟨peer, ?_, known⟩
    exact (List.getElem?_append_left (List.getElem?_eq_some_iff.mp found).1).trans found
  idle := sound.idle

/-- A step of connection `k`: what it may touch. -/
structure Replaces (config : SocksConfig) (front : SocksFront) (client : Client) (k : Nat)
    (peer next : SocksPeer) (later : SocksFront) (after : Client) : Prop where
  peers : later.peers = front.peers.set k next
  flow : Flow config after k later.waited next (later.tasksOf k)
  tasks : ∀ other, k ≠ other → later.tasksOf other = front.tasksOf other
  pool : client.pool.Extends after.pool
  elsewhere : ∀ i, (∀ sid, next.opened ≠ some (i, sid)) → after.conns[i]? = client.conns[i]?
  opened : next.opened = peer.opened ∨
    peer.opened = none ∧ ∃ sid, next.opened = some (client.conns.length, sid)
  known : ∀ task ∈ later.tasks, task.peer < front.peers.length
  waits : ∀ entry ∈ later.waiting, entry ∈ front.waiting ∨
    entry.1 = k ∧ next.opened ≠ none ∧ entry.2 ∈ next.proto.tunnelled
  tunnelled : ∀ data ∈ peer.proto.tunnelled, data ∈ next.proto.tunnelled
  more : later.waited = 0 → front.waited = 0
  idle : later.waited = 0 → later.waiting = []

theorem FrontSound.inside (sound : FrontSound config front client)
    (found : front.peers[k]? = some peer) {i : Nat} {sid : Bytes}
    (opened : peer.opened = some (i, sid)) : i < client.conns.length := by
  cases sound.flows k peer found with
  | negotiating _ _ _ unopened | called _ _ _ _ _ unopened | refused _ _ _ _ _ _ unopened =>
      cases opened.symm.trans unopened
  | served _ _ _ _ j sid' conn _ same place =>
      cases opened.symm.trans same
      exact (List.getElem?_eq_some_iff.mp place).1

/-- No other connection has the `VirtualConn` of this one. -/
theorem FrontSound.stranger {next other' : SocksPeer} {other i : Nat} {sid sid' : Bytes}
    (sound : FrontSound config front client) (found : front.peers[k]? = some peer)
    (found' : front.peers[other]? = some other') (different : k ≠ other)
    (moved : next.opened = peer.opened ∨
      peer.opened = none ∧ ∃ sid, next.opened = some (client.conns.length, sid))
    (opened : next.opened = some (i, sid)) (opened' : other'.opened = some (i, sid')) : False := by
  rcases moved with same | ⟨_, _, new⟩
  · exact different (sound.apart k other peer other' i sid sid' found found'
      (same ▸ opened) opened')
  · have bound := sound.inside found' opened'
    cases opened.symm.trans new
    exact lt_irrefl _ bound

theorem FrontSound.replaced {next : SocksPeer} (sound : FrontSound config front client)
    (found : front.peers[k]? = some peer)
    (replaces : Replaces config front client k peer next later after) :
    FrontSound config later after := by
  have here : later.peers[k]? = some next := by
    rw [replaces.peers]
    exact List.getElem?_set_self (List.getElem?_eq_some_iff.mp found).1
  have there : ∀ other, k ≠ other → later.peers[other]? = front.peers[other]? := by
    intro other different
    rw [replaces.peers]
    exact List.getElem?_set_ne different
  constructor
  · intro other peer' present
    by_cases same : k = other
    · subst same
      cases here.symm.trans present
      exact replaces.flow
    · have old := (there other same).symm.trans present
      rw [replaces.tasks other same]
      refine (sound.flows other peer' old).elsewhere replaces.pool ?_ replaces.more
      intro i sid opened
      exact replaces.elsewhere i fun sid' opened' =>
        sound.stranger found old same replaces.opened opened' opened
  · intro i conn present
    by_cases mine : ∃ sid, next.opened = some (i, sid)
    · obtain ⟨sid, opened⟩ := mine
      exact ⟨k, next, sid, here, opened⟩
    · have other := fun sid opened => mine ⟨sid, opened⟩
      rw [replaces.elsewhere i other] at present
      obtain ⟨owner, peer', sid, found', opened⟩ := sound.owners i conn present
      by_cases same : k = owner
      · subst same
        cases found.symm.trans found'
        rcases replaces.opened with kept | ⟨none, _⟩
        · exact absurd (kept.trans opened) (other sid)
        · cases none.symm.trans opened
      · exact ⟨owner, peer', sid, (there owner same).trans found', opened⟩
  · intro one two first second i sid sid' found1 found2 opened1 opened2
    by_cases same1 : k = one
    · subst same1
      cases here.symm.trans found1
      by_contra different
      have old := (there two different).symm.trans found2
      exact sound.stranger found old different replaces.opened opened1 opened2
    · have old1 := (there one same1).symm.trans found1
      by_cases same2 : k = two
      · subst same2
        cases here.symm.trans found2
        exact (sound.stranger found old1 same1 replaces.opened opened2 opened1).elim
      · exact sound.apart one two first second i sid sid' old1
          ((there two same2).symm.trans found2) opened1 opened2
  · intro task member
    rw [replaces.peers, List.length_set]
    exact replaces.known task member
  · intro other data member
    rcases replaces.waits _ member with old | ⟨same, opened, chunk⟩
    · obtain ⟨peer', found', opened, chunk⟩ := sound.waits other data old
      by_cases same : k = other
      · subst same
        cases found.symm.trans found'
        refine ⟨next, here, ?_, replaces.tunnelled data chunk⟩
        rcases replaces.opened with kept | ⟨none, _⟩
        · exact kept ▸ opened
        · exact absurd none opened
      · exact ⟨peer', (there other same).trans found', opened, chunk⟩
    · cases same
      exact ⟨next, here, opened, chunk⟩
  · exact replaces.idle

theorem FrontSound.segment (sound : FrontSound config front client)
    (found : front.peers[k]? = some peer) (data : Bytes) :
    FrontSound config { front with
      peers := front.peers.set k (peer.dataReceived config client.conns data)
      tasks := front.tasks ++ SocksTask.created k peer.proto
        (peer.dataReceived config client.conns data).proto } client := by
  obtain ⟨opened, tunnelled⟩ := data_received_kept config client.conns peer data
  refine sound.replaced found ⟨rfl, ?_, ?_, SessionPool.Extends.refl _, fun _ _ => rfl,
    .inl opened, ?_, fun entry member => .inl member, tunnelled.subset, id, sound.idle⟩
  · rw [SocksFront.tasksOf, List.filter_append, tasks_of_created, if_pos rfl]
    exact (sound.flows k peer found).received data
  · intro other different
    rw [SocksFront.tasksOf, List.filter_append, tasks_of_created, if_neg different,
      List.append_nil, SocksFront.tasksOf]
  · intro task member
    rcases List.mem_append.mp member with old | new
    · exact sound.known task old
    · rw [created_peer _ _ _ task new]
      exact (List.getElem?_eq_some_iff.mp found).1

/-- The action that the SOCKS side asks for, if any, is a step of the client. -/
def Client.Performs (before : Client) (action : Option ClientAction) (after : Client) : Prop :=
  match action with
  | none => after = before
  | some action => ∃ request sent, before.react request action = some (after, sent)

theorem set_place {Item : Type} {items : List Item} {item : Item} {i : Nat}
    (found : items[i]? = some item) : items.set i item = items := by
  obtain ⟨inside, rfl⟩ := List.getElem?_eq_some_iff.mp found
  exact List.set_getElem_self inside

theorem performs_open {sid : Bytes} {target : Text} {now : ℚ}
    (performed : client.Performs (some (.openConn sid target now)) after) :
    client.pool.Extends after.pool ∧ ∃ conn, after.conns = client.conns ++ [conn] ∧
      conn.accepted = [] ∧ conn.session < after.pool.fresh ∧
        (after.pool.objects conn.session).sessionId = sid := by
  obtain ⟨request, sent, reacted⟩ := performed
  cases Client.react_cases reacted with
  | openConn =>
      have created := SessionPool.get_or_create_get client.pool sid FlagSYN target now
      have queued := @SessionPool.extends_enqueue_tx
        (client.pool.getOrCreate sid FlagSYN target now).1
        (client.pool.getOrCreate sid FlagSYN target now).2 (synFrame sid target) now
      obtain ⟨bound, own⟩ := SessionPool.get_keyed created
      exact ⟨extends_open _ _ _ _, _, rfl, rfl, bound.trans_le queued.fresh,
        (queued.ids _ bound).trans own⟩

theorem performs_write {i : Nat} {data : Bytes} {conn : VirtualConn}
    (place : client.conns[i]? = some conn)
    (performed : client.Performs (some (.write i data)) after) :
    after.pool = client.pool ∧ (∀ j, i ≠ j → after.conns[j]? = client.conns[j]?) ∧
      ∃ conn', after.conns[i]? = some conn' ∧
        conn'.session = conn.session ∧ conn'.closed = conn.closed ∧
          (conn.closed = true ∧ conn'.accepted = conn.accepted ∨
            conn.closed = false ∧ conn'.accepted = conn.accepted ++ [data]) := by
  obtain ⟨request, sent, reacted⟩ := performed
  cases Client.react_cases reacted with
  | write _ _ found conn' present written =>
      cases place.symm.trans present
      refine ⟨rfl, fun _ different => List.getElem?_set_ne different, conn',
        List.getElem?_set_self (List.getElem?_eq_some_iff.mp place).1, ?_⟩
      rw [VirtualConn.write] at written
      split_ifs at written with closed room
      · cases written
        exact ⟨rfl, rfl, .inl ⟨closed, rfl⟩⟩
      · cases written
        exact ⟨rfl, rfl, .inr ⟨Bool.eq_false_iff.mpr closed, rfl⟩⟩

theorem tasks_of_head {task : SocksTask} {rest : List SocksTask}
    (tasks : front.tasks = task :: rest) (mine : task.peer = k) :
    front.tasksOf k = task :: { front with tasks := rest }.tasksOf k ∧
      ∀ other, k ≠ other → { front with tasks := rest }.tasksOf other = front.tasksOf other := by
  constructor
  · rw [SocksFront.tasksOf, tasks, List.filter_cons_of_pos (by simpa using mine)]
    rfl
  · intro other different
    symm
    rw [SocksFront.tasksOf, tasks, List.filter_cons_of_neg (by simpa [mine] using different)]
    rfl

/-- A task of the connection is over, and the client is as it was. -/
theorem FrontSound.advanced (sound : FrontSound config front client)
    (found : front.peers[k]? = some peer) {task : SocksTask} {rest : List SocksTask}
    (tasks : front.tasks = task :: rest) (mine : task.peer = k)
    (flow : Flow config client k front.waited peer ({ front with tasks := rest }.tasksOf k)) :
    FrontSound config { front with tasks := rest } client := by
  obtain ⟨_, others⟩ := tasks_of_head tasks mine
  have known : ∀ task ∈ rest, task.peer < front.peers.length := fun task member =>
    sound.known task (tasks ▸ List.mem_cons_of_mem _ member)
  exact sound.replaced found ⟨(set_place found).symm, flow, others, SessionPool.Extends.refl _,
    fun _ _ => rfl, .inl rfl, known, fun _ member => .inl member, fun _ member => member, id,
    sound.idle⟩

theorem map_write_cons {pending : List Bytes} {data : Bytes} {rest : List SocksTask}
    (queued : SocksTask.write k data :: rest = pending.map (.write k)) :
    ∃ more, pending = data :: more ∧ rest = more.map (.write k) := by
  cases pending with
  | nil => cases queued
  | cons first more =>
      rw [List.map_cons] at queued
      injection queued with head others
      injection head with _ same
      exact ⟨more, by rw [same], others⟩

theorem callback_not_write {pending : List Bytes} {other : Nat} {host : Text} {port : Nat}
    {rest : List SocksTask} :
    SocksTask.callback other host port :: rest ≠ pending.map (.write k) := by
  intro queued
  cases pending with
  | nil => cases queued
  | cons first more => injection queued with head; cases head

theorem Requested.opens {host : Text} {port : Nat} {segments : List Bytes}
    (requested : Requested config peer host port segments) (opened : Option (Nat × Bytes)) :
    Requested config { peer with opened := opened } host port segments :=
  ⟨requested.negotiation, requested.state, requested.created, requested.buffer,
    requested.tunnelled, requested.replied⟩

/-- The callback of a connection runs: `open` raises or returns. -/
theorem FrontSound.called (sound : FrontSound config front client) {host : Text} {port : Nat}
    {rest : List SocksTask} {loopTime now : ℚ} {monotonicNs : Nat}
    (tasks : front.tasks = .callback k host port :: rest)
    (found : front.peers[k]? = some peer)
    (began : { front with tasks := rest }.begin ids client.conns loopTime monotonicNs now peer
      (.callback k host port) = (later, action))
    (performed : client.Performs action after) : FrontSound config later after := by
  obtain ⟨head, others⟩ := @tasks_of_head front k _ rest tasks rfl
  have known : ∀ task ∈ rest, task.peer < front.peers.length := fun task member =>
    sound.known task (tasks ▸ List.mem_cons_of_mem _ member)
  have flow := sound.flows k peer found
  rw [head] at flow
  cases flow with
  | negotiating _ _ _ _ idle => cases idle
  | refused _ _ _ _ _ _ _ queued => exact absurd queued callback_not_write
  | served _ _ _ _ _ _ _ _ _ _ _ _ _ queued => exact absurd queued callback_not_write
  | called _ _ segments requested whole unopened queued =>
      injection queued with same queued
      cases same
      rw [SocksFront.begin] at began
      dsimp only at began
      split at began
      · next error raised =>
          cases began
          cases performed
          exact sound.advanced found tasks rfl
            (.refused host port segments segments requested whole unopened queued)
      · next sid returned =>
          cases began
          obtain ⟨pool, conn, conns, accepted, bound, own⟩ := performs_open performed
          have place : after.conns[client.conns.length]? = some conn := by
            rw [conns, List.getElem?_concat_length]
          refine sound.replaced found ⟨rfl, .served host port segments segments
            client.conns.length sid conn (requested.opens _) rfl place bound own (fun _ => whole)
            queued ?_ ?_, others, pool, ?_, .inr ⟨unopened, sid, rfl⟩, known,
            fun entry member => .inl member, fun _ member => member, id, sound.idle⟩
          · rw [accepted, List.nil_append, whole]
            exact fun _ member => member
          · intro _
            rw [accepted, List.nil_append]
            exact ⟨List.nil_prefix, fun _ => whole.symm⟩
          · intro i other
            have different : i ≠ client.conns.length := fun same => other sid (same ▸ rfl)
            rw [conns, List.getElem?_append]
            split_ifs with inside
            · rfl
            · rw [List.getElem?_singleton, if_neg (by omega), List.getElem?_eq_none (by omega)]

/-- A `write` task runs: it returns at once, puts its chunk or waits. -/
theorem FrontSound.wrote (sound : FrontSound config front client) {data : Bytes}
    {rest : List SocksTask} {loopTime now : ℚ} {monotonicNs : Nat}
    (tasks : front.tasks = .write k data :: rest) (found : front.peers[k]? = some peer)
    (began : { front with tasks := rest }.begin ids client.conns loopTime monotonicNs now peer
      (.write k data) = (later, action))
    (performed : client.Performs action after) : FrontSound config later after := by
  obtain ⟨head, others⟩ := @tasks_of_head front k _ rest tasks rfl
  have known : ∀ task ∈ rest, task.peer < front.peers.length := fun task member =>
    sound.known task (tasks ▸ List.mem_cons_of_mem _ member)
  have flow := sound.flows k peer found
  rw [head] at flow
  rw [SocksFront.begin] at began
  dsimp only at began
  cases flow with
  | negotiating _ _ _ _ idle => cases idle
  | called _ _ _ _ _ _ queued => injection queued with head; cases head
  | refused host port segments pending requested whole unopened queued =>
      obtain ⟨more, rfl, others'⟩ := map_write_cons queued
      rw [link_unopened unopened] at began
      cases began
      cases performed
      exact sound.advanced found tasks rfl
        (.refused host port segments more requested whole unopened others')
  | served host port segments pending i sid conn requested opened place bound own whole queued given
      order =>
      obtain ⟨more, rfl, queued'⟩ := map_write_cons queued
      have chunk : data ∈ peer.proto.tunnelled :=
        given data (List.mem_append_right _ List.mem_cons_self)
      have rest_given : ∀ other ∈ conn.accepted ++ more, other ∈ peer.proto.tunnelled := by
        intro other member
        rcases List.mem_append.mp member with old | new
        · exact given other (List.mem_append_left _ old)
        · exact given other (List.mem_append_right _ (List.mem_cons_of_mem _ new))
      rw [link_opened opened place] at began
      dsimp only at began
      split_ifs at began with closed room
      · cases began
        cases performed
        refine sound.advanced found tasks rfl (.served host port segments more i sid conn requested
          opened place bound own whole queued' rest_given fun never =>
            ⟨(order never).1, fun open_ => ?_⟩)
        rw [closed] at open_
        cases open_
      · cases began
        obtain ⟨pool, elsewhere, conn', place', session, closed', accepted⟩ :=
          performs_write place performed
        have grown : conn'.accepted = conn.accepted ++ [data] := by
          rcases accepted with ⟨ended, _⟩ | ⟨_, grown⟩
          · exact absurd ended closed
          · exact grown
        refine sound.replaced found ⟨(set_place found).symm,
          .served host port segments more i sid conn' requested opened place'
            (session ▸ pool ▸ bound) (session ▸ pool ▸ own)
            (fun open_ => whole (closed' ▸ open_)) queued' ?_ fun never => ?_, others,
          pool ▸ SessionPool.Extends.refl _, fun j other => ?_, .inl rfl, known,
          fun entry member => .inl member, fun _ member => member, id, sound.idle⟩
        · rw [grown, List.append_assoc]
          exact given
        · have open_ := Bool.eq_false_iff.mpr closed
          have all := (order never).2 open_
          rw [grown]
          refine ⟨⟨more, ?_⟩, fun _ => ?_⟩
          · rw [List.append_assoc]
            exact all
          · rw [List.append_assoc]
            exact all
        · exact elsewhere j fun same => other sid (same ▸ opened)
      · cases began
        cases performed
        refine sound.replaced found ⟨(set_place found).symm,
          .served host port segments more i sid conn requested opened place bound own whole queued'
            rest_given fun never => absurd never (Nat.succ_ne_zero _), others,
          SessionPool.Extends.refl _, fun _ _ => rfl, .inl rfl, known,
          fun entry member => ?_, fun _ member => member,
          fun never => absurd never (Nat.succ_ne_zero _),
          fun never => absurd never (Nat.succ_ne_zero _)⟩
        rcases List.mem_append.mp member with old | new
        · exact .inl old
        · rw [List.mem_singleton.mp new]
          refine .inr ⟨rfl, ?_, chunk⟩
          rw [opened]
          exact Option.some_ne_none _

/-- A write that waited goes on. -/
theorem FrontSound.resumed (sound : FrontSound config front client) {index i : Nat}
    {data : Bytes} {conn : VirtualConn} (entry : front.waiting[index]? = some (k, data))
    (found : front.peers[k]? = some peer) (linked : peer.link client.conns = some (i, conn))
    (performed : client.Performs (some (.write i data)) after) :
    FrontSound config { front with waiting := front.waiting.eraseIdx index } after := by
  have member := List.mem_of_getElem? entry
  have some_waits : front.waited ≠ 0 := by
    intro never
    rw [sound.idle never] at member
    cases member
  obtain ⟨peer', found', _, chunk⟩ := sound.waits k data member
  cases found.symm.trans found'
  have flow := sound.flows k peer found
  cases flow with
  | negotiating _ _ _ unopened | called _ _ _ _ _ unopened | refused _ _ _ _ _ _ unopened =>
      rw [link_unopened unopened] at linked
      cases linked
  | served host port segments pending j sid known requested opened place bound own whole queued
      given order =>
      rw [link_opened opened place] at linked
      cases linked
      obtain ⟨pool, elsewhere, conn', place', session, closed, accepted⟩ :=
        performs_write place performed
      refine sound.replaced found ⟨(set_place found).symm,
        .served host port segments pending i sid conn' requested opened place'
          (session ▸ pool ▸ bound) (session ▸ pool ▸ own) (fun open_ => whole (closed ▸ open_))
          queued ?_ fun never => absurd never some_waits, fun _ _ => rfl,
        pool ▸ SessionPool.Extends.refl _, fun j other => ?_, .inl rfl, sound.known,
        fun entry member => .inl (List.mem_of_mem_eraseIdx member), fun _ member => member, id,
        fun never => absurd never some_waits⟩
      · rcases accepted with ⟨_, same⟩ | ⟨_, grown⟩
        · rw [same]
          exact given
        · rw [grown, List.append_assoc]
          intro other member
          rcases List.mem_append.mp member with old | new
          · exact given other (List.mem_append_left _ old)
          · rcases List.mem_append.mp new with this | later
            · rw [List.mem_singleton.mp this]
              exact chunk
            · exact given other (List.mem_append_right _ later)
      · exact elsewhere j fun same => other sid (same ▸ opened)

/-- A step of the SOCKS side, with what the client does for it. -/
theorem FrontSound.step (sound : FrontSound config front client) {event : SocksEvent}
    (stepped : front.step config ids client.conns event = some (later, action))
    (performed : client.Performs action after) : FrontSound config later after := by
  cases event with
  | accept =>
      cases stepped
      cases performed
      exact sound.accept
  | segment k data =>
      obtain ⟨peer, found, same⟩ := Option.map_eq_some_iff.mp stepped
      cases same
      cases performed
      exact sound.segment found data
  | task loopTime monotonicNs now =>
      simp only [SocksFront.step] at stepped
      split at stepped
      · cases stepped
      · next task rest tasks =>
          obtain ⟨peer, found, began⟩ := Option.map_eq_some_iff.mp stepped
          cases task with
          | callback k host port => exact sound.called tasks found began performed
          | write k data => exact sound.wrote tasks found began performed
  | resume index =>
      simp only [SocksFront.step] at stepped
      split at stepped
      · cases stepped
      · next k data entry =>
          split at stepped
          · cases stepped
          · next i conn linked =>
              split_ifs at stepped
              cases stepped
              obtain ⟨peer, found, link⟩ := Option.bind_eq_some_iff.mp linked
              exact sound.resumed entry found link performed

theorem act_closed {s : Session} {conn conn' : VirtualConn} {act : ConnAct} {effect : ConnEffect}
    (acted : conn.act s act = some (conn', effect)) (closed : conn.closed = true) :
    conn'.closed = true := by
  cases VirtualConn.act_cases acted with
  | drainChunk | wakeClosed | wake | finishClose | transportLost => exact closed
  | pop _ _ _ popped =>
      cases VirtualConn.pop_cases popped with
      | stopped | emptied | wrote | skipped => exact closed
      | ended => rfl

theorem keeps_same (pool : client.pool.Extends after.pool) (conns : after.conns = client.conns) :
    KeepsConns client after :=
  ⟨pool, congrArg List.length conns, fun _ conn found =>
    ⟨conn, conns ▸ found, rfl, rfl, fun closed => closed⟩⟩

theorem react_keeps {request : Nat} {act : ClientAction} {sent : Option Post}
    (reacted : client.react request act = some (after, sent))
    (unprompted : act.prompted = false) : KeepsConns client after := by
  have how := Client.react_reacted reacted
  have pool := (Client.react_grows how).pool
  cases how with
  | opened | wrote => cases unprompted
  | acted index act conn conn' effect found acted _ conns =>
      have owner := (VirtualConn.act_acted acted).1
      refine ⟨pool, by rw [conns, List.length_set], fun i other present => ?_⟩
      rw [conns]
      by_cases here : index = i
      · subst here
        cases found.symm.trans present
        exact ⟨conn', List.getElem?_set_self (List.getElem?_eq_some_iff.mp found).1,
          owner.session, owner.accepted, act_closed acted⟩
      · exact ⟨other, (List.getElem?_set_ne here).trans present, rfl, rfl, id⟩
  | idle _ _ _ _ _ conns | posted _ _ _ _ _ _ conns | still _ _ conns =>
      exact keeps_same pool conns

theorem answered_keeps {index sent : Nat} {answer : Answer} {rttMs now : ℚ}
    (taken : client.answered index answer sent rttMs now = some after) :
    KeepsConns client after := by
  have pool := (Client.answered_grows taken).pool
  obtain ⟨_, _, _, _, _, _, rfl⟩ := Client.answered_cases taken
  exact keeps_same pool rfl

end Fronts

def SocksTask.chunk : SocksTask → Option Bytes
  | .callback _ _ _ => none
  | .write _ data => some data

/-- The chunks of a connection whose `write` has not begun. -/
def SocksFront.pending (front : SocksFront) (k : Nat) : List Bytes :=
  (front.tasksOf k).filterMap SocksTask.chunk

theorem map_write_chunks (k : Nat) (pending : List Bytes) :
    (pending.map (SocksTask.write k)).filterMap SocksTask.chunk = pending := by
  rw [List.filterMap_map]
  exact List.filterMap_some

namespace ProxyProcess

variable {config : SocksConfig} {ids : IdSource} {p later : ProxyProcess} {event : ProxyEvent}

/-- A step is one of the SOCKS side, with what the client does for it, or one of the
client that no SOCKS connection has prompted. -/
theorem step_cases (stepped : p.step config ids event = some later) :
    (∃ socks action, event = .socks socks ∧
        p.front.step config ids p.state.client.conns socks = some (later.front, action) ∧
          p.state.client.Performs action later.state.client ∧
            (action = none ∧ later.state = p.state ∨
              ∃ act, action = some act ∧ p.state.step (.act act) = some later.state)) ∨
      ∃ client, event = .client client ∧ client.prompted = false ∧ later.front = p.front ∧
        p.state.step client = some later.state := by
  cases event with
  | socks socks =>
      obtain ⟨⟨front, action⟩, moved, done⟩ := Option.bind_eq_some_iff.mp stepped
      refine .inl ⟨socks, action, rfl, ?_⟩
      cases action with
      | none =>
          cases done
          exact ⟨moved, rfl, .inl ⟨rfl, rfl⟩⟩
      | some act =>
          obtain ⟨state, acted, rfl⟩ := Option.map_eq_some_iff.mp done
          refine ⟨moved, ?_, .inr ⟨act, rfl, acted⟩⟩
          obtain ⟨⟨client, sent⟩, reacted, rfl⟩ := Option.map_eq_some_iff.mp acted
          exact ⟨_, sent, reacted⟩
  | client client =>
      simp only [step] at stepped
      split_ifs at stepped with prompted
      obtain ⟨state, acted, rfl⟩ := Option.map_eq_some_iff.mp stepped
      exact .inr ⟨client, rfl, Bool.eq_false_iff.mpr prompted, rfl, acted⟩

theorem step_keeps {state after : RunningClient} {event : ClientEvent}
    (unprompted : event.prompted = false) (stepped : state.step event = some after) :
    KeepsConns state.client after.client := by
  rcases client_step_cases stepped with ⟨act, sent, rfl, reacted⟩ |
    ⟨_, _, _, _, _, _, taken⟩
  · exact react_keeps reacted unprompted
  · exact answered_keeps taken

/-- The client does not see the SOCKS side: it is one of all clients. -/
theorem run_client {clientId : Bytes} {endpoints : Nat} {history : List ProxyEvent}
    (run : (proxyMachine config ids).Run StepMachine.anyStep (start clientId endpoints)
      history p) :
    ∃ events, clientMachine.Run StepMachine.anyStep (RunningClient.start clientId endpoints)
      events p.state := by
  apply @StepMachine.Run.invariant _ _ _ _ _ _ _ (fun p : ProxyProcess => ∃ events,
    clientMachine.Run StepMachine.anyStep (RunningClient.start clientId endpoints) events
      p.state) run
  · exact ⟨[], .start⟩
  · intro p event later before _ stepped
    obtain ⟨events, client⟩ := before
    rcases step_cases stepped with ⟨_, _, _, _, _, ⟨_, same⟩ | ⟨act, _, acted⟩⟩ |
      ⟨event, _, _, _, acted⟩
    · exact ⟨events, same ▸ client⟩
    · have moved : clientMachine.step p.state (.act act) = some later.state := acted
      exact ⟨events ++ [.act act], client.next trivial moved⟩
    · have moved : clientMachine.step p.state event = some later.state := acted
      exact ⟨events ++ [event], client.next trivial moved⟩

theorem run_front {clientId : Bytes} {endpoints : Nat} {history : List ProxyEvent}
    (run : (proxyMachine config ids).Run StepMachine.anyStep (start clientId endpoints)
      history p) : FrontSound config p.front p.state.client := by
  apply @StepMachine.Run.invariant _ _ _ _ _ _ _
    (fun p : ProxyProcess => FrontSound config p.front p.state.client) run
  · exact start_front_sound clientId endpoints
  · intro p event later sound _ stepped
    rcases step_cases stepped with ⟨_, _, _, moved, performed, _⟩ |
      ⟨event, _, unprompted, same, acted⟩
    · exact sound.step moved performed
    · rw [same]
      exact sound.kept (step_keeps unprompted acted)

/-- In every run of a client with any SOCKS connections: the client's part is a run of
the client by itself, and what the session of a connection has accepted are segments
behind the CONNECT of that connection; as long as no write has waited, they are the
first of them in order, and all, with those whose task has not run, until it is closed. -/
theorem segments_become_chunks {clientId : Bytes} {endpoints : Nat} {history : List ProxyEvent}
    (run : (proxyMachine config ids).Run StepMachine.anyStep (start clientId endpoints)
      history p) :
    (∃ events, clientMachine.Run StepMachine.anyStep (RunningClient.start clientId endpoints)
      events p.state) ∧
    ∀ k peer, p.front.peers[k]? = some peer → peer.proto.state = .established →
      ∃ host port segments, Requested config peer host port segments ∧
        ∀ i sid, peer.opened = some (i, sid) → ∃ conn, p.state.client.conns[i]? = some conn ∧
          (p.state.client.pool.objects conn.session).sessionId = sid ∧
          (∀ data ∈ conn.accepted, data ∈ segments) ∧
          (p.front.waited = 0 → conn.accepted <+: segments ∧
            (conn.closed = false → conn.accepted ++ p.front.pending k = segments)) := by
  refine ⟨run_client run, fun k peer found established => ?_⟩
  cases (run_front run).flows k peer found with
  | negotiating state => exact absurd established state
  | called host port segments requested _ unopened
  | refused host port segments _ requested _ unopened =>
      refine ⟨host, port, segments, requested, fun i sid opened => ?_⟩
      cases opened.symm.trans unopened
  | served host port segments pending i sid conn requested opened place _ own whole queued given
      order =>
      refine ⟨host, port, segments, requested, fun j sid' opened' => ?_⟩
      cases opened.symm.trans opened'
      refine ⟨conn, place, own, fun data member => ?_, fun never => ?_⟩
      · exact requested.tunnelled.subset (given data (List.mem_append_left _ member))
      · obtain ⟨front, all⟩ := order never
        refine ⟨front.trans requested.tunnelled, fun open_ => ?_⟩
        rw [SocksFront.pending, queued, map_write_chunks, all open_, whole open_]

/-- A CONNECT with two segments behind it, and their three tasks. -/
def twoSegments : List ProxyEvent :=
  [.socks .accept, .socks (.segment 0 [5, 1, 0]),
    .socks (.segment 0 [5, 1, 0, 1, 127, 0, 0, 1, 0, 80]), .socks (.segment 0 [7]),
    .socks (.segment 0 [8]), .socks (.task 0 5 0), .socks (.task 0 6 0), .socks (.task 0 7 0)]

/-- Session ids from the counter alone. -/
def counterIds : IdSource := fun _ monotonicNs => .ok (bigEndian 16 monotonicNs)

theorem two_segments_become_chunks : ∃ last : ProxyProcess,
    (proxyMachine openConfig counterIds).Run StepMachine.anyStep (start [] 1) twoSegments last ∧
      ∃ peer host port, last.front.peers[0]? = some peer ∧
        Requested openConfig peer host port [[7], [8]] ∧
          ∃ conn, last.state.client.conns[0]? = some conn ∧ conn.accepted = [[7], [8]] := by
  obtain ⟨last, run, checked⟩ := @StepMachine.run_of_exec_any _ _
    (proxyMachine openConfig counterIds) StepMachine.anyStep (start [] 1) _
    (fun p => p.front.waited = 0 ∧ p.front.pending 0 = [] ∧
      p.front.peers.map (fun peer => (peer.proto.state, peer.opened)) =
        [(.established, some (0, bigEndian 16 5))] ∧
      p.state.client.conns.map (fun conn => (conn.closed, conn.accepted)) =
        [(false, [[7], [8]])])
    twoSegments (by decide +kernel)
  obtain ⟨never, idle, peers, conns⟩ := of_decide_eq_true checked
  obtain ⟨peer, only, negotiated⟩ := List.map_eq_singleton_iff.mp peers
  obtain ⟨established, opened⟩ := Prod.ext_iff.mp negotiated
  have found : last.front.peers[0]? = some peer := by rw [only]; rfl
  obtain ⟨host, port, segments, requested, chunks⟩ :=
    (segments_become_chunks run).2 0 peer found established
  obtain ⟨conn, place, _, _, order⟩ := chunks 0 _ opened
  obtain ⟨other, one, taken⟩ := List.map_eq_singleton_iff.mp conns
  obtain ⟨open_, accepted⟩ := Prod.ext_iff.mp taken
  have same : other = conn := by
    rw [one] at place
    exact Option.some.inj place
  rw [same] at open_ accepted
  have all := (order never).2 open_
  rw [idle, List.append_nil] at all
  have exact_ : segments = [[7], [8]] := all.symm.trans accepted
  exact ⟨last, run, peer, host, port, found, exact_ ▸ requested, conn, place, accepted⟩

end ProxyProcess

end Astrix
