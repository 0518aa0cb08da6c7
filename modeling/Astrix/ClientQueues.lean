import Mathlib.Data.List.Infix
import Astrix.Client
import Astrix.DrainAll

/-!
# What the client's queues can hold

A frame on its way up is a SYN or FIN without payload, or a chunk that some
virtual connection of its session accepted; a frame on its way down is a FIN, a
reset, or a chunk read from an upstream connection of its session. `A` and `B`
say which chunks were accepted and read for a session id.
-/

namespace Astrix

open PyRuntime SessionPool

set_option autoImplicit false

inductive UplinkKind (A : Bytes → Bytes → Prop) (sid : Bytes) (f : Frame) : Prop where
  | chunk (flags : f.flags = 0) (accepted : A sid f.payload)
  | bare (flags : f.flags = FlagSYN ∨ f.flags = FlagFIN) (payload : f.payload = [])

def Uplink (A : Bytes → Bytes → Prop) (sid : Bytes) (f : Frame) : Prop :=
  f.sessionId = sid ∧ UplinkKind A sid f

inductive DownlinkKind (B : Bytes → Bytes → Prop) (sid : Bytes) (f : Frame) : Prop where
  | chunk (flags : f.flags = 0) (read : B sid f.payload)
  | closing (flags : f.flags = FlagFIN ∨ f.flags = FlagRST)

structure Downlink (B : Bytes → Bytes → Prop) (sid : Bytes) (f : Frame) : Prop where
  own : f.sessionId = sid
  noTarget : f.target = []
  kind : DownlinkKind B sid f

section Frames

variable {A B later : Bytes → Bytes → Prop} {sid : Bytes} {f : Frame}

theorem Uplink.weaken (up : Uplink A sid f) (grown : ∀ sid data, A sid data → later sid data) :
    Uplink later sid f := by
  refine ⟨up.1, ?_⟩
  cases up.2 with
  | chunk flags accepted => exact .chunk flags (grown _ _ accepted)
  | bare flags payload => exact .bare flags payload

theorem Downlink.weaken (down : Downlink B sid f)
    (grown : ∀ sid data, B sid data → later sid data) : Downlink later sid f := by
  refine ⟨down.own, down.noTarget, ?_⟩
  cases down.kind with
  | chunk flags read => exact .chunk flags (grown _ _ read)
  | closing flags => exact .closing flags

theorem uplink_self (up : Uplink A sid f) : Uplink A f.sessionId f := by
  rw [up.1]
  exact up

theorem downlink_self (down : Downlink B sid f) : Downlink B f.sessionId f := by
  rw [down.own]
  exact down

/-- A payload that a reader passes on was accepted for the frame's session. -/
theorem uplink_payload (up : Uplink A sid f) (payload : f.payload ≠ []) : A sid f.payload := by
  cases up.2 with
  | chunk flags accepted => exact accepted
  | bare flags none => exact absurd none payload

theorem downlink_payload (down : Downlink B sid f)
    (plain : f.hasFlag (FlagFIN ||| FlagRST) = false) : B sid f.payload := by
  cases down.kind with
  | chunk flags read => exact read
  | closing flags =>
      rcases flags with fin | rst
      · rw [Frame.hasFlag, fin] at plain
        cases plain
      · rw [Frame.hasFlag, rst] at plain
        cases plain

end Frames

variable {A B : Bytes → Bytes → Prop}

structure VirtualConn.Sound (A B : Bytes → Bytes → Prop) (pool : SessionPool)
    (conn : VirtualConn) : Prop where
  bound : conn.session < pool.fresh
  queued : ∀ data ∈ conn.txQueue, A (pool.objects conn.session).sessionId data
  written : ∀ data ∈ conn.written, B (pool.objects conn.session).sessionId data

/-- The connection as it stands when only the pool grew. -/
theorem VirtualConn.Sound.grow {pool later : SessionPool} {conn : VirtualConn}
    (sound : conn.Sound A B pool) (grown : pool.Extends later) : conn.Sound A B later := by
  refine ⟨sound.bound.trans_le grown.fresh, ?_, ?_⟩
  · rw [grown.ids _ sound.bound]
    exact sound.queued
  · rw [grown.ids _ sound.bound]
    exact sound.written

theorem write_cases {conn conn' : VirtualConn} {data : Bytes}
    (written : conn.write data = some conn') :
    conn' = conn ∨ conn' = { conn with
      txQueue := conn.txQueue ++ [data]
      accepted := conn.accepted ++ [data] } := by
  unfold VirtualConn.write at written
  split_ifs at written
  · exact .inl (Option.some.inj written).symm
  · exact .inr (Option.some.inj written).symm

theorem extends_set_rx_event (pool : SessionPool) (ref : Nat) :
    pool.Extends (pool.setRxEvent ref) := extends_modify _ _ _ _

theorem extends_conn_effect (pool : SessionPool) (session : Nat) (effect : ConnEffect) :
    pool.Extends (effect.apply pool session) := by
  cases effect with
  | nothing => exact Extends.refl pool
  | sendData frame nextSeq now =>
      exact (extends_set_seq _ _ _).trans (extends_enqueue_tx _ _ _ _)
  | sendFin frame now =>
      exact (extends_enqueue_tx pool session frame now).trans (extends_set_rx_event _ _)
  | clearRxEvent => exact extends_clear_rx_event _ _
  | popRx => exact extends_pop_rx _ _

theorem extends_open (pool : SessionPool) (sid : Bytes) (target : Text) (now : ℚ) :
    pool.Extends (VirtualConn.openSession pool sid target now).1 :=
  (extends_get_or_create _ _ _ _ _).trans (extends_enqueue_tx _ _ _ _)

theorem extends_untouched {before after : SessionPool} (same : Untouched before after) :
    before.Extends after := ⟨Nat.le_of_eq same.fresh.symm, fun ref _ => same.ids ref,
      fun ref _ => same.targets ref⟩

theorem extends_dispatch_response (now : ℚ) (frames : List Frame) (pool : SessionPool) :
    pool.Extends (dispatchResponseFrames pool now frames) := by
  induction frames generalizing pool with
  | nil => exact Extends.refl pool
  | cons f rest ih =>
      have one : pool.Extends (dispatchResponseFrame now pool f) := by
        unfold dispatchResponseFrame
        cases pool.get f.sessionId with
        | some s => exact extends_enqueue_rx _ _ _ _
        | none => exact Extends.refl pool
      exact one.trans (ih _)

theorem extends_drop_failed (pool : SessionPool) (frames : List Frame) :
    pool.Extends (dropFailed pool frames) := by
  have all : ∀ (sids : List Bytes) (start : SessionPool),
      start.Extends (sids.foldl SessionPool.remove start) := by
    intro sids
    induction sids with
    | nil => exact Extends.refl
    | cons sid rest ih => exact fun start => (extends_remove start sid).trans (ih _)
  exact all _ pool

theorem extends_take_answer (pool : SessionPool) (ep : EndpointState) (frames : List Frame)
    (now : ℚ) (answer : Answer) : pool.Extends (takeAnswer pool ep frames now answer).pool := by
  rcases Client.take_answer_pool pool ep frames now answer with ⟨respFrames, _, _, dispatched⟩ |
    ⟨_, same | dropped⟩
  · rw [dispatched]
    exact extends_dispatch_response _ _ _
  · rw [same]
    exact Extends.refl pool
  · rw [dropped]
    exact extends_drop_failed _ _

section Holds

variable {T R : Bytes → Frame → Prop} {pool : SessionPool}

theorem SessionPool.Holds.set_rx_event (held : pool.Holds T R) (ref : Nat) :
    (pool.setRxEvent ref).Holds T R :=
  held.modify (held.tx ref) (held.rx ref)

theorem dispatch_response_holds {frames : List Frame} (now : ℚ) (held : pool.Holds T R)
    (received : ∀ f ∈ frames, R f.sessionId f) :
    (dispatchResponseFrames pool now frames).Holds T R := by
  induction frames generalizing pool with
  | nil => exact held
  | cons f rest ih =>
      refine ih ?_ fun g member => received g (List.mem_cons_of_mem _ member)
      unfold dispatchResponseFrame
      cases found : pool.get f.sessionId with
      | none => exact held
      | some s =>
          apply held.enqueue_rx
          rw [(get_keyed found).2]
          exact received f List.mem_cons_self

theorem drop_failed_holds (frames : List Frame) (held : pool.Holds T R) :
    (dropFailed pool frames).Holds T R := by
  have all : ∀ (sids : List Bytes) (start : SessionPool), start.Holds T R →
      (sids.foldl SessionPool.remove start).Holds T R := by
    intro sids
    induction sids with
    | nil => exact fun _ startHeld => startHeld
    | cons sid rest ih => exact fun start startHeld => ih _ (startHeld.remove sid)
  exact all _ pool held

theorem open_holds (sid : Bytes) (target : Text) (now : ℚ) (held : pool.Holds T R)
    (syn : T sid (synFrame sid target)) :
    (VirtualConn.openSession pool sid target now).1.Holds T R := by
  have created := held.get_or_create sid FlagSYN target now
  have sameId := (get_keyed (get_or_create_get pool sid FlagSYN target now)).2
  have allowed : T ((pool.getOrCreate sid FlagSYN target now).1.objects
      (pool.getOrCreate sid FlagSYN target now).2).sessionId (synFrame sid target) := by
    rw [sameId]
    exact syn
  exact created.enqueue_tx allowed

/-- The frame that a connection's act queues, if any, satisfies `T`. -/
def ConnEffect.Satisfies (T : Bytes → Frame → Prop) (sid : Bytes) : ConnEffect → Prop
  | .sendData frame _ _ => T sid frame
  | .sendFin frame _ => T sid frame
  | _ => True

theorem conn_effect_holds {session : Nat} {effect : ConnEffect} (held : pool.Holds T R)
    (allowed : effect.Satisfies T (pool.objects session).sessionId) :
    (effect.apply pool session).Holds T R := by
  cases effect with
  | nothing => exact held
  | sendData frame nextSeq now =>
      have sameId : ((pool.setSeq session nextSeq).objects session).sessionId =
          (pool.objects session).sessionId := modify_session_id _ _ _ _ _
      apply (held.set_seq session nextSeq).enqueue_tx
      rw [sameId]
      exact allowed
  | sendFin frame now =>
      have queued : (pool.enqueueTx session frame now).Holds T R := held.enqueue_tx allowed
      exact queued.set_rx_event session
  | clearRxEvent => exact held.clear_rx_event session
  | popRx => exact held.pop_rx session

end Holds

namespace Client

structure Sound (A B : Bytes → Bytes → Prop) (client : Client) : Prop where
  pool : client.pool.Holds (Uplink A) (Downlink B)
  conns : ∀ conn ∈ client.conns, conn.Sound A B client.pool

/-- Every chunk a connection accepted counts as accepted for its session. -/
def Counts (A : Bytes → Bytes → Prop) (client : Client) : Prop :=
  ∀ conn ∈ client.conns, ∀ data ∈ conn.accepted,
    A (client.pool.objects conn.session).sessionId data

theorem start_sound (clientId : Bytes) (endpoints : Nat) : (start clientId endpoints).Sound A B :=
  ⟨new_holds, nofun⟩

theorem Sound.weaken {laterA laterB : Bytes → Bytes → Prop} {client : Client}
    (sound : client.Sound A B) (up : ∀ sid data, A sid data → laterA sid data)
    (down : ∀ sid data, B sid data → laterB sid data) : client.Sound laterA laterB where
  pool := sound.pool.weaken (fun _ _ frame => frame.weaken up) fun _ _ frame => frame.weaken down
  conns conn member :=
    have before := sound.conns conn member
    ⟨before.bound, fun data queued => up _ _ (before.queued data queued),
      fun data written => down _ _ (before.written data written)⟩

/-- An act of a connection on its session. -/
theorem conn_acted_sound {pool : SessionPool} {conn conn' : VirtualConn} {effect : ConnEffect}
    (held : pool.Holds (Uplink A) (Downlink B)) (sound : conn.Sound A B pool)
    (owner : VirtualConn.SameOwner conn conn')
    (acted : VirtualConn.Acted (pool.objects conn.session) conn conn' effect) :
    (effect.apply pool conn.session).Holds (Uplink A) (Downlink B) ∧
      conn'.Sound A B (effect.apply pool conn.session) := by
  have grown := extends_conn_effect pool conn.session effect
  have keeps : (∀ data ∈ conn'.txQueue, A (pool.objects conn.session).sessionId data) →
      (∀ data ∈ conn'.written, B (pool.objects conn.session).sessionId data) →
      conn'.Sound A B (effect.apply pool conn.session) := by
    intro queued written
    have here : conn'.Sound A B pool := by
      refine ⟨?_, ?_, ?_⟩
      · rw [owner.session]
        exact sound.bound
      · rw [owner.session]
        exact queued
      · rw [owner.session]
        exact written
    exact here.grow grown
  cases acted with
  | silent queue written =>
      rw [queue, written] at keeps
      exact ⟨held, keeps sound.queued sound.written⟩
  | chunk data rest now head queue written =>
      rw [queue, written] at keeps
      have all : ∀ item ∈ data :: rest, A (pool.objects conn.session).sessionId item := by
        rw [← head]
        exact sound.queued
      refine ⟨conn_effect_holds held ?_, keeps ?_ sound.written⟩
      · exact ⟨rfl, .chunk rfl (all data List.mem_cons_self)⟩
      · exact fun item member => all item (List.mem_cons_of_mem data member)
  | fin now pending queue written =>
      rw [queue, written] at keeps
      exact ⟨conn_effect_holds held ⟨rfl, .bare (.inr rfl) rfl⟩,
        keeps sound.queued sound.written⟩
  | wake queue written =>
      rw [queue, written] at keeps
      exact ⟨conn_effect_holds held trivial, keeps sound.queued sound.written⟩
  | skip f rest received dropped queue written =>
      rw [queue, written] at keeps
      exact ⟨conn_effect_holds held trivial, keeps sound.queued sound.written⟩
  | write f rest received plain payload opened queue written =>
      rw [queue, written] at keeps
      refine ⟨conn_effect_holds held trivial, keeps sound.queued ?_⟩
      intro data member
      rcases List.mem_append.mp member with old | new
      · exact sound.written data old
      · rw [List.mem_singleton.mp new]
        have queued : f ∈ (pool.objects conn.session).rxQ := by
          rw [received]
          exact List.mem_cons_self
        exact downlink_payload (held.rx conn.session f queued) plain

theorem drained_sound {client : Client} (sound : client.Sound A B) (call : DrainCall) :
    (call.run client.pool).pool.Holds (Uplink A) (Downlink B) ∧
      (∀ conn ∈ client.conns, conn.Sound A B (call.run client.pool).pool) ∧
      ∀ f ∈ (call.run client.pool).frames, Uplink A f.sessionId f := by
  have drained := drain_all_holds sound.pool call.batchSize call.workerId call.now
  have grown := extends_untouched
    (untouched_drain_all client.pool call.batchSize call.workerId call.now)
  refine ⟨drained.1, fun conn member => (sound.conns conn member).grow grown, ?_⟩
  intro f member
  obtain ⟨sid, _, up⟩ := drained.2 f member
  exact uplink_self up

/-- One step of a client keeps its queues; what it posts is on its way up. -/
theorem Sound.react {before after : Client} {request : Nat} {action : ClientAction}
    {sent : Option Post} (sound : before.Sound A B) (counts : after.Counts A)
    (reacted : Reacted before request after action sent) :
    after.Sound A B ∧ ∀ post ∈ sent, ∀ f ∈ post.frames, Uplink A f.sessionId f := by
  cases reacted with
  | opened sid target now pool conns =>
      have held := open_holds sid target now sound.pool ⟨rfl, .bare (.inl rfl) rfl⟩
      refine ⟨⟨?_, ?_⟩, nofun⟩
      · rw [pool]
        exact held
      · intro conn member
        rw [pool]
        rw [conns] at member
        rcases List.mem_append.mp member with old | new
        · exact (sound.conns conn old).grow (extends_open _ _ _ _)
        · rw [List.mem_singleton.mp new]
          exact ⟨(get_keyed (get_or_create_get before.pool sid FlagSYN target now)).1, nofun,
            nofun⟩
  | wrote index data conn conn' found written pool conns =>
      refine ⟨⟨?_, ?_⟩, nofun⟩
      · rw [pool]
        exact sound.pool
      · intro other member
        have counted := counts other member
        rw [pool] at counted ⊢
        rw [conns] at member
        rcases List.mem_or_eq_of_mem_set member with old | rfl
        · exact sound.conns other old
        · have known := sound.conns conn (List.mem_of_getElem? found)
          rcases write_cases written with rfl | rfl
          · exact known
          · refine ⟨known.bound, fun item queued => ?_, known.written⟩
            rcases List.mem_append.mp queued with old | new
            · exact known.queued item old
            · exact counted item (List.mem_append_right _ new)
  | acted index act conn conn' effect found acted pool conns =>
      have known := sound.conns conn (List.mem_of_getElem? found)
      obtain ⟨owner, how⟩ := VirtualConn.act_acted acted
      have after := conn_acted_sound sound.pool known owner how
      refine ⟨⟨?_, ?_⟩, nofun⟩
      · rw [pool]
        exact after.1
      · intro other member
        rw [pool]
        rw [conns] at member
        rcases List.mem_or_eq_of_mem_set member with old | rfl
        · exact (sound.conns other old).grow (extends_conn_effect _ _ _)
        · exact after.2
  | idle action call called unsent pool conns =>
      have drained := drained_sound sound call
      rw [← pool, ← conns] at drained
      exact ⟨⟨drained.1, drained.2.1⟩, nofun⟩
  | posted action call called returned encodes pool conns =>
      have drained := drained_sound sound call
      refine ⟨⟨?_, ?_⟩, fun post member => ?_⟩
      · rw [pool]
        exact drained.1
      · rw [pool, conns]
        exact drained.2.1
      · cases member
        exact drained.2.2
  | still action pool conns =>
      refine ⟨⟨?_, ?_⟩, nofun⟩
      · rw [pool]
        exact sound.pool
      · rw [pool, conns]
        exact sound.conns

/-- An answer keeps the queues, provided its frames are on their way down. -/
theorem Sound.answered {before after : Client} {index : Nat} {answer : Answer} {sent : Nat}
    {rttMs now : ℚ} (sound : before.Sound A B)
    (received : ∀ frames bodyLength, answer = .frames frames bodyLength →
      ∀ f ∈ frames, Downlink B f.sessionId f)
    (taken : before.answered index answer sent rttMs now = some after) : after.Sound A B := by
  obtain ⟨w, request, frames, ep, found, posting, rfl⟩ := answered_cases taken
  constructor
  · rcases take_answer_pool before.pool (ep.recordPost sent rttMs) frames now answer with
      ⟨respFrames, bodyLength, brought, same⟩ | ⟨_, same | same⟩
    · dsimp only
      rw [same]
      exact dispatch_response_holds now sound.pool (received respFrames bodyLength brought)
    · dsimp only
      rw [same]
      exact sound.pool
    · dsimp only
      rw [same]
      exact drop_failed_holds frames sound.pool
  · exact fun conn member => (sound.conns conn member).grow (extends_take_answer _ _ _ _ _)

theorem react_own {before after : Client} {request : Nat} {action : ClientAction}
    {sent : Option Post} (own : OwnQueues before.pool)
    (reacted : Reacted before request after action sent) : OwnQueues after.pool := by
  cases reacted with
  | opened sid target now pool conns =>
      rw [pool]
      exact open_holds sid target now own rfl
  | wrote index data conn conn' found written pool conns =>
      rw [pool]
      exact own
  | acted index act conn conn' effect found acted pool conns =>
      rw [pool]
      apply conn_effect_holds own
      cases (VirtualConn.act_acted acted).2 <;> trivial
  | idle action call called unsent pool conns
  | posted action call called returned encodes pool conns =>
      rw [pool]
      exact (drain_all_holds own _ _ _).1
  | still action pool conns =>
      rw [pool]
      exact own

theorem answered_own {before after : Client} {index : Nat} {answer : Answer} {sent : Nat}
    {rttMs now : ℚ} (own : OwnQueues before.pool)
    (taken : before.answered index answer sent rttMs now = some after) : OwnQueues after.pool := by
  obtain ⟨w, request, frames, ep, _, _, rfl⟩ := answered_cases taken
  rcases take_answer_pool before.pool (ep.recordPost sent rttMs) frames now answer with
    ⟨respFrames, _, _, same⟩ | ⟨_, same | same⟩
  · dsimp only
    rw [same]
    exact dispatch_response_holds now own fun _ _ => trivial
  · dsimp only
    rw [same]
    exact own
  · dsimp only
    rw [same]
    exact drop_failed_holds frames own

/-- Connections stay where they are and only accept more. -/
structure Grows (before after : Client) : Prop where
  pool : before.pool.Extends after.pool
  conns : ∀ (index : Nat) (conn : VirtualConn), before.conns[index]? = some conn →
    ∃ conn' : VirtualConn, after.conns[index]? = some conn' ∧ conn'.session = conn.session ∧
      conn.accepted <+: conn'.accepted

theorem grows_of_set {before after : Client} {index : Nat} {conn conn' : VirtualConn}
    (pool : before.pool.Extends after.pool) (found : before.conns[index]? = some conn)
    (conns : after.conns = before.conns.set index conn') (session : conn'.session = conn.session)
    (accepted : conn.accepted <+: conn'.accepted) : before.Grows after := by
  refine ⟨pool, fun other known present => ?_⟩
  rw [conns]
  by_cases here : index = other
  · subst here
    rw [found] at present
    cases present
    exact ⟨conn', List.getElem?_set_self' ▸ by rw [found]; rfl, session, accepted⟩
  · exact ⟨known, (List.getElem?_set_ne here).trans present, rfl, List.prefix_refl _⟩

theorem grows_of_same {before after : Client} (pool : before.pool.Extends after.pool)
    (conns : after.conns = before.conns) : before.Grows after := by
  refine ⟨pool, fun index conn present => ⟨conn, ?_, rfl, List.prefix_refl _⟩⟩
  rw [conns]
  exact present

theorem react_grows {before after : Client} {request : Nat} {action : ClientAction}
    {sent : Option Post} (reacted : Reacted before request after action sent) :
    before.Grows after := by
  cases reacted with
  | opened sid target now pool conns =>
      constructor
      · rw [pool]
        exact extends_open _ _ _ _
      · intro index conn present
        refine ⟨conn, ?_, rfl, List.prefix_refl _⟩
        rw [conns, List.getElem?_append_left (List.getElem?_eq_some_iff.mp present).1]
        exact present
  | wrote index data conn conn' found written pool conns =>
      have same : before.pool.Extends after.pool := pool ▸ Extends.refl _
      rcases write_cases written with rfl | rfl
      · exact grows_of_set same found conns rfl (List.prefix_refl _)
      · exact grows_of_set same found conns rfl (List.prefix_append _ _)
  | acted index act conn conn' effect found acted pool conns =>
      have owner := (VirtualConn.act_acted acted).1
      refine grows_of_set ?_ found conns owner.session ?_
      · rw [pool]
        exact extends_conn_effect _ _ _
      · rw [owner.accepted]
  | idle action call called unsent pool conns
  | posted action call called returned encodes pool conns =>
      refine grows_of_same ?_ conns
      rw [pool]
      exact extends_untouched (untouched_drain_all _ _ _ _)
  | still action pool conns =>
      exact grows_of_same (pool ▸ Extends.refl _) conns

theorem answered_grows {before after : Client} {index : Nat} {answer : Answer} {sent : Nat}
    {rttMs now : ℚ} (taken : before.answered index answer sent rttMs now = some after) :
    before.Grows after := by
  obtain ⟨w, request, frames, ep, found, posting, rfl⟩ := answered_cases taken
  exact grows_of_same (extends_take_answer _ _ _ _ _) rfl

end Client

end Astrix
