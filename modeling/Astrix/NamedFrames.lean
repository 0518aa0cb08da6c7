import Astrix.CrossTalk
import Astrix.ServerRuns

/-!
# What an encoder gets to encode

A virtual connection packs the id of its session from two clocks, and every other
id is taken over from a frame or a configuration. If all connections are opened
under ids of sixteen bytes, every frame of the tunnel has such an id and one byte
of flags, and what a server answers has no targets besides.
-/

namespace Astrix

open PyRuntime SessionPool

set_option autoImplicit false

/-- What `encode_batch` relies on and does not check. -/
structure Carried (f : Frame) : Prop where
  idLength : f.sessionId.length = SessionIDLen
  flags : f.flags ≤ 0xFF

theorem ServerMade.carried {f : Frame} (made : ServerMade f) : Carried f :=
  ⟨made.idLength, made.flags⟩

/-- A batch with a client id of sixteen bytes and frames to match. -/
structure NamedBatch (clientId : Bytes) (frames : List Frame) : Prop where
  clientId : clientId.length = ClientIDLen
  frames : ∀ f ∈ frames, Carried f

namespace Client

/-- `VirtualConn.open` packs an id of sixteen bytes. -/
def OpensNamed : ClientAction → Prop
  | .openConn sid _ _ => sid.length = SessionIDLen
  | _ => True

instance : DecidablePred OpensNamed
  | .openConn sid _ _ => inferInstanceAs (Decidable (sid.length = SessionIDLen))
  | .write _ _ | .conn _ _ | .work _ _ | .heard _ _ _ | .cooled _ | .health _ _ | .stop =>
      isTrue trivial

structure Named (client : Client) : Prop where
  clientId : client.clientId.length = ClientIDLen
  queues : client.pool.Holds (fun _ f => Carried f) AnyFrame
  conns : ∀ conn ∈ client.conns, conn.session < client.pool.fresh ∧
    (client.pool.objects conn.session).sessionId.length = SessionIDLen

theorem start_named {clientId : Bytes} (idLength : clientId.length = ClientIDLen)
    (endpoints : Nat) : (start clientId endpoints).Named :=
  ⟨idLength, new_holds, List.forall_mem_nil _⟩

theorem send_client_id (client : Client) (index request : Nat) (w : CarrierWorker)
    (idle : WorkerPhase) (drain : Drain) :
    (client.send index w request idle drain).1.clientId = client.clientId := by
  unfold send
  cases drain.failed with
  | some error => rfl
  | none =>
      dsimp only
      split_ifs
      · rfl
      · cases batchPlaintext client.clientId drain.frames <;> rfl

theorem react_client_id {before after : Client} {request : Nat} {action : ClientAction}
    {sent : Option Post} (reacted : before.react request action = some (after, sent)) :
    after.clientId = before.clientId := by
  cases react_cases reacted with
  | openConn | write | conn | cooled | health | stop => rfl
  | work index now w ep _ _ found head present worked =>
      obtain rfl : (before.work request index w ep now).1 = after := congrArg Prod.fst worked
      rw [work]
      split_ifs
      · rfl
      · rfl
      · exact send_client_id _ _ _ _ _ _
  | heard index activity now w ep _ _ found waiting present worked =>
      obtain rfl : (before.hear request index w ep activity now).1 = after :=
        congrArg Prod.fst worked
      rw [hear]
      split_ifs
      · exact send_client_id _ _ _ _ _ _
      · rfl

theorem Named.grown {client later : Client} (named : client.Named)
    (grown : client.pool.Extends later.pool) {conn : VirtualConn} (member : conn ∈ client.conns) :
    conn.session < later.pool.fresh ∧
      (later.pool.objects conn.session).sessionId.length = SessionIDLen := by
  obtain ⟨bound, idLength⟩ := named.conns conn member
  refine ⟨bound.trans_le grown.fresh, ?_⟩
  rw [grown.ids _ bound]
  exact idLength

theorem acted_carried {s : Session} {conn conn' : VirtualConn} {effect : ConnEffect}
    (acted : VirtualConn.Acted s conn conn' effect) (idLength : s.sessionId.length = SessionIDLen) :
    effect.Satisfies (fun _ f => Carried f) s.sessionId := by
  cases acted with
  | chunk data rest now head queue written => exact ⟨idLength, Nat.zero_le _⟩
  | fin now pending queue written => exact ⟨idLength, (by decide : FlagFIN ≤ 0xFF)⟩
  | silent | wake | skip | write => trivial

/-- One step of a client, and the batch it posts. -/
theorem Named.react {before after : Client} {request : Nat} {action : ClientAction}
    {sent : Option Post} (named : before.Named) (opens : OpensNamed action)
    (reacted : before.react request action = some (after, sent)) :
    after.Named ∧ ∀ post ∈ sent, NamedBatch post.clientId post.frames := by
  have sameId := react_client_id reacted
  have clientId : after.clientId.length = ClientIDLen := sameId ▸ named.clientId
  have how := react_reacted reacted
  have grown := (react_grows how).pool
  have kept : ∀ conn ∈ before.conns, conn.session < after.pool.fresh ∧
      (after.pool.objects conn.session).sessionId.length = SessionIDLen :=
    fun conn member => named.grown grown member
  cases how with
  | opened sid target now pool conns =>
      refine ⟨⟨clientId, ?_, fun conn member => ?_⟩, nofun⟩
      · rw [pool]
        exact open_holds sid target now named.queues ⟨opens, (by decide : FlagSYN ≤ 0xFF)⟩
      · rw [conns] at member
        rcases List.mem_append.mp member with old | new
        · exact kept conn old
        · have created := get_or_create_get before.pool sid FlagSYN target now
          have queued := @extends_enqueue_tx (before.pool.getOrCreate sid FlagSYN target now).1
            (before.pool.getOrCreate sid FlagSYN target now).2 (synFrame sid target) now
          obtain ⟨bound, sameSid⟩ := get_keyed created
          rw [List.mem_singleton.mp new, pool]
          refine ⟨bound.trans_le queued.fresh, ?_⟩
          exact (congrArg List.length ((queued.ids _ bound).trans sameSid)).trans opens
  | wrote index data conn conn' found written pool conns =>
      refine ⟨⟨clientId, pool ▸ named.queues, fun other member => ?_⟩, nofun⟩
      rw [conns] at member
      rcases List.mem_or_eq_of_mem_set member with old | rfl
      · exact kept other old
      · have known := kept conn (List.mem_of_getElem? found)
        rcases write_cases written with rfl | rfl
        · exact known
        · exact known
  | acted index act conn conn' effect found acted pool conns =>
      obtain ⟨owner, how⟩ := VirtualConn.act_acted acted
      have present := List.mem_of_getElem? found
      refine ⟨⟨clientId, ?_, fun other member => ?_⟩, nofun⟩
      · rw [pool]
        exact conn_effect_holds named.queues (acted_carried how (named.conns conn present).2)
      · rw [conns] at member
        rcases List.mem_or_eq_of_mem_set member with old | rfl
        · exact kept other old
        · rw [owner.session]
          exact kept conn present
  | idle action call called unsent pool conns =>
      refine ⟨⟨clientId, ?_, conns ▸ kept⟩, nofun⟩
      rw [pool]
      exact (drain_all_holds named.queues _ _ _).1
  | posted action call called returned encodes pool conns =>
      have drained := drain_all_holds named.queues call.batchSize call.workerId call.now
      refine ⟨⟨clientId, ?_, conns ▸ kept⟩, fun post posted => ?_⟩
      · rw [pool]
        exact drained.1
      · cases posted
        refine ⟨named.clientId, fun f member => ?_⟩
        obtain ⟨_, _, carried⟩ := drained.2 f member
        exact carried
  | still action pool conns =>
      exact ⟨⟨clientId, pool ▸ named.queues, conns ▸ kept⟩, nofun⟩

theorem Named.answered {before after : Client} {index : Nat} {answer : Answer} {sent : Nat}
    {rttMs now : ℚ} (named : before.Named)
    (taken : before.answered index answer sent rttMs now = some after) : after.Named := by
  have grown := (answered_grows taken).pool
  obtain ⟨w, request, frames, ep, found, posting, rfl⟩ := answered_cases taken
  refine ⟨named.clientId, ?_, fun conn member => named.grown grown member⟩
  rcases take_answer_pool before.pool (ep.recordPost sent rttMs) frames now answer with
    ⟨respFrames, bodyLength, brought, same⟩ | ⟨_, same | same⟩
  · dsimp only
    rw [same]
    exact dispatch_response_holds now named.queues fun _ _ => trivial
  · dsimp only
    rw [same]
    exact named.queues
  · dsimp only
    rw [same]
    exact drop_failed_holds frames named.queues

end Client

namespace ExitServer

structure Named (server : ExitServer) : Prop where
  frames : server.Holds (fun _ f => ServerMade f) AnyFrame
  workers : server.WorkersOwn fun sid => sid.length = SessionIDLen
  polls : ∀ entry ∈ server.polls, entry.2.clientId.length = ClientIDLen

theorem new_named : ExitServer.new.Named :=
  ⟨⟨new_holds, List.forall_mem_nil _⟩, List.forall_mem_nil _, List.forall_mem_nil _⟩

/-- One step of the server, and its reply. -/
theorem Named.react {before after : ExitServer} {action : ServerAction} {reply : Option Reply}
    (named : before.Named) (posted : ∀ batch ∈ action.batches, NamedBatch batch.1 batch.2)
    (reacted : before.react action = some (after, reply)) :
    after.Named ∧ ∀ answer ∈ reply, answer.clientId.length = ClientIDLen ∧
      ∀ f ∈ answer.frames, ServerMade f := by
  have brings : before.Brings (fun _ f => ServerMade f) AnyFrame action := by
    cases action with
    | post request clientId frames now atCheck afterScan =>
        have batch := posted _ List.mem_cons_self
        exact fun f member => ⟨trivial, fun _ => busy_frame_made (batch.frames f member).idLength⟩
    | resume index atCheck afterScan => trivial
    | worker index act =>
        intro w found w' effect acted
        exact worker_effect_made acted (named.workers w (List.mem_of_getElem? found)).2 _
  obtain ⟨held, answers⟩ := named.frames.react (fun _ _ made => made) brings reacted
  obtain ⟨polls, clients⟩ :=
    @react_clients before after action reply (fun clientId => clientId.length = ClientIDLen)
      named.polls (fun batch member => (posted batch member).clientId) reacted
  refine ⟨⟨held, named.workers.react ?_ reacted, polls⟩,
    fun answer replied => ⟨clients answer replied, answers answer replied⟩⟩
  intro request clientId frames now atCheck afterScan same f member syn
  subst same
  exact ((posted _ List.mem_cons_self).frames f member).idLength

end ExitServer

namespace Tunnel

/-- Every connection is opened under an id of sixteen bytes. -/
def OpensNamed (_ : Tunnel) : TunnelAction → Prop
  | .client _ action => Client.OpensNamed action
  | _ => True

structure Named (t : Tunnel) : Prop where
  clients : ∀ client ∈ t.clients, client.Named
  server : t.server.Named
  posts : ∀ post ∈ t.posts, NamedBatch post.clientId post.frames

theorem start_named {clients : List (Bytes × Nat)}
    (ids : ∀ entry ∈ clients, entry.1.length = ClientIDLen) : (start clients).Named := by
  refine ⟨fun client member => ?_, ExitServer.new_named, List.forall_mem_nil _⟩
  obtain ⟨entry, listed, rfl⟩ := List.mem_map.mp member
  exact Client.start_named (ids entry listed) entry.2

theorem step_named {t later : Tunnel} {action : TunnelAction} (named : t.Named)
    (opens : t.OpensNamed action) (stepped : t.step action = some later) : later.Named := by
  have replaced : ∀ {index : Nat} {c : Client}, c.Named →
      ∀ client ∈ t.clients.set index c, client.Named := by
    intro index c new client member
    rcases List.mem_or_eq_of_mem_set member with old | rfl
    · exact named.clients client old
    · exact new
  cases step_stepped stepped with
  | client index action c c' sent found reacted =>
      obtain ⟨after, posted⟩ := (named.clients c (List.mem_of_getElem? found)).react opens reacted
      refine ⟨replaced after, named.server, fun post member => ?_⟩
      rcases List.mem_append.mp member with old | new
      · exact named.posts post old
      · exact posted post (Option.mem_toList.mp new)
  | arrive index keep now atCheck afterScan post server reply found reacted =>
      have batch := named.posts post (List.mem_of_getElem? found)
      refine ⟨named.clients, (named.server.react (fun other member => ?_) reacted).1,
        fun other member => named.posts other (mem_left_in_flight member)⟩
      rw [List.mem_singleton.mp member]
      exact batch
  | resume index atCheck afterScan server reply reacted =>
      exact ⟨named.clients, (named.server.react (List.forall_mem_nil _) reacted).1, named.posts⟩
  | upstream index act server reply reacted =>
      exact ⟨named.clients, (named.server.react (List.forall_mem_nil _) reacted).1, named.posts⟩
  | deliver index keep client worker bodyLength sent rttMs now response c c' found present taken =>
      have after := (named.clients c (List.mem_of_getElem? present)).answered taken
      exact ⟨replaced after, named.server, named.posts⟩
  | relay client worker answer sent rttMs now c c' bare present taken =>
      have after := (named.clients c (List.mem_of_getElem? present)).answered taken
      exact ⟨replaced after, named.server, named.posts⟩

end Tunnel

end Astrix
