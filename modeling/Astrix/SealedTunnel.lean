import Astrix.Library.PartialView
import Astrix.NamedFrames

/-!
# The tunnel in bytes

What is in flight are bodies: base64 of sealed envelopes on the way up, HTTP
responses on the way down. The network loses, delays, repeats and reorders them,
posts bodies of its own and answers by itself, as long as what it makes up does
not open under the tunnel key. With every body opened this is the tunnel of frames.
-/

namespace Astrix

open PyRuntime

set_option autoImplicit false

/-- What an encoder finds when it is called. The globals only decide whether it
compresses. -/
structure Codec where
  nonce : Nonce
  globals : CodecGlobals

structure SealedPost where
  request : Nat
  body : Bytes
  deriving DecidableEq, Repr

structure SealedResponse where
  request : Nat
  response : HttpResponse
  deriving DecidableEq, Repr

structure SealedTunnel where
  clients : List Client
  server : ExitServer
  posts : List SealedPost
  responses : List SealedResponse
  posted : Nat
  time : ℚ

/-- `forge` and `relay` are what the network makes up. -/
inductive SealedAction where
  | client (index : Nat) (action : ClientAction) (codec : Codec)
  | arrive (index : Nat) (keep : Bool) (now atCheck afterScan : ℚ) (codec : Codec)
  | resume (index : Nat) (atCheck afterScan : ℚ) (codec : Codec)
  | upstream (index : Nat) (act : WorkerAct) (codec : Codec)
  | deliver (index : Nat) (keep : Bool) (client worker sent : Nat) (rttMs now : ℚ)
  | forge (post : SealedPost)
  | relay (client worker : Nat) (response : HttpResponse) (sent : Nat) (rttMs now : ℚ)

section Bodies

variable (prims : Primitives)

/-- The request of a batch; a worker makes none when the encoder raises. -/
def Post.sealed (codec : Codec) (post : Post) : Option SealedPost :=
  match clientEncodeBatch prims codec.nonce codec.globals.adaptive post.clientId post.frames with
  | .ok (body, _) => some ⟨post.request, body⟩
  | .error _ => none

def Reply.sealed (codec : Codec) (reply : Reply) : SealedResponse :=
  ⟨reply.request, respond prims codec.nonce codec.globals reply.clientId reply.frames⟩

/-- The batch in a request. -/
def SealedPost.opened (post : SealedPost) : Option Post :=
  match decodeBatch prims post.body with
  | .ok (clientId, frames) => some ⟨post.request, clientId, frames⟩
  | .error _ => none

def HttpResponse.answer (response : HttpResponse) : Answer :=
  readAnswer prims response.status response.body

/-- The frames that a client finds in a response. -/
def SealedResponse.opened (sealed : SealedResponse) : Option Response :=
  match sealed.response.answer prims with
  | .frames frames _ => some ⟨sealed.request, frames⟩
  | _ => none

namespace SealedTunnel

def start (clients : List (Bytes × Nat)) : SealedTunnel where
  clients := clients.map fun (clientId, endpoints) => Client.start clientId endpoints
  server := ExitServer.new
  posts := []
  responses := []
  posted := 0
  time := 0

def serve (t : SealedTunnel) (codec : Codec) (action : ServerAction) : Option SealedTunnel :=
  (t.server.react action).map fun (server, reply) =>
    { t with
      server := server
      responses := t.responses ++ (reply.map (Reply.sealed prims codec)).toList }

def step (t : SealedTunnel) : SealedAction → Option SealedTunnel
  | .client index action codec =>
      match t.clients[index]? with
      | some client => (client.react t.posted action).map fun (client, sent) =>
          { t with
            clients := t.clients.set index client
            posts := t.posts ++ (sent.bind (Post.sealed prims codec)).toList
            posted := t.posted + sent.toList.length }
      | none => none
  | .arrive index keep now atCheck afterScan codec =>
      match t.posts[index]? with
      | some post =>
          let t := { t with posts := leftInFlight keep t.posts index }
          match decodeBatch prims post.body with
          | .ok (clientId, frames) =>
              { t with time := max t.time (max now (max atCheck afterScan)) }.serve prims codec
                (.post post.request clientId frames now atCheck afterScan)
          | .error _ =>
              some { t with responses := t.responses ++ [⟨post.request, badRequest⟩] }
      | none => none
  | .resume index atCheck afterScan codec =>
      { t with time := max t.time (max atCheck afterScan) }.serve prims codec
        (.resume index atCheck afterScan)
  | .upstream index act codec => t.serve prims codec (.worker index act)
  | .deliver index keep client worker sent rttMs now =>
      match t.responses[index]?, t.clients[client]? with
      | some sealed, some c =>
          (c.answered worker (sealed.response.answer prims) sent rttMs now).map fun c =>
            { t with
              clients := t.clients.set client c
              responses := leftInFlight keep t.responses index }
      | _, _ => none
  | .forge post =>
      match decodeBatch prims post.body with
      | .ok _ => none
      | .error _ => some { t with posts := t.posts ++ [post] }
  | .relay client worker response sent rttMs now =>
      match (response.answer prims).bare, t.clients[client]? with
      | true, some c => (c.answered worker (response.answer prims) sent rttMs now).map fun c =>
          { t with clients := t.clients.set client c }
      | _, _ => none

/-- The tunnel of frames that is seen when every body is opened. -/
def opened (t : SealedTunnel) : Tunnel where
  clients := t.clients
  server := t.server
  posts := t.posts.filterMap (SealedPost.opened prims)
  responses := t.responses.filterMap (SealedResponse.opened prims)
  posted := t.posted
  time := t.time

/-- Every connection is opened under an id of sixteen bytes. -/
def OpensNamed (_ : SealedTunnel) : SealedAction → Prop
  | .client _ action _ => Client.OpensNamed action
  | _ => True

end SealedTunnel

def sealedMachine : StepMachine SealedTunnel SealedAction := ⟨SealedTunnel.step prims⟩

end Bodies

section Opening

variable {prims : Primitives}

/-- The server reads what a client posted. -/
theorem sealed_post_opens (lawful : prims.Lawful) (codec : Codec) {post : Post}
    (named : NamedBatch post.clientId post.frames)
    (encodes : Client.Encodes post.clientId post.frames) :
    ∃ request, post.sealed prims codec = some request ∧ request.opened prims = some post := by
  cases written : batchPlaintext post.clientId post.frames with
  | error error =>
      rw [Client.Encodes, written] at encodes
      cases encodes
  | ok plaintext =>
      obtain ⟨result, encoded⟩ : ∃ result, clientEncodeBatch prims codec.nonce
          codec.globals.adaptive post.clientId post.frames = .ok result := by
        rw [clientEncodeBatch, encodeBatchWith, bind_ok written]
        exact ⟨_, rfl⟩
      have decoded := (encode_batch_with_decodes lawful
        (client_raw_form post.clientId post.frames)
        (fun f member => (named.frames f member).idLength)
        (fun f member => (named.frames f member).flags) encoded).1
      refine ⟨⟨post.request, result.1⟩, ?_, ?_⟩
      · rw [Post.sealed, encoded]
      · rw [SealedPost.opened, decoded]

/-- A response brings frames or could have come from the relay itself. -/
theorem answer_cases (response : HttpResponse) : (response.answer prims).bare = true ∨
    ∃ frames bodyLength, response.answer prims = .frames frames bodyLength := by
  rw [HttpResponse.answer, readAnswer]
  split_ifs with succeeded nonempty
  · cases decodeBatch prims response.body with
    | ok batch => exact .inr ⟨batch.2, _, rfl⟩
    | error error => exact .inl rfl
  · exact .inl rfl
  · exact .inl (bne_iff_ne.mpr succeeded)

theorem unreadable_unseen {request : Nat} {body : Bytes}
    (unreadable : ∀ decoded, decodeBatch prims body ≠ .ok decoded) :
    SealedResponse.opened prims ⟨request, ⟨200, body⟩⟩ = none := by
  rw [SealedResponse.opened, HttpResponse.answer, readAnswer, if_pos rfl]
  split_ifs
  · cases decoded : decodeBatch prims body with
    | ok batch => exact absurd decoded (unreadable batch)
    | error error => rfl
  · rfl

theorem readable_seen {request : Nat} {body clientId : Bytes} {frames : List Frame}
    (decoded : decodeBatch prims body = .ok (clientId, frames)) (some : frames ≠ []) :
    SealedResponse.opened prims ⟨request, ⟨200, body⟩⟩ = .some ⟨request, frames⟩ := by
  have nonempty : body ≠ [] := by
    intro empty
    rw [empty] at decoded
    cases decoded
    exact some rfl
  rw [SealedResponse.opened, HttpResponse.answer, readAnswer, if_pos rfl, if_pos nonempty, decoded]

theorem failure_unseen {request status : Nat} {body : Bytes} (failed : status ≠ 200) :
    SealedResponse.opened prims ⟨request, ⟨status, body⟩⟩ = none := by
  rw [SealedResponse.opened, HttpResponse.answer, readAnswer, if_neg failed]

/-- A client reads of a reply what the tunnel of frames has in flight of it. -/
theorem sealed_reply_opens (lawful : prims.Lawful) (codec : Codec) {reply : Reply}
    (idLength : reply.clientId.length = ClientIDLen) (made : ∀ f ∈ reply.frames, ServerMade f) :
    (reply.sealed prims codec).opened prims = reply.response := by
  rw [Reply.sealed, Reply.response]
  by_cases empty : reply.frames = []
  · obtain ⟨body, answered, unreadable⟩ :=
      empty_response_unreadable prims codec.nonce codec.globals idLength
    rw [if_neg (fun both => both.1 empty), empty, answered]
    exact unreadable_unseen unreadable
  · cases written : batchPlaintext reply.clientId reply.frames with
    | ok plaintext =>
        have encodes : Client.Encodes reply.clientId reply.frames := by
          rw [Client.Encodes, written]
          rfl
        have answered : respond prims codec.nonce codec.globals reply.clientId reply.frames =
            ⟨200, (respond prims codec.nonce codec.globals reply.clientId reply.frames).body⟩ := by
          rw [respond, responseBody, if_pos empty, serverEncodeBatch, encodeBatchWith,
            bind_ok written]
          rfl
        have decoded := collected_response_readable lawful idLength empty made answered
        rw [if_pos ⟨empty, encodes⟩, answered]
        exact readable_seen decoded empty
    | error error =>
        have refused : ¬ Client.Encodes reply.clientId reply.frames := by
          rw [Client.Encodes, written]
          exact Bool.false_ne_true
        have failed : serverEncodeBatch prims codec.nonce codec.globals.adaptive reply.clientId
            reply.frames = .error error := by
          rw [serverEncodeBatch, encodeBatchWith, written]
          rfl
        rw [if_neg (fun both => refused both.2), respond, responseBody, if_pos empty, failed]
        cases fallen : fallbackBody codec.globals.bufPool reply.clientId reply.frames with
        | ok result =>
            obtain ⟨_, _, accepted⟩ := fallback_needs_encodable prims codec.nonce
              codec.globals.adaptive idLength made fallen
            rw [failed] at accepted
            cases accepted
        | error _ => exact failure_unseen (by decide)

end Opening

section Refinement

open PartialView

variable {prims : Primitives}

theorem left_seen {Item Seen : Type} {look : Item → Option Seen} {items : List Item} {index : Nat}
    {item : Item} {seen : Seen} (keep : Bool) (found : items[index]? = some item)
    (looked : look item = some seen) :
    (leftInFlight keep items index).filterMap look =
      leftInFlight keep (items.filterMap look) (place look items index) := by
  unfold leftInFlight
  split_ifs
  · rfl
  · exact view_erase found looked

theorem left_unseen {Item Seen : Type} {look : Item → Option Seen} {items : List Item}
    {index : Nat} {item : Item} (keep : Bool) (found : items[index]? = some item)
    (looked : look item = none) :
    (leftInFlight keep items index).filterMap look = items.filterMap look := by
  unfold leftInFlight
  split_ifs
  · rfl
  · exact view_erase_unseen found looked

namespace SealedTunnel

theorem opened_eq {t : SealedTunnel} {seen : Tunnel} (clients : t.clients = seen.clients)
    (server : t.server = seen.server)
    (posts : t.posts.filterMap (SealedPost.opened prims) = seen.posts)
    (responses : t.responses.filterMap (SealedResponse.opened prims) = seen.responses)
    (posted : t.posted = seen.posted) (time : t.time = seen.time) : t.opened prims = seen := by
  rw [opened, clients, server, posts, responses, posted, time]

/-- What the server does and answers is what it does and answers in frames. -/
theorem serve_opened (lawful : prims.Lawful) {t later : SealedTunnel} {codec : Codec}
    {action : ServerAction} (named : t.server.Named)
    (posted : ∀ batch ∈ action.batches, NamedBatch batch.1 batch.2)
    (served : t.serve prims codec action = some later) :
    (t.opened prims).serve action = some (later.opened prims) := by
  obtain ⟨⟨server, reply⟩, reacted, rfl⟩ := Option.map_eq_some_iff.mp served
  have answered := (named.react posted reacted).2
  have same : ((reply.map (Reply.sealed prims codec)).toList.filterMap
      (SealedResponse.opened prims)) = (reply.bind Reply.response).toList := by
    cases reply with
    | none => rfl
    | some answer =>
        obtain ⟨idLength, made⟩ := answered answer rfl
        have read := sealed_reply_opens lawful codec idLength made
        rw [Option.map_some, Option.toList_some, Option.bind_some]
        cases seen : answer.response with
        | none => rw [List.filterMap_cons_none (read.trans seen), List.filterMap_nil,
            Option.toList_none]
        | some response => rw [List.filterMap_cons_some (read.trans seen), List.filterMap_nil,
            Option.toList_some]
  have moved : (t.opened prims).server.react action = some (server, reply) := reacted
  rw [Tunnel.serve, moved, Option.map_some]
  refine congrArg some (opened_eq rfl rfl rfl ?_ rfl rfl).symm
  rw [List.filterMap_append, same]
  rfl

/-- A step in bytes is a step in frames, or nobody sees it. -/
theorem step_opened (lawful : prims.Lawful) {t later : SealedTunnel} {action : SealedAction}
    (named : (t.opened prims).Named) (opens : t.OpensNamed action)
    (stepped : t.step prims action = some later) :
    later.opened prims = t.opened prims ∨
      ∃ step, (t.opened prims).OpensNamed step ∧
        (t.opened prims).step step = some (later.opened prims) := by
  cases action with
  | client index action codec =>
      simp only [step] at stepped
      split at stepped
      · next client found =>
          obtain ⟨⟨after, sent⟩, reacted, rfl⟩ := Option.map_eq_some_iff.mp stepped
          refine .inr ⟨.client index action, opens, ?_⟩
          have batches := ((named.clients client (List.mem_of_getElem? found)).react opens
            reacted).2
          have carried : (sent.bind (Post.sealed prims codec)).toList.filterMap
              (SealedPost.opened prims) = sent.toList := by
            cases sent with
            | none => rfl
            | some post =>
                have encodes : Client.Encodes post.clientId post.frames := by
                  cases Client.react_reacted reacted with
                  | posted action call called returned encodes pool conns => exact encodes
                obtain ⟨request, sealed, read⟩ :=
                  sealed_post_opens lawful codec (batches post rfl) encodes
                rw [Option.bind_some, sealed, Option.toList_some, List.filterMap_cons_some read]
                rfl
          have present : (t.opened prims).clients[index]? = some client := found
          have moved : client.react (t.opened prims).posted action = some (after, sent) := reacted
          simp only [Tunnel.step, present, moved, Option.map_some]
          refine congrArg some (opened_eq rfl rfl ?_ rfl rfl rfl).symm
          rw [List.filterMap_append, carried]
          rfl
      · cases stepped
  | arrive index keep now atCheck afterScan codec =>
      simp only [step] at stepped
      split at stepped
      · next post found =>
          split at stepped
          · next clientId frames decoded =>
              have looked : post.opened prims = some ⟨post.request, clientId, frames⟩ := by
                rw [SealedPost.opened, decoded]
              have seen := view_get found looked
              have batch := named.posts _ (List.mem_of_getElem? seen)
              refine .inr ⟨.arrive (place (SealedPost.opened prims) t.posts index) keep now atCheck
                afterScan, trivial, ?_⟩
              have served := @serve_opened prims lawful { t with
                  posts := leftInFlight keep t.posts index
                  time := max t.time (max now (max atCheck afterScan)) } later codec
                (.post post.request clientId frames now atCheck afterScan) named.server
                (fun other member => List.mem_singleton.mp member ▸ batch) stepped
              have present : (t.opened prims).posts[
                  place (SealedPost.opened prims) t.posts index]? =
                some ⟨post.request, clientId, frames⟩ := seen
              simp only [Tunnel.step, present]
              rw [← served]
              refine congrArg (Tunnel.serve · _) (opened_eq rfl rfl ?_ rfl rfl rfl).symm
              exact left_seen keep found looked
          · next error decoded =>
              cases stepped
              have looked : post.opened prims = none := by
                rw [SealedPost.opened, decoded]
              have refused : SealedResponse.opened prims ⟨post.request, badRequest⟩ = none :=
                failure_unseen (by decide)
              refine .inl (opened_eq rfl rfl (left_unseen keep found looked) ?_ rfl rfl)
              rw [List.filterMap_append, List.filterMap_cons_none refused, List.filterMap_nil,
                List.append_nil]
              rfl
      · cases stepped
  | resume index atCheck afterScan codec =>
      exact .inr ⟨.resume index atCheck afterScan, trivial,
        @serve_opened prims lawful { t with time := max t.time (max atCheck afterScan) } later codec
          (.resume index atCheck afterScan) named.server (List.forall_mem_nil _) stepped⟩
  | upstream index act codec =>
      exact .inr ⟨.upstream index act, trivial,
        @serve_opened prims lawful t later codec (.worker index act) named.server
          (List.forall_mem_nil _) stepped⟩
  | deliver index keep client worker sent rttMs now =>
      simp only [step] at stepped
      split at stepped
      · next sealed c found present =>
          obtain ⟨after, taken, rfl⟩ := Option.map_eq_some_iff.mp stepped
          have known : (t.opened prims).clients[client]? = some c := present
          right
          rcases @answer_cases prims sealed.response with bare | ⟨frames, bodyLength, answer⟩
          · have looked : sealed.opened prims = none := by
              rw [SealedResponse.opened]
              cases answer : sealed.response.answer prims with
              | frames frames bodyLength =>
                  rw [answer] at bare
                  cases bare
              | emptyBody | unreadable | failed => rfl
            refine ⟨.relay client worker (sealed.response.answer prims) sent rttMs now, trivial, ?_⟩
            simp only [Tunnel.step, bare, known, taken, Option.map_some]
            have kept := left_unseen keep found looked
            exact congrArg some (opened_eq rfl rfl rfl kept rfl rfl).symm
          · have looked : sealed.opened prims = some ⟨sealed.request, frames⟩ := by
              rw [SealedResponse.opened, answer]
            refine ⟨.deliver (place (SealedResponse.opened prims) t.responses index) keep client
              worker bodyLength sent rttMs now, trivial, ?_⟩
            have seen : (t.opened prims).responses[
                place (SealedResponse.opened prims) t.responses index]? =
              some ⟨sealed.request, frames⟩ := view_get found looked
            rw [answer] at taken
            simp only [Tunnel.step, seen, known, taken, Option.map_some]
            have kept := left_seen keep found looked
            exact congrArg some (opened_eq rfl rfl rfl kept rfl rfl).symm
      · cases stepped
  | forge post =>
      simp only [step] at stepped
      split at stepped
      · cases stepped
      · next error decoded =>
          cases stepped
          have looked : post.opened prims = none := by
            rw [SealedPost.opened, decoded]
          refine .inl (opened_eq rfl rfl ?_ rfl rfl rfl)
          rw [List.filterMap_append, List.filterMap_cons_none looked, List.filterMap_nil,
            List.append_nil]
          rfl
  | relay client worker response sent rttMs now =>
      simp only [step] at stepped
      split at stepped
      · next c bare present =>
          obtain ⟨after, taken, rfl⟩ := Option.map_eq_some_iff.mp stepped
          refine .inr ⟨.relay client worker (response.answer prims) sent rttMs now, trivial, ?_⟩
          have known : (t.opened prims).clients[client]? = some c := present
          simp only [Tunnel.step, bare, known, taken, Option.map_some]
          rfl
      · cases stepped

section Runs

variable {clients : List (Bytes × Nat)} {history : List SealedAction} {t : SealedTunnel}

theorem run_opened (lawful : prims.Lawful) (ids : ∀ entry ∈ clients, entry.1.length = ClientIDLen)
    (run : (sealedMachine prims).Run OpensNamed (start clients) history t) :
    (t.opened prims).Named ∧
      ∃ steps, tunnelMachine.Run Tunnel.OpensNamed (Tunnel.start clients) steps (t.opened prims) :=
  @StepMachine.Run.seen _ _ _ _ (sealedMachine prims) tunnelMachine OpensNamed
    Tunnel.OpensNamed (opened prims) Tunnel.Named _ _ _ run (Tunnel.start_named ids)
    (fun _ _ _ named opens stepped => Tunnel.step_named named opens stepped)
    fun _ _ _ named opens stepped => step_opened lawful named opens stepped

end Runs

instance (t : SealedTunnel) : DecidablePred t.OpensNamed
  | .client _ action _ => inferInstanceAs (Decidable (Client.OpensNamed action))
  | .arrive _ _ _ _ _ _ | .resume _ _ _ _ | .upstream _ _ _ | .deliver _ _ _ _ _ _ _ | .forge _
  | .relay _ _ _ _ _ _ => isTrue trivial

end SealedTunnel

/-- The first encoder call of a process. -/
def freshCodec : Codec := ⟨zeroNonce, ⟨⟨0, false⟩, []⟩⟩

/-- A body that the network made up arrives before the SYN, and what the upstream
connection sends goes down to the SOCKS connection. -/
def attackedRun : List SealedAction :=
  [.client 0 (.openConn streamSid [104, 58, 56] 0) freshCodec, .client 0 (.work 0 0) freshCodec,
    .forge ⟨7, [65, 65, 65, 65]⟩, .arrive 1 false 0 0 0 freshCodec,
    .arrive 0 false 0 0 0 freshCodec, .upstream 0 .begin freshCodec, .upstream 0 .dialed freshCodec,
    .upstream 0 (.read [80] 0) freshCodec, .resume 0 (1 / 2) (1 / 2) freshCodec,
    .deliver 1 true 0 0 120 9 1, .client 0 (.conn 0 .wake) freshCodec,
    .client 0 (.conn 0 .pop) freshCodec]

theorem attacked_run_writes : ∃ t : SealedTunnel,
    (sealedMachine tagPrimitives).Run SealedTunnel.OpensNamed
        (SealedTunnel.start [(streamClientId, 1)]) attackedRun t ∧
      (t.clients.all fun client => client.conns.all fun conn => conn.written == [[80]]) = true := by
  apply StepMachine.run_of_exec_any
  decide +kernel

section Results

variable {prims : Primitives} {clients : List (Bytes × Nat)} {history : List SealedAction}
  {t : SealedTunnel}

/-- In every run, whatever the network does with the bodies and adds to them, the
clients, the server and what opens of all that is in flight are those of a run of
the tunnel of frames. -/
theorem sealed_tunnel_refines (lawful : prims.Lawful)
    (ids : ∀ entry ∈ clients, entry.1.length = ClientIDLen)
    (run : (sealedMachine prims).Run SealedTunnel.OpensNamed (.start clients) history t) :
    ∃ steps, tunnelMachine.Run Tunnel.OpensNamed (Tunnel.start clients) steps (t.opened prims) :=
  (SealedTunnel.run_opened lawful ids run).2

theorem attacked_run_refines : ∃ t : SealedTunnel,
    (sealedMachine tagPrimitives).Run SealedTunnel.OpensNamed
        (.start [(streamClientId, 1)]) attackedRun t ∧
      ∃ steps, tunnelMachine.Run Tunnel.OpensNamed (Tunnel.start [(streamClientId, 1)]) steps
        (t.opened tagPrimitives) := by
  obtain ⟨t, run, _⟩ := attacked_run_writes
  exact ⟨t, run, sealed_tunnel_refines tag_primitives_lawful (by decide) run⟩

/-- A network that can open nothing puts no data into any stream: what is written
upstream was accepted from a SOCKS connection, and what is written to a SOCKS
connection was read upstream, both under the same session id. -/
theorem network_adds_no_data (lawful : prims.Lawful)
    (ids : ∀ entry ∈ clients, entry.1.length = ClientIDLen)
    (run : (sealedMachine prims).Run SealedTunnel.OpensNamed (.start clients) history t) :
    (∀ w ∈ t.server.workers, ∀ data ∈ w.written,
      ∃ client ∈ t.clients, ∃ conn ∈ client.conns,
        (client.pool.objects conn.session).sessionId =
          (t.server.pool.objects w.session).sessionId ∧ data ∈ conn.accepted) ∧
    ∀ client ∈ t.clients, ∀ conn ∈ client.conns, ∀ data ∈ conn.written,
      ∃ w ∈ t.server.workers, (t.server.pool.objects w.session).sessionId =
        (client.pool.objects conn.session).sessionId ∧ data ∈ w.received := by
  obtain ⟨steps, seen⟩ := (SealedTunnel.run_opened lawful ids run).2
  have wired := Tunnel.run_wired seen
  exact ⟨wired.server.written,
    fun client member conn present => ((wired.clients client member).conns conn present).written⟩

theorem attacked_run_adds_no_data : ∃ t : SealedTunnel,
    (∀ client ∈ t.clients, ∀ conn ∈ client.conns, [80] ∈ conn.written) ∧
      ∀ client ∈ t.clients, ∀ conn ∈ client.conns, ∀ data ∈ conn.written,
        ∃ w ∈ t.server.workers, (t.server.pool.objects w.session).sessionId =
          (client.pool.objects conn.session).sessionId ∧ data ∈ w.received := by
  obtain ⟨t, run, wrote⟩ := attacked_run_writes
  refine ⟨t, fun client member conn present => ?_,
    (network_adds_no_data tag_primitives_lawful (by decide) run).2⟩
  have written := List.all_eq_true.mp (List.all_eq_true.mp wrote client member) conn present
  rw [beq_iff_eq.mp written]
  exact List.mem_singleton_self _

end Results

end Refinement

end Astrix
