import Astrix.Library.FifoRelay
import Astrix.UploadServer

/-!
# The order of the bytes that go up

One session, opened by its client, under any steps of the tunnel that post and
deliver each batch once. The batches in flight are the carriers of a relay
between the session's transmit queue and the server. Nothing in the handler
looks at a sequence number, so the stream is kept while no batch with frames of
the session overtakes another.
-/

namespace Astrix

open PyRuntime SessionPool

set_option autoImplicit false

/-- The frames of the session on their way to the server. -/
def uploadRelay (sid : Bytes) (posts : List Post) (pool : SessionPool) (arrived : List Frame) :
    FifoRelay Frame where
  delivered := arrived
  carriers := posts.map fun post => sessionFrames sid post.frames
  buffer := (pool.objects 0).txQ

/-- The steps the stream is claimed for: the session is opened once, its client's
drains have room, each batch arrives once, and every answer has status 200. -/
def UploadSteps (c : Nat) (sid : Bytes) (t : Tunnel) : TunnelAction → Prop
  | .client index action => action.opens ≠ some sid ∧
      (index = c → ∀ client ∈ t.clients[index]?, ∀ call ∈ client.drainCall action,
        DrainFits sid client call)
  | .arrive _ keep _ _ _ => keep = false
  | .relay _ _ answer _ _ _ => answer.isFailure = false
  | _ => True

/-- A batch with frames of the session arrives before no earlier one. -/
def PostsInTurn (sid : Bytes) (t : Tunnel) : TunnelAction → Prop
  | .arrive index _ _ _ _ =>
      (∀ post ∈ t.posts[index]?, sessionFrames sid post.frames = []) ∨
        ∀ earlier ∈ t.posts.take index, sessionFrames sid earlier.frames = []
  | _ => True

instance (sid : Bytes) (client : Client) (call : Client.DrainCall) :
    Decidable (DrainFits sid client call) :=
  decidable_of_iff ((call.run client.pool).failed = none ∧
      ¬ LeftBehind client.pool call.batchSize call.workerId call.now sid ∧
      ((call.run client.pool).frames ≠ [] →
        Client.Encodes client.clientId (call.run client.pool).frames))
    ⟨fun all => ⟨all.1, all.2.1, all.2.2⟩, fun fits => ⟨fits.1, fits.2, fits.3⟩⟩

instance (c : Nat) (sid : Bytes) (t : Tunnel) (action : TunnelAction) :
    Decidable (UploadSteps c sid t action) :=
  match action with
  | .client _ _ => inferInstanceAs (Decidable (_ ∧ _))
  | .arrive _ keep _ _ _ => inferInstanceAs (Decidable (keep = false))
  | .resume _ _ _ => isTrue trivial
  | .upstream _ _ => isTrue trivial
  | .deliver _ _ _ _ _ _ _ _ => isTrue trivial
  | .relay _ _ answer _ _ _ => inferInstanceAs (Decidable (answer.isFailure = false))

instance (sid : Bytes) (t : Tunnel) (action : TunnelAction) :
    Decidable (PostsInTurn sid t action) :=
  match action with
  | .client _ _ => isTrue trivial
  | .arrive _ _ _ _ _ => inferInstanceAs (Decidable (_ ∨ _))
  | .resume _ _ _ => isTrue trivial
  | .upstream _ _ => isTrue trivial
  | .deliver _ _ _ _ _ _ _ _ => isTrue trivial
  | .relay _ _ _ _ _ _ => isTrue trivial

/-- Client `c` has the session and nobody else does; the frames its connection
emitted are those that arrived, those in flight and those queued, in order. -/
def InUpload (c : Nat) (sid : Bytes) (t : Tunnel) : Prop :=
  ∃ client arrived, t.clients[c]? = some client ∧
    Uploading sid client (uploadRelay sid t.posts client.pool arrived).emitted ∧
    (∀ i other, i ≠ c → t.clients[i]? = some other → other.pool.get sid = none) ∧
    Upstreamed sid t.server.pool t.server.workers arrived

section Steps

variable {c : Nat} {sid : Bytes} {t : Tunnel}

theorem wired_own {client : Client} (wired : t.Wired) (member : client ∈ t.clients) :
    OwnQueues client.pool :=
  (wired.clients client member).pool.weaken (fun _ _ up => up.1) fun _ _ _ => trivial

/-- What a client posts becomes the last carrier. -/
theorem relay_posted (sid : Bytes) (posts : List Post) (before after : SessionPool)
    (arrived more : List Frame) (sent : Option Post)
    (moved : (before.objects 0).txQ ++ more = postedOf sid sent ++ (after.objects 0).txQ) :
    (uploadRelay sid (posts ++ sent.toList) after arrived).emitted =
      (uploadRelay sid posts before arrived).emitted ++ more := by
  cases sent with
  | none =>
      have pushed : uploadRelay sid (posts ++ (none : Option Post).toList) after arrived =
          (uploadRelay sid posts before arrived).push more := by
        have queue : (after.objects 0).txQ = (before.objects 0).txQ ++ more := moved.symm
        simp only [uploadRelay, FifoRelay.push, Option.toList_none, List.append_nil, queue]
      rw [pushed, FifoRelay.emitted_push]
  | some post =>
      have front : postedOf sid (some post) = sessionFrames sid post.frames := by
        simp [postedOf]
      rw [front] at moved
      exact FifoRelay.emitted_send _ posts arrived post moved

/-- A batch that arrives in turn is the carrier that is unloaded. -/
theorem relay_arrived (sid : Bytes) {posts : List Post} (pool : SessionPool)
    (arrived : List Frame) {index : Nat} {post : Post} (found : posts[index]? = some post)
    (inTurn : sessionFrames sid post.frames = [] ∨
      ∀ earlier ∈ posts.take index, sessionFrames sid earlier.frames = []) :
    (uploadRelay sid (posts.eraseIdx index) pool
        (arrived ++ sessionFrames sid post.frames)).emitted =
      (uploadRelay sid posts pool arrived).emitted :=
  FifoRelay.emitted_hand_over (fun post : Post => sessionFrames sid post.frames) posts arrived _
    found inTurn

/-- The clients other than the one that moved are as they were. -/
theorem others_of_set {clients : List Client} {index : Nat} {before after : Client}
    (others : ∀ i other, i ≠ c → clients[i]? = some other → other.pool.get sid = none)
    (found : clients[index]? = some before)
    (moved : index ≠ c → before.pool.get sid = none → after.pool.get sid = none) :
    ∀ i other, i ≠ c → (clients.set index after)[i]? = some other →
      other.pool.get sid = none := by
  intro i other different present
  by_cases here : index = i
  · subst here
    rw [List.getElem?_set_self (List.getElem?_eq_some_iff.mp found).1] at present
    cases present
    exact moved different (others index before different found)
  · rw [List.getElem?_set_ne here] at present
    exact others i other different present

theorem upload_client {index : Nat} {action : ClientAction} {before after : Client}
    {sent : Option Post} (wired : t.Wired) (held : InUpload c sid t)
    (allowed : UploadSteps c sid t (.client index action))
    (found : t.clients[index]? = some before)
    (reacted : Client.Reacted before t.posted after action sent) :
    InUpload c sid { t with
      clients := t.clients.set index after
      posts := t.posts ++ sent.toList
      posted := t.posted + sent.toList.length } := by
  obtain ⟨client, arrived, present, uploading, others, upstreamed⟩ := held
  have own := wired_own wired (List.mem_of_getElem? found)
  have othersLater := others_of_set others found fun _ missing =>
    (foreign_react missing own reacted allowed.1).1
  by_cases here : index = c
  · subst here
    rw [found] at present
    cases present
    obtain ⟨more, later, moved⟩ := uploading.react own reacted allowed.1
      (allowed.2 rfl before (Option.mem_def.mpr found))
    rw [← relay_posted sid t.posts before.pool after.pool arrived more sent moved] at later
    exact ⟨after, arrived, List.getElem?_set_self (List.getElem?_eq_some_iff.mp found).1, later,
      othersLater, upstreamed⟩
  · have none := (foreign_react (others index before here found) own reacted allowed.1).2
    have same := relay_posted sid t.posts client.pool client.pool arrived [] sent
      (by rw [none, List.append_nil, List.nil_append])
    refine ⟨client, arrived, (List.getElem?_set_ne here).trans present, ?_, othersLater,
      upstreamed⟩
    rw [same, List.append_nil]
    exact uploading

theorem upload_answered {index worker sent : Nat} {answer : Answer} {rttMs now : ℚ}
    {before after : Client} (held : InUpload c sid t) (succeeded : answer.isFailure = false)
    (found : t.clients[index]? = some before)
    (taken : before.answered worker answer sent rttMs now = some after)
    {later : Tunnel} (clients : later.clients = t.clients.set index after)
    (posts : later.posts = t.posts) (server : later.server = t.server) :
    InUpload c sid later := by
  obtain ⟨client, arrived, present, uploading, others, upstreamed⟩ := held
  have othersLater := others_of_set others found fun _ missing =>
    foreign_answered missing taken
  unfold InUpload
  rw [clients, posts, server]
  by_cases here : index = c
  · subst here
    rw [found] at present
    cases present
    obtain ⟨after', queue⟩ := uploading.answered succeeded taken
    refine ⟨after, arrived, List.getElem?_set_self (List.getElem?_eq_some_iff.mp found).1, ?_,
      othersLater, upstreamed⟩
    have same : uploadRelay sid t.posts after.pool arrived =
        uploadRelay sid t.posts before.pool arrived := by
      simp only [uploadRelay, queue]
    rw [same]
    exact after'
  · exact ⟨client, arrived, (List.getElem?_set_ne here).trans present, uploading, othersLater,
      upstreamed⟩

theorem upload_step {later : Tunnel} {action : TunnelAction} (wired : t.Wired)
    (held : InUpload c sid t) (allowed : UploadSteps c sid t action)
    (inTurn : PostsInTurn sid t action) (stepped : t.step action = some later) :
    InUpload c sid later := by
  cases Tunnel.step_stepped stepped with
  | client index action before after sent found reacted =>
      exact upload_client wired held allowed found (Client.react_reacted reacted)
  | arrive index keep now atCheck afterScan post server reply found reacted =>
      obtain ⟨client, arrived, present, uploading, others, upstreamed⟩ := held
      have once : keep = false := allowed
      subst once
      have turn : sessionFrames sid post.frames = [] ∨
          ∀ earlier ∈ t.posts.take index, sessionFrames sid earlier.frames = [] :=
        inTurn.imp_left fun empty => empty post (Option.mem_def.mpr found)
      have same := relay_arrived sid client.pool arrived found turn
      have carried := wired.posts post (List.mem_of_getElem? found)
      have front : arrived ++ sessionFrames sid post.frames <+:
          (uploadRelay sid t.posts client.pool arrived).emitted := by
        rw [← same]
        exact FifoRelay.delivered_prefix (uploadRelay sid (t.posts.eraseIdx index) client.pool
          (arrived ++ sessionFrames sid post.frames))
      have upstream := upstreamed.react wired.server reacted carried
        (continues_of_front uploading.syn front)
      refine ⟨client, arrived ++ sessionFrames sid post.frames, present, ?_, others, upstream⟩
      rw [← same] at uploading
      exact uploading
  | resume index atCheck afterScan server reply reacted =>
      obtain ⟨client, arrived, present, uploading, others, upstreamed⟩ := held
      exact ⟨client, arrived, present, uploading, others,
        upstreamed.react_alone wired.server reacted rfl⟩
  | upstream index act server reply reacted =>
      obtain ⟨client, arrived, present, uploading, others, upstreamed⟩ := held
      exact ⟨client, arrived, present, uploading, others,
        upstreamed.react_alone wired.server reacted rfl⟩
  | deliver index keep client worker bodyLength sent rttMs now response before after found present
      taken =>
      exact upload_answered held rfl present taken rfl rfl rfl
  | relay client worker answer sent rttMs now before after bare present taken =>
      exact upload_answered held allowed present taken rfl rfl rfl

end Steps

/-- A client that opens the session before anything else. -/
def openFirst (clients : List (Bytes × Nat)) (c : Nat) (sid : Bytes) (target : Text) (now : ℚ) :
    Option Tunnel :=
  (Tunnel.start clients).step (.client c (.openConn sid target now))

/-- What opening a session makes of an empty pool. -/
theorem open_new (sid : Bytes) (target : Text) (now : ℚ) :
    (VirtualConn.openSession SessionPool.new sid target now).1.get sid = some 0 ∧
      (VirtualConn.openSession SessionPool.new sid target now).2.session = 0 ∧
      ((VirtualConn.openSession SessionPool.new sid target now).1.objects 0).txQ =
        [synFrame sid target] ∧
      ((VirtualConn.openSession SessionPool.new sid target now).1.objects 0).rxQ = [] := by
  have missing : SessionPool.new.get sid = none := rfl
  have made := VirtualConn.open_session_made target now missing
  have object : (VirtualConn.openSession SessionPool.new sid target now).1.objects 0 =
      ((Session.create sid FlagSYN target now).enqueueTx (synFrame sid target) now).1 := made.object
  refine ⟨made.get, made.session, ?_, ?_⟩
  · rw [object]
    rfl
  · rw [object]
    rfl

/-- The tunnel right after the opening. -/
theorem open_first_cases {clients : List (Bytes × Nat)} {c : Nat} {sid : Bytes} {target : Text}
    {now : ℚ} {first : Tunnel} (opened : openFirst clients c sid target now = some first) :
    ∃ client, first.clients[c]? = some client ∧
      client.pool = (VirtualConn.openSession SessionPool.new sid target now).1 ∧
      client.conns = [(VirtualConn.openSession SessionPool.new sid target now).2] ∧
      (∀ i other, i ≠ c → first.clients[i]? = some other → other.pool.get sid = none) ∧
      first.posts = [] ∧ first.responses = [] ∧ first.server = ExitServer.new := by
  have fresh : ∀ {i : Nat} {other : Client}, (Tunnel.start clients).clients[i]? = some other →
      other.pool = SessionPool.new ∧ other.conns = [] := by
    intro i other present
    obtain ⟨entry, _, rfl⟩ := List.mem_map.mp (List.mem_of_getElem? present)
    exact ⟨rfl, rfl⟩
  generalize action : TunnelAction.client c (.openConn sid target now) = step at opened
  unfold openFirst at opened
  rw [action] at opened
  cases Tunnel.step_stepped opened with
  | client index act before after sent found reacted =>
      cases action
      obtain ⟨pool, conns⟩ := fresh found
      cases reacted
      refine ⟨_, List.getElem?_set_self (List.getElem?_eq_some_iff.mp found).1, ?_, ?_, ?_, rfl,
        rfl, rfl⟩
      · rw [pool]
        rfl
      · rw [pool, conns]
        rfl
      · intro i other different present
        dsimp only at present
        rw [List.getElem?_set_ne (Ne.symm different)] at present
        rw [(fresh present).1]
        rfl
  | arrive | resume | upstream | deliver | relay => cases action

theorem open_in_upload {clients : List (Bytes × Nat)} {c : Nat} {sid : Bytes} {target : Text}
    {now : ℚ} {first : Tunnel} (opened : openFirst clients c sid target now = some first) :
    InUpload c sid first := by
  obtain ⟨client, present, pool, conns, others, posts, _, server⟩ := open_first_cases opened
  obtain ⟨found, session, queue, _⟩ := open_new sid target now
  rw [← pool] at found queue
  have relay : (uploadRelay sid first.posts client.pool []).emitted = [synFrame sid target] := by
    simp [uploadRelay, FifoRelay.emitted, posts, queue]
  refine ⟨client, [], present, ⟨found, ?_, ?_, ?_⟩, others, ?_⟩
  · refine ⟨_, ?_, session, ?_⟩
    · rw [conns]
      rfl
    · rw [relay]
      rfl
  · intro k conn slot _
    rw [conns] at slot
    have bound := (List.getElem?_eq_some_iff.mp slot).1
    have one : k < 1 := bound
    omega
  · rw [relay]
    exact ⟨_, [], rfl, rfl, List.forall_mem_nil _⟩
  · rw [server]
    exact .inl ⟨fun r bound => absurd bound (Nat.not_lt_zero r), rfl⟩

/-- The bytes written to the session's upstream connections are a prefix of
those its SOCKS connection was given. -/
def UploadPrefix (c : Nat) (sid : Bytes) (t : Tunnel) : Prop :=
  ∀ client ∈ t.clients[c]?, ∀ conn ∈ client.conns[0]?, ∀ w ∈ t.server.workers,
    (t.server.pool.objects w.session).sessionId = sid →
      w.written.flatten <+: conn.accepted.flatten

instance (c : Nat) (sid : Bytes) (t : Tunnel) : Decidable (UploadPrefix c sid t) :=
  inferInstanceAs (Decidable (∀ client ∈ t.clients[c]?, ∀ conn ∈ client.conns[0]?,
    ∀ w ∈ t.server.workers, (t.server.pool.objects w.session).sessionId = sid →
      w.written.flatten <+: conn.accepted.flatten))

theorem upload_prefix {c : Nat} {sid : Bytes} {t : Tunnel} (wired : t.Wired)
    (held : InUpload c sid t) : UploadPrefix c sid t := by
  obtain ⟨client, arrived, present, uploading, others, upstreamed⟩ := held
  intro other isClient conn slot w member own
  rw [present] at isClient
  cases isClient
  obtain ⟨first, place, _, sums⟩ := uploading.conn
  rw [place] at slot
  cases slot
  have bound := wired.server.bound w member
  rcases upstreamed with ⟨unseen, _⟩ | ⟨r, serving⟩
  · exact absurd own (unseen w.session bound)
  · have session := serving.placed.only w.session bound own
    have arrivedPart : w.written.flatten <+: payloads arrived :=
      (List.prefix_append _ _).trans (serving.part w member session)
    have emittedPart : payloads arrived <+:
        payloads (uploadRelay sid t.posts client.pool arrived).emitted := by
      obtain ⟨rest, whole⟩ :=
        FifoRelay.delivered_prefix (uploadRelay sid t.posts client.pool arrived)
      rw [← whole, payloads_append]
      exact List.prefix_append _ _
    have acceptedPart : payloads (uploadRelay sid t.posts client.pool arrived).emitted <+:
        conn.accepted.flatten := by
      rw [← sums]
      exact List.prefix_append _ _
    exact arrivedPart.trans (emittedPart.trans acceptedPart)

/-- As long as no batch with frames of the session overtakes another, the
upstream connection gets a prefix of what the SOCKS client sent. -/
theorem upload_in_order {clients : List (Bytes × Nat)} {c : Nat} {sid : Bytes} {target : Text}
    {now : ℚ} {first t : Tunnel} {history : List TunnelAction}
    (opened : openFirst clients c sid target now = some first)
    (run : tunnelMachine.Run
      (fun t action => UploadSteps c sid t action ∧ PostsInTurn sid t action) first history t) :
    UploadPrefix c sid t := by
  have start : first.Wired ∧ InUpload c sid first :=
    ⟨Tunnel.step_wired (Tunnel.start_wired clients) opened, open_in_upload opened⟩
  have preserved : ∀ (state : Tunnel) (action : TunnelAction) (later : Tunnel),
      state.Wired ∧ InUpload c sid state →
        UploadSteps c sid state action ∧ PostsInTurn sid state action →
          tunnelMachine.step state action = some later → later.Wired ∧ InUpload c sid later :=
    fun state action later held allowed stepped => ⟨Tunnel.step_wired held.1 stepped,
      upload_step held.1 held.2 allowed.1 allowed.2 stepped⟩
  have final : t.Wired ∧ InUpload c sid t := run.invariant start preserved
  exact upload_prefix final.1 final.2

/-- Two endpoints' workers drain one chunk each; `arrivals` brings the batches in. -/
def twoChunkRun (arrivals : List TunnelAction) : List TunnelAction :=
  openedRun.tail ++
    [.client 0 (.write 0 [65]), .client 0 (.conn 0 (.drainChunk 0)), .client 0 (.work 3 0),
      .client 0 (.write 0 [66]), .client 0 (.conn 0 (.drainChunk 0)), .client 0 (.work 6 0)] ++
    arrivals ++ [.upstream 0 .wake, .upstream 0 .pop, .upstream 0 .pop]

/-- The second batch arrives before the first. -/
theorem overtaking_batch_reorders_upload :
    ∃ (first t : Tunnel) (history : List TunnelAction),
      openFirst [(streamClientId, 3)] 0 streamSid [104, 58, 56] 0 = some first ∧
        tunnelMachine.Run (UploadSteps 0 streamSid) first history t ∧
        ¬ UploadPrefix 0 streamSid t := by
  have executed : ((openFirst [(streamClientId, 3)] 0 streamSid [104, 58, 56] 0).bind fun first =>
      tunnelMachine.exec (UploadSteps 0 streamSid) first
        (twoChunkRun [.arrive 1 false 0 0 0, .arrive 0 false 0 0 0])).any
          (fun t => decide (¬ UploadPrefix 0 streamSid t)) = true := by
    decide +kernel
  obtain ⟨t, reached, broken⟩ := (Option.any_eq_true _ _).mp executed
  obtain ⟨first, opened, ran⟩ := Option.bind_eq_some_iff.mp reached
  exact ⟨first, t, _, opened, StepMachine.run_of_exec _ ran, of_decide_eq_true broken⟩

theorem two_chunks_in_order :
    ∃ t : Tunnel, t.server.workers.map UpstreamWorker.written = [[[65], [66]]] ∧
      UploadPrefix 0 streamSid t := by
  have executed : ((openFirst [(streamClientId, 3)] 0 streamSid [104, 58, 56] 0).bind fun first =>
      tunnelMachine.exec (fun t action => UploadSteps 0 streamSid t action ∧
          PostsInTurn streamSid t action) first
        (twoChunkRun [.arrive 0 false 0 0 0, .arrive 0 false 0 0 0])).any
          (fun t => decide (t.server.workers.map UpstreamWorker.written = [[[65], [66]]])) =
            true := by
    decide +kernel
  obtain ⟨t, reached, seen⟩ := (Option.any_eq_true _ _).mp executed
  obtain ⟨first, opened, ran⟩ := Option.bind_eq_some_iff.mp reached
  exact ⟨t, of_decide_eq_true seen, upload_in_order opened (StepMachine.run_of_exec _ ran)⟩

end Astrix
