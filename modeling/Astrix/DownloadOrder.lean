import Astrix.DownloadClient
import Astrix.UploadOrder

/-!
# The order of the bytes that come down

One session, opened by its client, under any steps of the tunnel that deliver
each batch and each response once. Every open poll drains every session, so
consecutive chunks leave in different responses; these are the carriers of a
relay between the server and the session's receive queue. The client dispatches
a response when it comes, so the stream is kept while no response with chunks of
the session overtakes another.
-/

namespace Astrix

open PyRuntime SessionPool

set_option autoImplicit false

/-- The chunks of the session that left the server: dispatched or in flight. -/
def downloadRelay (sid : Bytes) (responses : List Response) (dispatched : List Frame) :
    FifoRelay Frame where
  delivered := dispatched
  carriers := responses.map fun response => chunkFrames sid response.frames
  buffer := []

/-- A reply with chunks of the session becomes a response that can be decoded. -/
def Reply.Readable (sid : Bytes) (reply : Reply) : Prop :=
  chunkFrames sid reply.frames = [] ∨ Client.Encodes reply.clientId reply.frames

instance (sid : Bytes) (reply : Reply) : Decidable (reply.Readable sid) :=
  inferInstanceAs (Decidable (_ ∨ _))

def RepliesReadable (sid : Bytes) (server : ExitServer) (action : ServerAction) : Prop :=
  ∀ result ∈ server.react action, ∀ reply ∈ result.2, reply.Readable sid

instance (sid : Bytes) (server : ExitServer) (action : ServerAction) :
    Decidable (RepliesReadable sid server action) :=
  inferInstanceAs (Decidable (∀ result ∈ server.react action, ∀ reply ∈ result.2,
    reply.Readable sid))

instance (sid : Bytes) (pool : SessionPool) (frames : List Frame) :
    Decidable (OpensOnce sid pool frames) :=
  inferInstanceAs (Decidable (_ ≤ _))

/-- The steps the stream is claimed for: the session is opened once, each batch
and each response arrives once, the session's chunks come to its client, and
every answer has status 200. -/
def DownloadSteps (c : Nat) (sid : Bytes) (t : Tunnel) : TunnelAction → Prop
  | .client _ action => action.opens ≠ some sid
  | .arrive index keep now atCheck afterScan => keep = false ∧ ∀ post ∈ t.posts[index]?,
      OpensOnce sid t.server.pool post.frames ∧ RepliesReadable sid t.server
        (.post post.request post.clientId post.frames now atCheck afterScan)
  | .resume index atCheck afterScan =>
      RepliesReadable sid t.server (.resume index atCheck afterScan)
  | .upstream _ _ => True
  | .deliver index keep client _ _ _ _ _ => keep = false ∧ (client = c ∨
      ∀ response ∈ t.responses[index]?, chunkFrames sid response.frames = [])
  | .relay _ _ answer _ _ _ => answer.isFailure = false

/-- A response with chunks of the session arrives before no earlier one. -/
def ResponsesInTurn (sid : Bytes) (t : Tunnel) : TunnelAction → Prop
  | .deliver index _ _ _ _ _ _ _ =>
      (∀ response ∈ t.responses[index]?, chunkFrames sid response.frames = []) ∨
        ∀ earlier ∈ t.responses.take index, chunkFrames sid earlier.frames = []
  | _ => True

instance (c : Nat) (sid : Bytes) (t : Tunnel) (action : TunnelAction) :
    Decidable (DownloadSteps c sid t action) :=
  match action with
  | .client _ action => inferInstanceAs (Decidable (action.opens ≠ some sid))
  | .arrive _ _ _ _ _ => inferInstanceAs (Decidable (_ ∧ _))
  | .resume index atCheck afterScan =>
      inferInstanceAs (Decidable (RepliesReadable sid t.server (.resume index atCheck afterScan)))
  | .upstream _ _ => isTrue trivial
  | .deliver _ _ _ _ _ _ _ _ => inferInstanceAs (Decidable (_ ∧ _))
  | .relay _ _ answer _ _ _ => inferInstanceAs (Decidable (answer.isFailure = false))

instance (sid : Bytes) (t : Tunnel) (action : TunnelAction) :
    Decidable (ResponsesInTurn sid t action) :=
  match action with
  | .client _ _ => isTrue trivial
  | .arrive _ _ _ _ _ => isTrue trivial
  | .resume _ _ _ => isTrue trivial
  | .upstream _ _ => isTrue trivial
  | .deliver _ _ _ _ _ _ _ _ => inferInstanceAs (Decidable (_ ∨ _))
  | .relay _ _ _ _ _ _ => isTrue trivial

/-- Client `c` has the session; the chunks queued for it on the server left in
the order of reading, and those that left are dispatched or in flight. -/
def InDownload (c : Nat) (sid : Bytes) (t : Tunnel) : Prop :=
  ∃ client dispatched, t.clients[c]? = some client ∧ Downloading sid client dispatched ∧
    Downstreamed sid t.server.pool t.server.workers
      (downloadRelay sid t.responses dispatched).emitted ∧
    QuietPolls t.server

section Relay

variable {sid : Bytes} {responses : List Response}

/-- A reply becomes the last carrier. -/
theorem relay_replied (dispatched : List Frame) {reply : Option Reply}
    (readable : ∀ answer ∈ reply, answer.Readable sid) :
    (downloadRelay sid (responses ++ (reply.bind Reply.response).toList) dispatched).emitted =
      (downloadRelay sid responses dispatched).emitted ++ repliedChunks sid reply := by
  cases reply with
  | none => simp [repliedChunks, chunkFrames, sessionFrames, dataFrames]
  | some answer =>
      have chunks : repliedChunks sid (some answer) = chunkFrames sid answer.frames := by
        simp [repliedChunks]
      rw [chunks]
      unfold Option.bind Reply.response
      dsimp only
      split_ifs with sent
      · exact FifoRelay.emitted_send _ responses dispatched _ (List.append_nil _).symm
      · have nothing : chunkFrames sid answer.frames = [] := by
          rcases readable answer rfl with none | encodes
          · exact none
          · have empty : answer.frames = [] := by
              by_contra some
              exact sent ⟨some, encodes⟩
            rw [empty]
            rfl
        rw [nothing, List.append_nil, Option.toList_none, List.append_nil]

/-- A response that arrives in turn is the carrier that is unloaded. -/
theorem relay_dispatched (dispatched : List Frame) {index : Nat} {response : Response}
    (found : responses[index]? = some response)
    (inTurn : chunkFrames sid response.frames = [] ∨
      ∀ earlier ∈ responses.take index, chunkFrames sid earlier.frames = []) :
    (downloadRelay sid (responses.eraseIdx index)
        (dispatched ++ chunkFrames sid response.frames)).emitted =
      (downloadRelay sid responses dispatched).emitted :=
  FifoRelay.emitted_hand_over (fun response : Response => chunkFrames sid response.frames)
    responses dispatched _ found inTurn

end Relay

section Steps

variable {c : Nat} {sid : Bytes} {t : Tunnel}

/-- A step of a client. -/
theorem download_client {index : Nat} {action : ClientAction} {before after : Client}
    {sent : Option Post} (wired : t.Wired) (held : InDownload c sid t)
    (allowed : action.opens ≠ some sid) (found : t.clients[index]? = some before)
    (reacted : Client.Reacted before t.posted after action sent) :
    InDownload c sid { t with
      clients := t.clients.set index after
      posts := t.posts ++ sent.toList
      posted := t.posted + sent.toList.length } := by
  obtain ⟨client, dispatched, present, downloading, downstreamed, quiet⟩ := held
  by_cases here : index = c
  · subst here
    rw [found] at present
    cases present
    have queues := (wired.clients before (List.mem_of_getElem? found)).pool
    exact ⟨after, dispatched, List.getElem?_set_self (List.getElem?_eq_some_iff.mp found).1,
      downloading.react queues reacted allowed, downstreamed, quiet⟩
  · exact ⟨client, dispatched, (List.getElem?_set_ne here).trans present, downloading,
      downstreamed, quiet⟩

/-- A step of the server. -/
theorem download_server {later : Tunnel} {action : ServerAction} {reply : Option Reply}
    (wired : t.Wired) (held : InDownload c sid t)
    (reacted : t.server.react action = some (later.server, reply))
    (carried : ∀ f ∈ action.carried, Uplink t.Accepted f.sessionId f)
    (opens : OpensOnce sid t.server.pool action.carried)
    (readable : RepliesReadable sid t.server action) (clients : later.clients = t.clients)
    (responses : later.responses = t.responses ++ (reply.bind Reply.response).toList) :
    InDownload c sid later := by
  obtain ⟨client, dispatched, present, downloading, downstreamed, quiet⟩ := held
  have served := downstreamed.react quiet wired.server reacted carried opens
  rw [← relay_replied dispatched (readable _ (Option.mem_def.mpr reacted)), ← responses] at served
  exact ⟨client, dispatched, clients ▸ present, downloading, served, quiet.react reacted⟩

/-- The upstream workers reply to nobody. -/
theorem worker_readable (sid : Bytes) (server : ExitServer) (index : Nat) (act : WorkerAct) :
    RepliesReadable sid server (.worker index act) := by
  rintro ⟨after, reply⟩ reacted answer replied
  rcases ExitServer.react_cases (Option.mem_def.mp reacted) with
    ⟨_, _, _, _, _, _, isPost, _⟩ | ⟨_, _, _, _, _, isResume, _⟩ | ⟨_, _, _, _, _, _, _, _, _, none⟩
  · cases isPost
  · cases isResume
  · cases none
    cases replied

theorem opens_nothing (sid : Bytes) (pool : SessionPool) : OpensOnce sid pool [] := Nat.zero_le _

theorem download_step {later : Tunnel} {action : TunnelAction} (wired : t.Wired)
    (held : InDownload c sid t) (allowed : DownloadSteps c sid t action)
    (inTurn : ResponsesInTurn sid t action) (stepped : t.step action = some later) :
    InDownload c sid later := by
  cases Tunnel.step_stepped stepped with
  | client index action before after sent found reacted =>
      exact download_client wired held allowed found (Client.react_reacted reacted)
  | arrive index keep now atCheck afterScan post server reply found reacted =>
      obtain ⟨opens, readable⟩ := allowed.2 post (Option.mem_def.mpr found)
      exact download_server wired held reacted (wired.posts post (List.mem_of_getElem? found))
        opens readable rfl rfl
  | resume index atCheck afterScan server reply reacted =>
      exact download_server wired held reacted nofun (opens_nothing _ _) allowed rfl rfl
  | upstream index act server reply reacted =>
      exact download_server wired held reacted nofun (opens_nothing _ _)
        (worker_readable sid t.server index act) rfl rfl
  | deliver index keep client worker bodyLength sent rttMs now response before after found present
      taken =>
      obtain ⟨own, dispatched, slot, downloading, downstreamed, quiet⟩ := held
      obtain ⟨once, home⟩ := allowed
      subst once
      have turn : chunkFrames sid response.frames = [] ∨
          ∀ earlier ∈ t.responses.take index, chunkFrames sid earlier.frames = [] :=
        inTurn.imp_left fun empty => empty response (Option.mem_def.mpr found)
      have same := relay_dispatched dispatched found turn
      rw [← same] at downstreamed
      by_cases here : client = c
      · subst here
        rw [present] at slot
        cases slot
        exact ⟨after, _, List.getElem?_set_self (List.getElem?_eq_some_iff.mp present).1,
          downloading.answered rfl taken, downstreamed, quiet⟩
      · have none : chunkFrames sid response.frames = [] :=
          (home.resolve_left here) response (Option.mem_def.mpr found)
        rw [none, List.append_nil] at downstreamed
        exact ⟨own, dispatched, (List.getElem?_set_ne here).trans slot, downloading, downstreamed,
          quiet⟩
  | relay client worker answer sent rttMs now before after bare present taken =>
      obtain ⟨own, dispatched, slot, downloading, downstreamed, quiet⟩ := held
      by_cases here : client = c
      · subst here
        rw [present] at slot
        cases slot
        have nothing : answer.brought = [] := by
          cases answer with
          | frames frames bodyLength => cases bare
          | emptyBody | unreadable | failed => rfl
        have answered := downloading.answered allowed taken
        rw [nothing] at answered
        refine ⟨after, dispatched, List.getElem?_set_self (List.getElem?_eq_some_iff.mp present).1,
          ?_, downstreamed, quiet⟩
        exact (List.append_nil dispatched) ▸ answered
      · exact ⟨own, dispatched, (List.getElem?_set_ne here).trans slot, downloading, downstreamed,
          quiet⟩

end Steps

theorem open_in_download {clients : List (Bytes × Nat)} {c : Nat} {sid : Bytes} {target : Text}
    {now : ℚ} {first : Tunnel} (opened : openFirst clients c sid target now = some first) :
    InDownload c sid first := by
  obtain ⟨client, present, pool, conns, _, _, responses, server⟩ := open_first_cases opened
  obtain ⟨found, session, _, queue⟩ := open_new sid target now
  rw [← pool] at found queue
  refine ⟨client, [], present, ⟨found, ?_, ?_⟩, ?_, ?_⟩
  · refine ⟨_, by rw [conns]; rfl, session, List.nil_prefix, fun _ => ?_⟩
    rw [queue]
    rfl
  · intro k conn slot _
    rw [conns] at slot
    have bound := (List.getElem?_eq_some_iff.mp slot).1
    have one : k < 1 := bound
    omega
  · rw [server, responses]
    exact .inl ⟨fun r bound => absurd bound (Nat.not_lt_zero r), rfl⟩
  · rw [server]
    exact nofun

/-- The bytes read from the upstream connections of a session. -/
def ExitServer.readFor (server : ExitServer) (sid : Bytes) : Bytes :=
  (server.workers.filter fun w => (server.pool.objects w.session).sessionId = sid).flatMap
    fun w => w.received.flatten

/-- The bytes written to the session's SOCKS connection are a prefix of those
read from upstream. -/
def DownloadPrefix (c : Nat) (sid : Bytes) (t : Tunnel) : Prop :=
  ∀ client ∈ t.clients[c]?, ∀ conn ∈ client.conns[0]?,
    conn.written.flatten <+: t.server.readFor sid

instance (c : Nat) (sid : Bytes) (t : Tunnel) : Decidable (DownloadPrefix c sid t) :=
  inferInstanceAs (Decidable (∀ client ∈ t.clients[c]?, ∀ conn ∈ client.conns[0]?,
    conn.written.flatten <+: t.server.readFor sid))

theorem download_prefix {c : Nat} {sid : Bytes} {t : Tunnel} (wired : t.Wired)
    (held : InDownload c sid t) : DownloadPrefix c sid t := by
  obtain ⟨client, dispatched, present, downloading, downstreamed, _⟩ := held
  intro other isClient conn slot
  rw [present] at isClient
  cases isClient
  obtain ⟨first, place, _, part, _⟩ := downloading.conn
  rw [place] at slot
  cases slot
  obtain ⟨rest, whole⟩ := FifoRelay.delivered_prefix (downloadRelay sid t.responses dispatched)
  rcases downstreamed with ⟨_, none⟩ | ⟨r, fetching⟩
  · have nothing : dispatched = [] := (List.append_eq_nil_iff.mp (whole.trans none)).1
    rw [nothing] at part
    rw [List.prefix_nil.mp part]
    exact List.nil_prefix
  · have mine : t.server.readFor sid = readBytes r t.server.workers := by
      have same : (t.server.workers.filter fun w =>
          (t.server.pool.objects w.session).sessionId = sid) =
            t.server.workers.filter fun w => w.session = r := by
        apply List.filter_congr
        intro w member
        refine decide_eq_decide.mpr ⟨fun own => ?_, fun session => ?_⟩
        · exact fetching.placed.only w.session (wired.server.bound w member) own
        · rw [session]
          exact fetching.placed.id
      rw [ExitServer.readFor, same, readBytes]
    have front : payloads dispatched <+: readBytes r t.server.workers := by
      rw [← fetching.read, ← whole, List.append_assoc, payloads_append]
      exact List.prefix_append _ _
    rw [mine]
    exact part.trans front

/-- As long as no response with chunks of the session overtakes another, the
SOCKS client gets a prefix of what was read from upstream. -/
theorem download_in_order {clients : List (Bytes × Nat)} {c : Nat} {sid : Bytes} {target : Text}
    {now : ℚ} {first t : Tunnel} {history : List TunnelAction}
    (opened : openFirst clients c sid target now = some first)
    (run : tunnelMachine.Run
      (fun t action => DownloadSteps c sid t action ∧ ResponsesInTurn sid t action) first history
      t) : DownloadPrefix c sid t := by
  have start : first.Wired ∧ InDownload c sid first :=
    ⟨Tunnel.step_wired (Tunnel.start_wired clients) opened, open_in_download opened⟩
  have preserved : ∀ (state : Tunnel) (action : TunnelAction) (later : Tunnel),
      state.Wired ∧ InDownload c sid state →
        DownloadSteps c sid state action ∧ ResponsesInTurn sid state action →
          tunnelMachine.step state action = some later → later.Wired ∧ InDownload c sid later :=
    fun state action later held allowed stepped => ⟨Tunnel.step_wired held.1 stepped,
      download_step held.1 held.2 allowed.1 allowed.2 stepped⟩
  have final : t.Wired ∧ InDownload c sid t := run.invariant start preserved
  exact download_prefix final.1 final.2

/-- Two polls are open and answer with one chunk each; `deliveries` brings the
responses to the client. -/
def twoPollRun (deliveries : List TunnelAction) : List TunnelAction :=
  openedRun.tail ++
    [.client 0 (.write 0 [65]), .client 0 (.conn 0 (.drainChunk 0)), .client 0 (.work 3 0),
      .arrive 0 false 0 0 0, .upstream 0 (.read [1] 0), .resume 0 0 0,
      .upstream 0 (.read [2] 0), .resume 0 0 0] ++ deliveries ++
    [.client 0 (.conn 0 .wake), .client 0 (.conn 0 .pop), .client 0 (.conn 0 .pop)]

/-- The second response reaches the client before the first. -/
theorem overtaking_response_reorders_download :
    ∃ (first t : Tunnel) (history : List TunnelAction),
      openFirst [(streamClientId, 3)] 0 streamSid [104, 58, 56] 0 = some first ∧
        tunnelMachine.Run (DownloadSteps 0 streamSid) first history t ∧
        ¬ DownloadPrefix 0 streamSid t := by
  have executed : ((openFirst [(streamClientId, 3)] 0 streamSid [104, 58, 56] 0).bind fun first =>
      tunnelMachine.exec (DownloadSteps 0 streamSid) first
        (twoPollRun [.deliver 1 false 0 3 0 0 0 0, .deliver 0 false 0 0 0 0 0 0])).any
          (fun t => decide (¬ DownloadPrefix 0 streamSid t)) = true := by
    decide +kernel
  obtain ⟨t, reached, broken⟩ := (Option.any_eq_true _ _).mp executed
  obtain ⟨first, opened, ran⟩ := Option.bind_eq_some_iff.mp reached
  exact ⟨first, t, _, opened, StepMachine.run_of_exec _ ran, of_decide_eq_true broken⟩

theorem two_polls_in_order :
    ∃ t : Tunnel, t.clients.map (fun client => client.conns.map VirtualConn.written) =
        [[[[1], [2]]]] ∧ DownloadPrefix 0 streamSid t := by
  have executed : ((openFirst [(streamClientId, 3)] 0 streamSid [104, 58, 56] 0).bind fun first =>
      tunnelMachine.exec (fun t action => DownloadSteps 0 streamSid t action ∧
          ResponsesInTurn streamSid t action) first
        (twoPollRun [.deliver 0 false 0 0 0 0 0 0, .deliver 0 false 0 3 0 0 0 0])).any
          (fun t => decide (t.clients.map (fun client => client.conns.map VirtualConn.written) =
            [[[[1], [2]]]])) = true := by
    decide +kernel
  obtain ⟨t, reached, seen⟩ := (Option.any_eq_true _ _).mp executed
  obtain ⟨first, opened, ran⟩ := Option.bind_eq_some_iff.mp reached
  exact ⟨t, of_decide_eq_true seen, download_in_order opened (StepMachine.run_of_exec _ ran)⟩

end Astrix
