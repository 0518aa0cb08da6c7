import Mathlib.Data.List.Infix
import Astrix.ClientQueues
import Astrix.ServerQueues
import Astrix.Tunnel

/-!
# No cross-talk between sessions

Along every run of the tunnel, whatever happens to what is in flight: queues,
batches and responses hold frames under their session's id, and a chunk that is
written on one side was accepted or read on the other side for the same id.
-/

namespace Astrix

open PyRuntime SessionPool

set_option autoImplicit false

variable {A B : Bytes → Bytes → Prop}

/-- The frames an action brings to the server. -/
def ServerAction.carried : ServerAction → List Frame
  | .post _ _ frames _ _ _ => frames
  | _ => []

namespace ExitServer

structure Sound (A B : Bytes → Bytes → Prop) (server : ExitServer) : Prop where
  held : server.Holds (Downlink B) (Uplink A)
  bound : ∀ w ∈ server.workers, w.session < server.pool.fresh
  written : ∀ w ∈ server.workers, ∀ data ∈ w.written,
    A (server.pool.objects w.session).sessionId data

/-- Every chunk a worker read counts as read for its session. -/
def Counts (B : Bytes → Bytes → Prop) (server : ExitServer) : Prop :=
  ∀ w ∈ server.workers, ∀ data ∈ w.received,
    B (server.pool.objects w.session).sessionId data

theorem new_sound : ExitServer.new.Sound A B := ⟨⟨new_holds, nofun⟩, nofun, nofun⟩

theorem Sound.weaken {laterA laterB : Bytes → Bytes → Prop} {server : ExitServer}
    (sound : server.Sound A B) (up : ∀ sid data, A sid data → laterA sid data)
    (down : ∀ sid data, B sid data → laterB sid data) : server.Sound laterA laterB where
  held := sound.held.weaken (fun _ _ frame => frame.weaken down) fun _ _ frame => frame.weaken up
  bound := sound.bound
  written w member data wrote := up _ _ (sound.written w member data wrote)

/-- Workers keep their objects, the objects keep their ids, and what a worker
has read stays read. -/
structure Grows (before after : ExitServer) : Prop where
  pool : before.pool.Extends after.pool
  workers : ∀ (index : Nat) (w : UpstreamWorker), before.workers[index]? = some w →
    ∃ w' : UpstreamWorker, after.workers[index]? = some w' ∧ w'.session = w.session ∧
      w.received <+: w'.received

theorem worker_received {s : Session} {w w' : UpstreamWorker} {effect : UpstreamEffect}
    (acted : Acted s w w' effect) : w.received <+: w'.received := by
  cases acted with
  | data data now reading received written =>
      rw [received]
      exact List.prefix_append _ _
  | silent received written | dialError payload now received written | fin now received written
  | wake received written =>
      rw [received]
  | skip f rest queue empty received written =>
      rw [received]
  | write f rest queue plain payload received written =>
      rw [received]

/-- A step starts workers or lets one worker act on its object. -/
theorem react_workers {before after : ExitServer} {action : ServerAction} {reply : Option Reply}
    (reacted : before.react action = some (after, reply)) :
    before.pool.Extends after.pool ∧
      ((∃ spawned : List Nat, after.workers = before.workers ++ spawned.map spawnWorker) ∨
        ∃ (index : Nat) (w w' : UpstreamWorker) (effect : UpstreamEffect),
          before.workers[index]? = some w ∧ w'.session = w.session ∧
            Acted (before.pool.objects w.session) w w' effect ∧
            after.workers = before.workers.set index w') := by
  cases react_moved reacted with
  | posted request clientId frames now atCheck afterScan pool workers =>
      have dispatched := (dispatch_frames_identity before.locked now before.pool frames).1
      refine ⟨?_, .inl ⟨_, workers⟩⟩
      rw [pool]
      exact dispatched.trans (extends_poll_round _ _ _ _)
  | resumed index atCheck afterScan request poll found pool workers =>
      refine ⟨?_, .inl ⟨[], workers.trans (List.append_nil _).symm⟩⟩
      rw [pool]
      exact extends_resume_poll _ _ _ _
  | acted index act w w' effect found acted pool workers =>
      obtain ⟨session, how⟩ := UpstreamWorker.act_acted acted
      refine ⟨?_, .inr ⟨index, w, w', effect, found, session, how, workers⟩⟩
      rw [pool]
      exact extends_effect _ _ _

theorem react_grows {before after : ExitServer} {action : ServerAction} {reply : Option Reply}
    (reacted : before.react action = some (after, reply)) : before.Grows after := by
  obtain ⟨grown, ⟨spawned, workers⟩ | ⟨index, w, w', effect, found, session, acted, workers⟩⟩ :=
    react_workers reacted
  · refine ⟨grown, fun index w present => ⟨w, ?_, rfl, List.prefix_refl _⟩⟩
    rw [workers, List.getElem?_append_left (List.getElem?_eq_some_iff.mp present).1]
    exact present
  · refine ⟨grown, fun other known present => ?_⟩
    rw [workers]
    by_cases here : index = other
    · subst here
      rw [found] at present
      cases present
      refine ⟨w', ?_, session, worker_received acted⟩
      exact List.getElem?_set_self (List.getElem?_eq_some_iff.mp found).1
    · exact ⟨known, (List.getElem?_set_ne here).trans present, rfl, List.prefix_refl _⟩

/-- What a worker has written after an act was accepted for its session. -/
theorem acted_written {pool : SessionPool} {w w' : UpstreamWorker} {effect : UpstreamEffect}
    (held : pool.Holds (Downlink B) (Uplink A))
    (before : ∀ data ∈ w.written, A (pool.objects w.session).sessionId data)
    (acted : Acted (pool.objects w.session) w w' effect) :
    ∀ data ∈ w'.written, A (pool.objects w.session).sessionId data := by
  cases acted with
  | silent received written | dialError payload now received written | fin now received written
  | wake received written =>
      rw [written]
      exact before
  | data data now reading received written =>
      rw [written]
      exact before
  | skip f rest queue empty received written =>
      rw [written]
      exact before
  | write f rest queue plain payload received written =>
      rw [written]
      intro data member
      rcases List.mem_append.mp member with old | new
      · exact before data old
      · rw [List.mem_singleton.mp new]
        have queued : f ∈ (pool.objects w.session).rxQ := by
          rw [queue]
          exact List.mem_cons_self
        exact uplink_payload (held.rx w.session f queued) payload

theorem worker_effect_downlink {pool : SessionPool} {w w' : UpstreamWorker}
    {effect : UpstreamEffect}
    (read : ∀ data ∈ w'.received, B (pool.objects w.session).sessionId data)
    (acted : Acted (pool.objects w.session) w w' effect) :
    effect.Satisfies (Downlink B) (pool.objects w.session).sessionId := by
  cases acted with
  | dialError payload now received written => exact ⟨rfl, rfl, .closing (.inr rfl)⟩
  | data data now reading received written =>
      refine ⟨rfl, rfl, .chunk rfl (read data ?_)⟩
      rw [received]
      exact List.mem_append_right _ List.mem_cons_self
  | fin now received written => exact ⟨rfl, rfl, .closing (.inl rfl)⟩
  | silent | wake | skip | write => trivial

/-- One step of the server keeps its queues; its reply is on its way down. -/
theorem Sound.react {before after : ExitServer} {action : ServerAction} {reply : Option Reply}
    (sound : before.Sound A B) (counts : after.Counts B)
    (posted : ∀ f ∈ action.carried, Uplink A f.sessionId f)
    (reacted : before.react action = some (after, reply)) :
    after.Sound A B ∧ ∀ answer ∈ reply, ∀ f ∈ answer.frames, Downlink B f.sessionId f := by
  obtain ⟨grown, workers⟩ := react_workers reacted
  have brings : before.Brings (Downlink B) (Uplink A) action := by
    cases action with
    | post request clientId frames now atCheck afterScan =>
        intro f member
        exact ⟨posted f member, fun _ => ⟨rfl, rfl, .closing (.inr rfl)⟩⟩
    | resume index atCheck afterScan => trivial
    | worker index act =>
        intro w found w' effect acted
        obtain ⟨session, how⟩ := UpstreamWorker.act_acted acted
        have later : w' ∈ after.workers := by
          have stepped := reacted
          simp only [ExitServer.react, Option.mem_def.mp found, acted, Option.some.injEq,
            Prod.mk.injEq] at stepped
          rw [← stepped.1]
          exact List.mem_set (List.getElem?_eq_some_iff.mp found).1 w'
        refine worker_effect_downlink (fun data member => ?_) how
        have counted := counts w' later data member
        rw [session, grown.ids _ (sound.bound w (List.mem_of_getElem? found))] at counted
        exact counted
  obtain ⟨held, answers⟩ := sound.held.react (fun _ _ down => downlink_self down) brings reacted
  have owns : after.WorkersOwn fun _ => True := by
    have before : before.WorkersOwn fun _ => True := fun w member => ⟨sound.bound w member, trivial⟩
    exact before.react (fun _ _ _ _ _ _ _ _ _ _ => trivial) reacted
  have kept : ∀ w ∈ before.workers, ∀ data ∈ w.written,
      A (after.pool.objects w.session).sessionId data := by
    intro w member data wrote
    rw [grown.ids _ (sound.bound w member)]
    exact sound.written w member data wrote
  refine ⟨⟨held, fun w member => (owns w member).1, ?_⟩, answers⟩
  intro w member data wrote
  rcases workers with ⟨spawned, same⟩ | ⟨index, old, new, effect, found, session, acted, same⟩
  · rw [same] at member
    rcases List.mem_append.mp member with old | fresh
    · exact kept w old data wrote
    · obtain ⟨s, _, rfl⟩ := List.mem_map.mp fresh
      cases wrote
  · rw [same] at member
    rcases List.mem_or_eq_of_mem_set member with other | rfl
    · exact kept w other data wrote
    · have present := List.mem_of_getElem? found
      rw [session, grown.ids _ (sound.bound old present)]
      exact acted_written sound.held.pool (sound.written old present) acted data wrote

end ExitServer

namespace Tunnel

/-- A connection of some client accepted the chunk, under this session id. -/
def Accepted (t : Tunnel) (sid data : Bytes) : Prop :=
  ∃ client ∈ t.clients, ∃ conn ∈ client.conns,
    (client.pool.objects conn.session).sessionId = sid ∧ data ∈ conn.accepted

/-- An upstream worker read the chunk, under this session id. -/
def ReadUpstream (t : Tunnel) (sid data : Bytes) : Prop :=
  ∃ w ∈ t.server.workers,
    (t.server.pool.objects w.session).sessionId = sid ∧ data ∈ w.received

structure WiredBy (A B : Bytes → Bytes → Prop) (t : Tunnel) : Prop where
  clients : ∀ client ∈ t.clients, client.Sound A B
  server : t.server.Sound A B
  posts : ∀ post ∈ t.posts, ∀ f ∈ post.frames, Uplink A f.sessionId f
  responses : ∀ response ∈ t.responses, ∀ f ∈ response.frames, Downlink B f.sessionId f

/-- The invariant of all runs. -/
abbrev Wired (t : Tunnel) : Prop := t.WiredBy t.Accepted t.ReadUpstream

theorem WiredBy.weaken {laterA laterB : Bytes → Bytes → Prop} {t : Tunnel} (wired : t.WiredBy A B)
    (up : ∀ sid data, A sid data → laterA sid data)
    (down : ∀ sid data, B sid data → laterB sid data) : t.WiredBy laterA laterB where
  clients client member := (wired.clients client member).weaken up down
  server := wired.server.weaken up down
  posts post member f carried := (wired.posts post member f carried).weaken up
  responses response member f carried := (wired.responses response member f carried).weaken down

theorem start_wired (clients : List (Bytes × Nat)) : (start clients).WiredBy A B where
  clients client member := by
    obtain ⟨entry, _, rfl⟩ := List.mem_map.mp member
    exact Client.start_sound _ _
  server := ExitServer.new_sound
  posts := nofun
  responses := nofun

/-- One client moved on and the server stood still. -/
theorem accepted_of_set {t later : Tunnel} {index : Nat} {c c' : Client}
    (wired : t.WiredBy A B) (found : t.clients[index]? = some c) (grown : c.Grows c')
    (clients : later.clients = t.clients.set index c') {sid data : Bytes}
    (accepted : t.Accepted sid data) : later.Accepted sid data := by
  obtain ⟨client, member, conn, present, sameId, taken⟩ := accepted
  obtain ⟨other, place⟩ := List.getElem?_of_mem member
  by_cases here : index = other
  · subst here
    rw [found] at place
    cases place
    obtain ⟨slot, slotted⟩ := List.getElem?_of_mem present
    obtain ⟨conn', later', session, more⟩ := grown.conns slot conn slotted
    refine ⟨c', ?_, conn', List.mem_of_getElem? later', ?_, more.subset taken⟩
    · rw [clients]
      exact List.mem_set (List.getElem?_eq_some_iff.mp found).1 c'
    · have bound := ((wired.clients c member).conns conn present).bound
      rw [session, grown.pool.ids _ bound]
      exact sameId
  · refine ⟨client, ?_, conn, present, sameId, taken⟩
    rw [clients]
    exact List.mem_of_getElem? ((List.getElem?_set_ne here).trans place)

theorem read_of_grown {t later : Tunnel} (wired : t.WiredBy A B)
    (grown : t.server.Grows later.server) {sid data : Bytes} (read : t.ReadUpstream sid data) :
    later.ReadUpstream sid data := by
  obtain ⟨w, member, sameId, taken⟩ := read
  obtain ⟨index, place⟩ := List.getElem?_of_mem member
  obtain ⟨w', later', session, more⟩ := grown.workers index w place
  refine ⟨w', List.mem_of_getElem? later', ?_, more.subset taken⟩
  rw [session, grown.pool.ids _ (wired.server.bound w member)]
  exact sameId

theorem counts_accepted {t : Tunnel} {client : Client} (member : client ∈ t.clients) :
    client.Counts t.Accepted :=
  fun conn present _ taken => ⟨client, member, conn, present, rfl, taken⟩

theorem counts_read (t : Tunnel) : t.server.Counts t.ReadUpstream :=
  fun w member _ taken => ⟨w, member, rfl, taken⟩

/-- A reply becomes a response with the same frames, or none. -/
theorem response_frames {reply : Option Reply} {response : Response}
    (made : response ∈ (reply.bind Reply.response).toList) :
    ∃ answer ∈ reply, response.frames = answer.frames := by
  obtain ⟨answer, replied, same⟩ := Option.bind_eq_some_iff.mp (Option.mem_toList.mp made)
  unfold Reply.response at same
  split_ifs at same
  cases same
  exact ⟨answer, replied, rfl⟩

/-- The step of a client, seen from the whole tunnel. -/
theorem client_moved {t later : Tunnel} {index : Nat} {c c' : Client} (wired : t.Wired)
    (found : t.clients[index]? = some c) (grown : c.Grows c')
    (clients : later.clients = t.clients.set index c') (server : later.server = t.server) :
    t.WiredBy later.Accepted later.ReadUpstream ∧ c' ∈ later.clients ∧
      ∀ client ∈ later.clients, client ∈ t.clients ∨ client = c' := by
  refine ⟨wired.weaken ?_ ?_, ?_, ?_⟩
  · exact fun _ _ accepted => accepted_of_set wired found grown clients accepted
  · intro sid data read
    unfold ReadUpstream at read ⊢
    rw [server]
    exact read
  · rw [clients]
    exact List.mem_set (List.getElem?_eq_some_iff.mp found).1 c'
  · rw [clients]
    exact fun client member => List.mem_or_eq_of_mem_set member

/-- The step of the server, seen from the whole tunnel. -/
theorem server_moved {t later : Tunnel} {action : ServerAction} {reply : Option Reply}
    (wired : t.Wired) (reacted : t.server.react action = some (later.server, reply))
    (clients : later.clients = t.clients)
    (responses : later.responses = t.responses ++ (reply.bind Reply.response).toList)
    (posts : ∀ post ∈ later.posts, post ∈ t.posts)
    (posted : ∀ f ∈ action.carried, ∃ post ∈ t.posts, f ∈ post.frames) : later.Wired := by
  have grown := ExitServer.react_grows reacted
  have before : t.WiredBy later.Accepted later.ReadUpstream := by
    refine wired.weaken ?_ fun sid data read => read_of_grown wired grown read
    intro sid data accepted
    unfold Accepted at accepted ⊢
    rw [clients]
    exact accepted
  have carried : ∀ f ∈ action.carried, Uplink later.Accepted f.sessionId f := by
    intro f member
    obtain ⟨post, inFlight, listed⟩ := posted f member
    exact before.posts post inFlight f listed
  obtain ⟨server, answers⟩ := before.server.react (counts_read later) carried reacted
  refine ⟨?_, server, fun post member => before.posts post (posts post member), ?_⟩
  · rw [clients]
    exact before.clients
  · intro response member f taken
    rw [responses] at member
    rcases List.mem_append.mp member with old | new
    · exact before.responses response old f taken
    · obtain ⟨answer, replied, same⟩ := response_frames new
      rw [same] at taken
      exact answers answer replied f taken

theorem step_wired {t later : Tunnel} {action : TunnelAction} (wired : t.Wired)
    (stepped : t.step action = some later) : later.Wired := by
  cases step_stepped stepped with
  | client index action c c' sent found reacted =>
      have how := Client.react_reacted reacted
      obtain ⟨before, present, others⟩ := @client_moved t { t with
          clients := t.clients.set index c'
          posts := t.posts ++ sent.toList
          posted := t.posted + sent.toList.length } index c c' wired found (Client.react_grows how)
          rfl rfl
      have known := before.clients c (List.mem_of_getElem? found)
      obtain ⟨sound, up⟩ := known.react (counts_accepted present) how
      refine ⟨fun client member => ?_, before.server, fun post member => ?_, before.responses⟩
      · rcases others client member with old | rfl
        · exact before.clients client old
        · exact sound
      · rcases List.mem_append.mp member with old | new
        · exact before.posts post old
        · exact up post (Option.mem_toList.mp new)
  | arrive index keep now atCheck afterScan post server reply found reacted =>
      exact server_moved wired reacted rfl rfl (fun _ member => mem_left_in_flight member)
        fun f member => ⟨post, List.mem_of_getElem? found, member⟩
  | resume index atCheck afterScan server reply reacted =>
      exact server_moved wired reacted rfl rfl (fun _ member => member) nofun
  | upstream index act server reply reacted =>
      exact server_moved wired reacted rfl rfl (fun _ member => member) nofun
  | deliver index keep client worker bodyLength sent rttMs now response c c' found present taken =>
      obtain ⟨before, _, others⟩ := @client_moved t { t with
          clients := t.clients.set client c'
          responses := leftInFlight keep t.responses index } client c c' wired present
        (Client.answered_grows taken) rfl rfl
      have known := before.clients c (List.mem_of_getElem? present)
      have sound := known.answered (fun frames bodyLength same f member => by
        cases same
        exact before.responses response (List.mem_of_getElem? found) f member) taken
      refine ⟨fun other member => ?_, before.server, before.posts,
        fun other member => before.responses other (mem_left_in_flight member)⟩
      rcases others other member with old | rfl
      · exact before.clients other old
      · exact sound
  | relay client worker answer sent rttMs now c c' bare present taken =>
      obtain ⟨before, _, others⟩ := @client_moved t { t with
          clients := t.clients.set client c' } client c c' wired present
          (Client.answered_grows taken) rfl rfl
      have known := before.clients c (List.mem_of_getElem? present)
      have sound := known.answered (fun frames bodyLength same => by
        rw [same] at bare
        cases bare) taken
      refine ⟨fun other member => ?_, before.server, before.posts, before.responses⟩
      rcases others other member with old | rfl
      · exact before.clients other old
      · exact sound

theorem run_wired {clients : List (Bytes × Nat)} {allowed : Tunnel → TunnelAction → Prop}
    {history : List TunnelAction} {t : Tunnel}
    (run : tunnelMachine.Run allowed (start clients) history t) : t.Wired :=
  run.invariant (start_wired clients) fun _ _ _ wired _ stepped => step_wired wired stepped

end Tunnel

/-- Any drain of the pool takes frames of the session it drains. -/
def SnapshotsOwn (pool : SessionPool) : Prop :=
  ∀ (sid : Bytes) (maxFrames : Nat), ∀ f ∈ (pool.drainTxLimitedTxn sid maxFrames).2.frames,
    f.sessionId = (pool.drainTxLimitedTxn sid maxFrames).2.sessionId

theorem snapshots_own {R : Bytes → Frame → Prop} {pool : SessionPool}
    (held : pool.Holds OwnFrame R) : SnapshotsOwn pool := by
  intro sid maxFrames f member
  have own := (held.drain sid maxFrames).2 f member
  rcases pool.drain_cases sid maxFrames with ⟨_, same⟩ | ⟨_, _, _, same⟩
  · rw [same]
    exact own
  · rw [same]
    exact own

theorem scan_fold_holds {T R : Bytes → Frame → Prop} (refs : List Nat) {scan : Scan}
    (held : scan.pool.Holds T R) : (refs.foldl scanSession scan).pool.Holds T R := by
  induction refs generalizing scan with
  | nil => exact held
  | cons s rest ih =>
      apply ih
      unfold scanSession
      have drained := (held.drain (scan.pool.objects s).sessionId pollDrainLimit).1
      split_ifs
      · dsimp only
        split_ifs
        · exact drained
        · exact drained
      · exact held

/-- Nothing of one session is found under the id of another. The snapshots are
those of any point of a batch or of a scan. -/
structure NoCrossTalk (t : Tunnel) : Prop where
  clientQueues : ∀ client ∈ t.clients, client.pool.Holds OwnFrame OwnFrame
  serverQueues : t.server.pool.Holds OwnFrame OwnFrame
  clientSnapshots : ∀ client ∈ t.clients, ∀ (sids : List Bytes) (batchSize : Nat) (now : ℚ),
    SnapshotsOwn (sids.foldl (drainSession batchSize now) (startDrain client.pool)).pool
  serverSnapshots : ∀ (refs : List Nat) (collected : List Frame) (needSleep : ℚ),
    SnapshotsOwn (refs.foldl scanSession ⟨t.server.pool, collected, needSleep⟩).pool
  batches : ∀ post ∈ t.posts, ∀ f ∈ post.frames, f.payload ≠ [] →
    t.Accepted f.sessionId f.payload
  responses : ∀ response ∈ t.responses, ∀ f ∈ response.frames,
    f.hasFlag (FlagFIN ||| FlagRST) = false → t.ReadUpstream f.sessionId f.payload
  upstreamWrites : ∀ w ∈ t.server.workers, ∀ data ∈ w.written,
    t.Accepted (t.server.pool.objects w.session).sessionId data
  transportWrites : ∀ client ∈ t.clients, ∀ conn ∈ client.conns, ∀ data ∈ conn.written,
    t.ReadUpstream (client.pool.objects conn.session).sessionId data

/-- In every run of any number of clients with the server, with every loss,
duplication, delay and reordering of batches and responses. -/
theorem no_cross_talk {clients : List (Bytes × Nat)} {history : List TunnelAction} {t : Tunnel}
    (run : tunnelMachine.Run StepMachine.anyStep (Tunnel.start clients) history t) :
    NoCrossTalk t := by
  have wired := Tunnel.run_wired run
  have clientQueues : ∀ client ∈ t.clients, client.pool.Holds OwnFrame OwnFrame :=
    fun client member => (wired.clients client member).pool.weaken
      (fun _ _ up => up.1) fun _ _ down => down.own
  have serverQueues : t.server.pool.Holds OwnFrame OwnFrame :=
    wired.server.held.pool.weaken (fun _ _ down => down.own) fun _ _ up => up.1
  constructor
  · exact clientQueues
  · exact serverQueues
  · intro client member sids batchSize now
    exact snapshots_own (@fold_holds _ _ batchSize now sids (startDrain client.pool)
      (clientQueues client member)).1
  · intro refs collected needSleep
    exact snapshots_own (@scan_fold_holds _ _ refs ⟨t.server.pool, collected, needSleep⟩
      serverQueues)
  · exact fun post member f carried => uplink_payload (wired.posts post member f carried)
  · exact fun response member f carried =>
      downlink_payload (wired.responses response member f carried)
  · exact wired.server.written
  · exact fun client member conn present =>
      ((wired.clients client member).conns conn present).written

/-- A chunk up and a chunk down, with a duplicated batch. -/
def echoRun : List TunnelAction :=
  openedRun ++
    [.client 0 (.write 0 [65]), .client 0 (.conn 0 (.drainChunk 0)), .client 0 (.work 3 0),
      .arrive 0 true 0 0 0, .upstream 0 .wake, .upstream 0 .pop, .arrive 0 false 0 0 0,
      .upstream 0 (.read [66] 0), .resume 0 0 0, .deliver 0 false 0 0 0 0 0 0,
      .client 0 (.conn 0 .wake), .client 0 (.conn 0 .pop)]

theorem echo_no_cross_talk :
    ∃ t : Tunnel, (t.server.workers.map UpstreamWorker.written = [[[65]]] ∧
        t.clients.map (fun c => c.conns.map VirtualConn.written) = [[[[66]]], []]) ∧
      NoCrossTalk t := by
  have executed : (tunnelMachine.exec StepMachine.anyStep
      (Tunnel.start [(streamClientId, 2), (streamClientId, 1)]) echoRun).any (fun t =>
        decide (t.server.workers.map UpstreamWorker.written = [[[65]]] ∧
          t.clients.map (fun c => c.conns.map VirtualConn.written) = [[[[66]]], []])) = true := by
    decide +kernel
  obtain ⟨t, run, seen⟩ := StepMachine.run_of_exec_any echoRun executed
  exact ⟨t, of_decide_eq_true seen, no_cross_talk run⟩

end Astrix
