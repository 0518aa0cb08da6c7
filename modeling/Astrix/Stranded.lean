import Astrix.OpenRequests
import Astrix.UploadOrder

/-!
# Queued downstream frames and the requests that fetch them

The server sends only in answer to a request, and a worker makes a request only
when it drained something. So what is queued for a client waits for the client's
next upload: it can come down while the client has a request open for every
eight frames, and never comes if the client has none and nothing to send.
-/

namespace Astrix

open PyRuntime SessionPool

set_option autoImplicit false

/-- The receive queue of the session at its client holds the frames, in order. -/
def Delivered (c : Nat) (sid : Bytes) (frames : List Frame) (t : Tunnel) : Prop :=
  ∃ client s, t.clients[c]? = some client ∧ client.pool.get sid = some s ∧
    frames.Sublist (client.pool.objects s).rxQ

/-- The server holds frames for a session that is open at a running client with
an endpoint that is not dead. -/
def HeldForClient (c : Nat) (sid : Bytes) (t : Tunnel) : Prop :=
  (∃ client ∈ t.clients[c]?, client.running = true ∧ (∃ ep ∈ client.endpoints, ep.isDead = false) ∧
    client.pool.get sid ≠ none) ∧
  ∃ r ∈ t.server.pool.get sid, (t.server.pool.objects r).txQ ≠ []

instance (c : Nat) (sid : Bytes) (t : Tunnel) : Decidable (HeldForClient c sid t) :=
  inferInstanceAs (Decidable ((∃ client ∈ t.clients[c]?, client.running = true ∧
    (∃ ep ∈ client.endpoints, ep.isDead = false) ∧ client.pool.get sid ≠ none) ∧
    ∃ r ∈ t.server.pool.get sid, (t.server.pool.objects r).txQ ≠ []))

/-- The held frames are delivered by nothing that the client and the server do
without new data from a SOCKS client. -/
structure Stranded (c : Nat) (sid : Bytes) (t : Tunnel) : Prop where
  held : HeldForClient c sid t
  never : ∀ r ∈ t.server.pool.get sid, ∀ history later,
    tunnelMachine.Run Unprompted t history later →
      ¬ Delivered c sid (t.server.pool.objects r).txQ later

/-- No receive queue holds anything. -/
def NothingReceived (t : Tunnel) : Prop :=
  ∀ client ∈ t.clients, ∀ s < client.pool.fresh, (client.pool.objects s).rxQ = []

theorem silent_receives_nothing {t later : Tunnel} {history : List TunnelAction}
    (silent : t.Silent) (run : tunnelMachine.Run Unprompted t history later) :
    NothingReceived later := by
  have still := Tunnel.run_silent silent run
  exact fun client member s bound => ((still.clients client member).queues s bound).2

/-- In a silent tunnel whatever the server holds for a client is stranded. -/
theorem silence_strands {t : Tunnel} {c : Nat} {sid : Bytes} (silent : t.Silent)
    (held : HeldForClient c sid t) : Stranded c sid t := by
  refine ⟨held, fun r found history later run => ?_⟩
  obtain ⟨_, r', found', queued⟩ := held
  cases Option.mem_unique found found'
  rintro ⟨client, s, present, open_, inside⟩
  have empty := silent_receives_nothing silent run client (List.mem_of_getElem? present) s
    (get_keyed open_).1
  rw [empty] at inside
  exact queued (List.sublist_nil.mp inside)

/-- Distinct requests of the client wait at the server, one for every eight
frames of the session's queue or part of eight. -/
structure CoveredBy (qs : List Nat) (c : Nat) (sid : Bytes) (t : Tunnel) : Prop where
  ships : t.Ships
  distinct : qs.Nodup
  awaits : ∀ client ∈ t.clients[c]?, ∀ q ∈ qs, client.Awaits q
  waiting : ∀ q ∈ qs, AtServer t q
  enough : ∀ r ∈ t.server.pool.get sid,
    (t.server.pool.objects r).txQ.length ≤ pollDrainLimit * qs.length

instance (qs : List Nat) (c : Nat) (sid : Bytes) (t : Tunnel) : Decidable (CoveredBy qs c sid t) :=
  decidable_of_iff (t.Ships ∧ qs.Nodup ∧ (∀ client ∈ t.clients[c]?, ∀ q ∈ qs, client.Awaits q) ∧
      (∀ q ∈ qs, AtServer t q) ∧ ∀ r ∈ t.server.pool.get sid,
        (t.server.pool.objects r).txQ.length ≤ pollDrainLimit * qs.length)
    ⟨fun all => ⟨all.1, all.2.1, all.2.2.1, all.2.2.2.1, all.2.2.2.2⟩,
      fun covered => ⟨covered.1, covered.2, covered.3, covered.4, covered.5⟩⟩

/-- Steps of the clients alone. -/
def ClientsAlone (_ : Tunnel) : TunnelAction → Prop
  | .client _ action => action.prompted = false
  | _ => False

/-- With what the clients have queued they can get enough requests to the server. -/
def WithinReach (c : Nat) (sid : Bytes) (t : Tunnel) : Prop :=
  ∃ history ready qs, tunnelMachine.Run ClientsAlone t history ready ∧ CoveredBy qs c sid ready

section Fetch

variable {c : Nat} {sid : Bytes} {t : Tunnel} {client : Client} {r s : Nat}

/-- One request of the client brings the front of the queue. -/
theorem fetch_front {q : Nat} (wired : t.Wired) (quiet : QuietPolls t.server) (ships : t.Ships)
    (present : t.clients[c]? = some client) (found : client.pool.get sid = some s)
    (held : t.server.pool.get sid = some r) (queued : (t.server.pool.objects r).txQ ≠ [])
    (awaits : client.Awaits q) (waiting : AtServer t q) :
    ∃ history later after, tunnelMachine.Run Unprompted t history later ∧
      later.clients[c]? = some after ∧ after.pool.get sid = some s ∧
      (∃ early, (after.pool.objects s).rxQ = (client.pool.objects s).rxQ ++
        (early ++ (t.server.pool.objects r).txQ.take pollDrainLimit)) ∧
      later.server.pool.get sid = some r ∧
      (later.server.pool.objects r).txQ = (t.server.pool.objects r).txQ.drop pollDrainLimit ∧
      later.Ships ∧ (∀ other ≠ q, client.Awaits other → after.Awaits other) ∧
      ∀ other ≠ q, AtServer t other → AtServer later other := by
  obtain ⟨first, middle, response, firstQuiet, firstStep, handled⟩ :=
    handle_waiting wired quiet ships held queued waiting
  have presentNow : middle.clients[c]? = some client := by
    rw [handled.clients]
    exact present
  obtain ⟨second, later, after, secondQuiet, secondStep, same, still, received, others⟩ :=
    hand_over handled.responses presentNow found (handled.request ▸ awaits)
  have run : tunnelMachine.Run Unprompted t ([first] ++ [second]) later :=
    (StepMachine.Run.single firstQuiet firstStep).trans
      (StepMachine.Run.single secondQuiet secondStep)
  subst same
  obtain ⟨early, front⟩ := handled.front
  rw [handled.request] at others
  refine ⟨_, _, after, run, ?_, still, ⟨early, front ▸ received⟩, handled.get, handled.tx,
    ⟨handled.ships.queues, handled.ships.posts, handled.ships.polls, handled.ships.room⟩, others,
    handled.others⟩
  exact List.getElem?_set_self (List.getElem?_eq_some_iff.mp presentNow).1

theorem step_quiet {later : Tunnel} {action : TunnelAction} (quiet : QuietPolls t.server)
    (stepped : t.step action = some later) : QuietPolls later.server := by
  cases Tunnel.step_stepped stepped with
  | client | deliver | relay => exact quiet
  | arrive index keep now atCheck afterScan post server reply found reacted =>
      exact quiet.react reacted
  | resume index atCheck afterScan server reply reacted => exact quiet.react reacted
  | upstream index act server reply reacted => exact quiet.react reacted

theorem run_wired_quiet {later : Tunnel} {history : List TunnelAction}
    {allowed : Tunnel → TunnelAction → Prop} (wired : t.Wired) (quiet : QuietPolls t.server)
    (run : tunnelMachine.Run allowed t history later) :
    later.Wired ∧ QuietPolls later.server := by
  have both : t.Wired ∧ QuietPolls t.server := ⟨wired, quiet⟩
  have preserved : ∀ (state : Tunnel) (action : TunnelAction) (next : Tunnel),
      state.Wired ∧ QuietPolls state.server → allowed state action →
        tunnelMachine.step state action = some next → next.Wired ∧ QuietPolls next.server :=
    fun _ _ _ held _ stepped => ⟨Tunnel.step_wired held.1 stepped, step_quiet held.2 stepped⟩
  exact run.invariant both preserved

/-- Enough requests bring the whole queue. -/
theorem requests_deliver {qs : List Nat} (wired : t.Wired) (quiet : QuietPolls t.server)
    (ships : t.Ships) (present : t.clients[c]? = some client)
    (found : client.pool.get sid = some s) (held : t.server.pool.get sid = some r)
    (distinct : qs.Nodup) (awaits : ∀ q ∈ qs, client.Awaits q) (waiting : ∀ q ∈ qs, AtServer t q)
    (enough : (t.server.pool.objects r).txQ.length ≤ pollDrainLimit * qs.length) :
    ∃ history later after more, tunnelMachine.Run Unprompted t history later ∧
      later.clients[c]? = some after ∧ after.pool.get sid = some s ∧
      (after.pool.objects s).rxQ = (client.pool.objects s).rxQ ++ more ∧
      (t.server.pool.objects r).txQ.Sublist more := by
  induction qs generalizing t client with
  | nil =>
      have none : (t.server.pool.objects r).txQ = [] :=
        List.length_eq_zero_iff.mp (Nat.le_zero.mp enough)
      refine ⟨[], t, client, [], .start, present, found, (List.append_nil _).symm, ?_⟩
      rw [none]
  | cons q rest ih =>
      by_cases queued : (t.server.pool.objects r).txQ = []
      · refine ⟨[], t, client, [], .start, present, found, (List.append_nil _).symm, ?_⟩
        rw [queued]
      · obtain ⟨absent, restDistinct⟩ := List.nodup_cons.mp distinct
        have different : ∀ other ∈ rest, other ≠ q := by
          rintro other member rfl
          exact absent member
        obtain ⟨history, later, after, run, presentNow, foundNow, ⟨early, received⟩, heldNow, tx,
          shipsNow, stillAwaits, stillWaiting⟩ := fetch_front wired quiet ships present found held
            queued (awaits q List.mem_cons_self) (waiting q List.mem_cons_self)
        obtain ⟨wiredNow, quietNow⟩ := run_wired_quiet wired quiet run
        have limit : pollDrainLimit = 8 := rfl
        have fewer : (later.server.pool.objects r).txQ.length ≤ pollDrainLimit * rest.length := by
          rw [tx, List.length_drop, limit]
          rw [limit, List.length_cons] at enough
          omega
        obtain ⟨history', final, last, more, run', presentLast, foundLast, receivedLast, inside⟩ :=
          ih wiredNow quietNow shipsNow presentNow foundNow heldNow restDistinct
            (fun other member => stillAwaits other (different other member)
              (awaits other (List.mem_cons_of_mem q member)))
            (fun other member => stillWaiting other (different other member)
              (waiting other (List.mem_cons_of_mem q member))) fewer
        refine ⟨history ++ history', final, last,
          early ++ (t.server.pool.objects r).txQ.take pollDrainLimit ++ more, run.trans run',
          presentLast, foundLast, ?_, ?_⟩
        · rw [receivedLast, received, List.append_assoc]
        · rw [tx] at inside
          have whole : ((t.server.pool.objects r).txQ.take pollDrainLimit ++
              (t.server.pool.objects r).txQ.drop pollDrainLimit).Sublist
                (early ++ (t.server.pool.objects r).txQ.take pollDrainLimit ++ more) :=
            (List.sublist_append_right early _).append inside
          rw [List.take_append_drop] at whole
          exact whole

/-- A step that nobody prompted opens and closes no session of the client. -/
theorem unprompted_get {before after : Client} {request : Nat} {action : ClientAction}
    {sent : Option Post} (reacted : Client.Reacted before request after action sent)
    (unprompted : action.prompted = false) (sid : Bytes) :
    after.pool.get sid = before.pool.get sid := by
  cases reacted with
  | opened | wrote => cases unprompted
  | acted index act conn conn' effect found acted pool conns => rw [pool, conn_effect_get]
  | idle action call called unsent pool conns =>
      rw [pool]
      exact (untouched_drain_all _ _ _ _).get sid
  | posted action call called returned encodes pool conns =>
      rw [pool]
      exact (untouched_drain_all _ _ _ _).get sid
  | still action pool conns => rw [pool]

/-- While only clients act, the server stands still and sessions stay open. -/
theorem alone_keeps {ready : Tunnel} {history : List TunnelAction}
    (run : tunnelMachine.Run ClientsAlone t history ready)
    (present : t.clients[c]? = some client) (found : client.pool.get sid = some s) :
    ready.server = t.server ∧
      ∃ after, ready.clients[c]? = some after ∧ after.pool.get sid = some s := by
  refine @StepMachine.Run.invariant _ _ _ _ _ _ _ (fun state => state.server = t.server ∧
    ∃ after, state.clients[c]? = some after ∧ after.pool.get sid = some s) run
    ⟨rfl, client, present, found⟩ ?_
  rintro state action later ⟨same, after, here, open_⟩ alone stepped
  cases Tunnel.step_stepped stepped with
  | client index action before moved sent slot reacted =>
      refine ⟨same, ?_⟩
      by_cases own : index = c
      · subst own
        rw [slot] at here
        cases here
        refine ⟨moved, List.getElem?_set_self (List.getElem?_eq_some_iff.mp slot).1, ?_⟩
        rw [unprompted_get (Client.react_reacted reacted) alone]
        exact open_
      · exact ⟨after, (List.getElem?_set_ne own).trans here, open_⟩
  | arrive | resume | upstream | deliver | relay => cases alone

theorem alone_unprompted (state : Tunnel) (action : TunnelAction)
    (alone : ClientsAlone state action) : Unprompted state action := by
  cases action with
  | client index action => exact alone
  | arrive | resume | upstream | deliver | relay => cases alone

end Fetch

/-- In every run, as long as enough requests of the client are within reach,
what the server holds for the client's session can still be delivered. -/
theorem reachable_requests_prevent_stranding {clients : List (Bytes × Nat)} {t : Tunnel}
    {history : List TunnelAction}
    (run : tunnelMachine.Run StepMachine.anyStep (Tunnel.start clients) history t) {c : Nat}
    {sid : Bytes} (reach : WithinReach c sid t) : ¬ Stranded c sid t := by
  intro stranded
  obtain ⟨⟨client, present, _, _, open_⟩, r, held, _⟩ := stranded.held
  obtain ⟨s, found⟩ := Option.ne_none_iff_exists'.mp open_
  obtain ⟨alone, ready, qs, prelude, covered⟩ := reach
  obtain ⟨same, after, presentNow, foundNow⟩ := alone_keeps prelude present found
  have start : QuietPolls (Tunnel.start clients).server := nofun
  obtain ⟨wired, quiet⟩ := run_wired_quiet (Tunnel.start_wired clients) start run
  obtain ⟨wiredNow, quietNow⟩ := run_wired_quiet wired quiet prelude
  have heldNow : ready.server.pool.get sid = some r := by
    rw [same]
    exact held
  obtain ⟨history', later, last, more, run', presentLast, foundLast, received, inside⟩ :=
    requests_deliver wiredNow quietNow covered.ships presentNow foundNow heldNow covered.distinct
      (covered.awaits after presentNow) covered.waiting (covered.enough r heldNow)
  rw [same] at inside
  apply stranded.never r held _ later ((prelude.weaken alone_unprompted).trans run')
  refine ⟨last, s, presentLast, foundLast, ?_⟩
  rw [received]
  exact inside.trans (List.sublist_append_right _ more)

/-- The first chunk came down with the answer to the SYN; the second was read
after it, with no request open and nothing to send. -/
def secondChunkRun : List TunnelAction :=
  openedRun ++
    [.upstream 0 (.read [1] 0), .resume 0 0 0, .deliver 0 false 0 0 0 0 0 0,
      .client 0 (.conn 0 .wake), .client 0 (.conn 0 .pop), .client 0 (.conn 0 .pop),
      .upstream 0 (.read [2] 0)]

theorem second_chunk_stranded :
    ∃ (history : List TunnelAction) (t : Tunnel),
      tunnelMachine.Run StepMachine.anyStep (Tunnel.start [(streamClientId, 1)]) history t ∧
        Stranded 0 streamSid t ∧
        ∀ history' later,
          tunnelMachine.Run Unprompted t history' later → NothingReceived later := by
  have executed : (tunnelMachine.exec StepMachine.anyStep (Tunnel.start [(streamClientId, 1)])
      secondChunkRun).any (fun t => decide (t.Silent ∧ HeldForClient 0 streamSid t)) = true := by
    decide +kernel
  obtain ⟨t, run, seen⟩ := StepMachine.run_of_exec_any secondChunkRun executed
  obtain ⟨silent, held⟩ := of_decide_eq_true seen
  exact ⟨_, t, run, silence_strands silent held, fun _ _ later =>
    silent_receives_nothing silent later⟩

/-- The first chunk is read while the poll of the SYN's batch is open. -/
theorem first_chunk_not_stranded :
    ∃ t : Tunnel, HeldForClient 0 streamSid t ∧ ¬ Stranded 0 streamSid t := by
  have executed : (tunnelMachine.exec StepMachine.anyStep (Tunnel.start [(streamClientId, 1)])
      (openedRun ++ [.upstream 0 (.read [1] 0)])).any
        (fun t => decide (HeldForClient 0 streamSid t ∧ CoveredBy [0] 0 streamSid t)) = true := by
    decide +kernel
  obtain ⟨t, run, seen⟩ := StepMachine.run_of_exec_any _ executed
  obtain ⟨held, covered⟩ := of_decide_eq_true seen
  exact ⟨t, held, reachable_requests_prevent_stranding run ⟨[], t, [0], .start, covered⟩⟩

end Astrix
