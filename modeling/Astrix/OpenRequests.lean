import Astrix.CrossTalk
import Astrix.IdleClient
import Astrix.ServedRequest

/-!
# Requests that wait at the server

A request is at the server while its batch is in flight or its handler sleeps
before the deadline. When such a request of a client is handled and its response
handed over, the next eight frames of the session are in the client's receive
queue, and every other request still waits.
-/

namespace Astrix

open PyRuntime SessionPool

set_option autoImplicit false

def AtServer (t : Tunnel) (q : Nat) : Prop :=
  (∃ post ∈ t.posts, post.request = q) ∨
    ∃ entry ∈ t.server.polls, entry.1 = q ∧ t.time < entry.2.waitDeadline

instance (t : Tunnel) (q : Nat) : Decidable (AtServer t q) :=
  inferInstanceAs (Decidable ((∃ post ∈ t.posts, post.request = q) ∨
    ∃ entry ∈ t.server.polls, entry.1 = q ∧ t.time < entry.2.waitDeadline))

/-- A worker of the client waits for the answer to the request. -/
def Client.Awaits (client : Client) (q : Nat) : Prop :=
  ∃ w ∈ client.workers, w.phase.request = some q ∧ w.endpoint < client.endpoints.length

instance (client : Client) (q : Nat) : Decidable (client.Awaits q) :=
  inferInstanceAs (Decidable (∃ w ∈ client.workers, w.phase.request = some q ∧
    w.endpoint < client.endpoints.length))

def postedCount (posts : List Post) : Nat := (posts.map fun post => post.frames.length).sum

/-- Any response that the server can give next has room for its frames and can
be encoded. -/
structure Tunnel.Ships (t : Tunnel) : Prop where
  queues : QueuesShip t.server.pool
  posts : ∀ post ∈ t.posts, post.clientId.length = ClientIDLen ∧
    ∀ f ∈ post.frames, f.sessionId.length = SessionIDLen
  polls : ∀ entry ∈ t.server.polls, entry.2.clientId.length = ClientIDLen
  room : 9 * (t.server.pool.sessionCount + postedCount t.posts) ≤ 0xFFFF

instance (t : Tunnel) : Decidable t.Ships :=
  decidable_of_iff (QueuesShip t.server.pool ∧
      (∀ post ∈ t.posts, post.clientId.length = ClientIDLen ∧
        ∀ f ∈ post.frames, f.sessionId.length = SessionIDLen) ∧
      (∀ entry ∈ t.server.polls, entry.2.clientId.length = ClientIDLen) ∧
      9 * (t.server.pool.sessionCount + postedCount t.posts) ≤ 0xFFFF)
    ⟨fun all => ⟨all.1, all.2.1, all.2.2.1, all.2.2.2⟩,
      fun ships => ⟨ships.1, ships.2, ships.3, ships.4⟩⟩

section Erase

theorem mem_of_erased {α : Type} {items : List α} {index : Nat} {erased item : α}
    (found : items[index]? = some erased) (member : item ∈ items) (different : item ≠ erased) :
    item ∈ items.eraseIdx index := by
  obtain ⟨inside, here⟩ := List.getElem?_eq_some_iff.mp found
  have perm := List.getElem_cons_eraseIdx_perm inside
  rw [here] at perm
  rcases List.mem_cons.mp (perm.mem_iff.mpr member) with same | other
  · exact absurd same different
  · exact other

theorem posted_count_erase {posts : List Post} {index : Nat} {post : Post}
    (found : posts[index]? = some post) :
    postedCount posts = post.frames.length + postedCount (posts.eraseIdx index) := by
  obtain ⟨inside, here⟩ := List.getElem?_eq_some_iff.mp found
  have perm := (List.getElem_cons_eraseIdx_perm inside).map fun post => post.frames.length
  rw [here, List.map_cons] at perm
  exact perm.sum_eq.symm.trans List.sum_cons

end Erase

/-- The request was handled: its response is the last one in flight, with the
front of the session's queue, and the other requests still wait. -/
structure Handled (sid : Bytes) (r q : Nat) (t later : Tunnel) (response : Response) : Prop where
  clients : later.clients = t.clients
  responses : later.responses = t.responses ++ [response]
  request : response.request = q
  front : ∃ early, sessionFrames sid response.frames =
    early ++ (t.server.pool.objects r).txQ.take pollDrainLimit
  get : later.server.pool.get sid = some r
  tx : (later.server.pool.objects r).txQ = (t.server.pool.objects r).txQ.drop pollDrainLimit
  ships : later.Ships
  others : ∀ other ≠ q, AtServer t other → AtServer later other

section Handle

variable {sid : Bytes} {r q : Nat} {t : Tunnel}

/-- A served request has a response that the client can decode. -/
theorem served_response {extra : Nat} {after : ExitServer} {request : Nat} {clientId : Bytes}
    {collected : List Frame} (served : Served sid r extra t.server after
      ⟨request, clientId, collected⟩)
    (queued : (t.server.pool.objects r).txQ ≠ []) (idLength : clientId.length = ClientIDLen)
    (room : 9 * (t.server.pool.sessionCount + extra) ≤ 0xFFFF) :
    Reply.response ⟨request, clientId, collected⟩ = some ⟨request, collected⟩ := by
  have some : collected ≠ [] := by
    obtain ⟨early, front⟩ := served.front
    rintro rfl
    have none := (List.append_eq_nil_iff.mp front.symm).2
    rcases List.take_eq_nil_iff.mp none with zero | nothing
    · exact absurd zero (by decide)
    · exact queued nothing
  exact if_pos ⟨some, shippable_encodes idLength (served.count.trans room) served.ships⟩

theorem server_own (wired : t.Wired) : t.server.pool.Holds OwnFrame AnyFrame :=
  wired.server.held.pool.weaken (fun _ _ down => down.own) fun _ _ _ => trivial

/-- A batch in flight arrives. -/
theorem handle_post {index : Nat} {post : Post} (wired : t.Wired) (ships : t.Ships)
    (found : t.server.pool.get sid = some r) (queued : (t.server.pool.objects r).txQ ≠ [])
    (inFlight : t.posts[index]? = some post) :
    ∃ later response, t.step (.arrive index false t.time t.time t.time) = some later ∧
      Handled sid r post.request t later response := by
  have member := List.mem_of_getElem? inFlight
  obtain ⟨idLength, ids⟩ := ships.posts post member
  obtain ⟨after, collected, reacted, polls, served⟩ := post_served (server_own wired) ships.queues
    found queued (fun f carried => uplink_flags (wired.posts post member f carried)) ids
    post.request post.clientId t.time
  have counted := posted_count_erase inFlight
  have room := ships.room
  have response := served_response served queued idLength (by omega)
  refine ⟨{ t with
    server := after
    posts := t.posts.eraseIdx index
    responses := t.responses ++ [⟨post.request, collected⟩] }, ⟨post.request, collected⟩, ?_, ?_⟩
  · simp only [Tunnel.step, inFlight, Tunnel.serve, reacted, Option.map_some, leftInFlight,
      max_self, Option.bind_some, response, Option.toList_some, Bool.false_eq_true, if_false]
  · refine ⟨rfl, rfl, rfl, served.front, served.get, served.tx, ⟨served.queues, ?_, ?_, ?_⟩, ?_⟩
    · exact fun other listed => ships.posts other (List.mem_of_mem_eraseIdx listed)
    · dsimp only
      rw [polls]
      exact ships.polls
    · have sessions := served.sessions
      dsimp only
      omega
    · rintro other different (⟨waiting, listed, same⟩ | ⟨entry, listed, same⟩)
      · refine .inl ⟨waiting, mem_of_erased inFlight listed ?_, same⟩
        rintro rfl
        exact different same.symm
      · refine .inr ⟨entry, ?_, same⟩
        dsimp only
        rw [polls]
        exact listed

/-- A sleeping handler wakes up before its deadline. -/
theorem handle_poll {index : Nat} {poll : Poll} (wired : t.Wired) (quiet : QuietPolls t.server)
    (ships : t.Ships) (found : t.server.pool.get sid = some r)
    (queued : (t.server.pool.objects r).txQ ≠ []) (asleep : t.server.polls[index]? = some (q, poll))
    (early : t.time < poll.waitDeadline) :
    ∃ later response, t.step (.resume index t.time t.time) = some later ∧
      Handled sid r q t later response := by
  have member := List.mem_of_getElem? asleep
  have idLength : poll.clientId.length = ClientIDLen := ships.polls _ member
  obtain ⟨after, collected, reacted, polls, served⟩ := poll_served (server_own wired) ships.queues
    found queued asleep (quiet _ member) early
  have room := ships.room
  have response := served_response served queued idLength (by omega)
  refine ⟨{ t with
    server := after
    responses := t.responses ++ [⟨q, collected⟩] }, ⟨q, collected⟩, ?_, ?_⟩
  · simp only [Tunnel.step, Tunnel.serve, reacted, Option.map_some, max_self, Option.bind_some,
      response, Option.toList_some]
  · refine ⟨rfl, rfl, rfl, served.front, served.get, served.tx,
      ⟨served.queues, ships.posts, ?_, ?_⟩, ?_⟩
    · dsimp only
      rw [polls]
      exact fun entry listed => ships.polls entry (List.mem_of_mem_eraseIdx listed)
    · have sessions := served.sessions
      dsimp only
      omega
    · rintro other different (waiting | ⟨entry, listed, same, before⟩)
      · exact .inl waiting
      · refine .inr ⟨entry, ?_, same, before⟩
        dsimp only
        rw [polls]
        apply mem_of_erased asleep listed
        rintro rfl
        exact different same.symm

theorem handle_waiting (wired : t.Wired) (quiet : QuietPolls t.server) (ships : t.Ships)
    (found : t.server.pool.get sid = some r) (queued : (t.server.pool.objects r).txQ ≠ [])
    (waiting : AtServer t q) :
    ∃ action later response, Unprompted t action ∧ t.step action = some later ∧
      Handled sid r q t later response := by
  rcases waiting with ⟨post, member, rfl⟩ | ⟨⟨request, poll⟩, member, same, early⟩
  · obtain ⟨index, inFlight⟩ := List.getElem?_of_mem member
    obtain ⟨later, response, stepped, handled⟩ :=
      handle_post wired ships found queued inFlight
    exact ⟨.arrive index false t.time t.time t.time, later, response,
      ⟨rfl, le_refl _, le_refl _, le_refl _⟩, stepped, handled⟩
  · obtain ⟨index, asleep⟩ := List.getElem?_of_mem member
    cases same
    obtain ⟨later, response, stepped, handled⟩ :=
      handle_poll wired quiet ships found queued asleep early
    exact ⟨.resume index t.time t.time, later, response, ⟨le_refl _, le_refl _⟩, stepped, handled⟩

end Handle

section HandOver

variable {sid : Bytes} {s q : Nat}

/-- The worker that waits takes the answer. -/
theorem awaited_answer {client : Client} (awaits : client.Awaits q) (frames : List Frame)
    (found : client.pool.get sid = some s) :
    ∃ worker after w, client.workers[worker]? = some w ∧ w.phase.request = some q ∧
      client.answered worker (.frames frames 0) 0 0 0 = some after ∧
      after.pool.get sid = some s ∧
      (after.pool.objects s).rxQ = (client.pool.objects s).rxQ ++ sessionFrames sid frames ∧
      ∀ other ≠ q, client.Awaits other → after.Awaits other := by
  obtain ⟨w, member, posting, known⟩ := awaits
  obtain ⟨worker, slot⟩ := List.getElem?_of_mem member
  have endpoint := List.getElem?_eq_getElem known
  cases phase : w.phase with
  | posting request posted =>
      have same : request = q := by
        rw [phase] at posting
        exact Option.some.inj posting
      have taken : client.answered worker (.frames frames 0) 0 0 0 =
          some { client with
            pool := (takeAnswer client.pool ((client.endpoints[w.endpoint]).recordPost 0 0) posted
              0 (.frames frames 0)).pool
            endpoints := client.endpoints.set w.endpoint
              (takeAnswer client.pool ((client.endpoints[w.endpoint]).recordPost 0 0) posted
                0 (.frames frames 0)).ep
            workers := client.workers.set worker { w with phase := .head } } := by
        simp only [Client.answered, slot, phase, endpoint]
        rfl
      obtain ⟨present, received, _⟩ := @dispatch_response_session client.pool sid 0 frames s found
      refine ⟨worker, _, w, slot, posting, taken, present, received, ?_⟩
      rintro other different ⟨v, listed, waits, bound⟩
      refine ⟨v, ?_, waits, ?_⟩
      · have away : v ≠ w := by
          rintro rfl
          rw [posting] at waits
          exact different (Option.some.inj waits).symm
        obtain ⟨place, here⟩ := List.getElem?_of_mem listed
        have apart : worker ≠ place := by
          rintro rfl
          rw [slot] at here
          exact away (Option.some.inj here).symm
        exact List.mem_of_getElem? ((List.getElem?_set_ne apart).trans here)
      · dsimp only
        rw [List.length_set]
        exact bound
  | head | waiting | cooling | ended =>
      rw [phase] at posting
      cases posting

/-- The last response in flight goes to the worker that waits for it. -/
theorem hand_over {t : Tunnel} {c : Nat} {client : Client} {earlier : List Response}
    {response : Response} (responses : t.responses = earlier ++ [response])
    (present : t.clients[c]? = some client) (found : client.pool.get sid = some s)
    (awaits : client.Awaits response.request) :
    ∃ action later after, Unprompted t action ∧ t.step action = some later ∧
      later = { t with clients := t.clients.set c after, responses := earlier } ∧
      after.pool.get sid = some s ∧
      (after.pool.objects s).rxQ =
        (client.pool.objects s).rxQ ++ sessionFrames sid response.frames ∧
      ∀ other ≠ response.request, client.Awaits other → after.Awaits other := by
  obtain ⟨worker, after, w, slot, posting, taken, still, received, others⟩ :=
    awaited_answer awaits response.frames found
  have last : t.responses[earlier.length]? = some response := by
    rw [responses]
    simp
  have left : t.responses.eraseIdx earlier.length = earlier := by
    rw [responses]
    simp [List.eraseIdx_append]
  refine ⟨.deliver earlier.length false c worker 0 0 0 0, _, after, ⟨rfl, ?_⟩, ?_, rfl, still,
    received, others⟩
  · intro other isLast home isHome v isWorker
    rw [last] at isLast
    rw [present] at isHome
    cases isLast
    cases isHome
    rw [slot] at isWorker
    cases isWorker
    exact posting
  · simp only [Tunnel.step, last, present, taken, Option.map_some, leftInFlight,
      Bool.false_eq_true, if_false, left]

end HandOver

end Astrix
