import Astrix.Library.StepMachine
import Astrix.ResponseReadable

/-!
# Runs of the server

The server with every batch it handled and every reply it gave, under any
order of requests, wake-ups and acts of upstream workers. Along a run every
queued frame carries its session's id, every session was asked for by a SYN
frame, and the transmit queues hold server-made frames only.
-/

namespace Astrix

open PyRuntime SessionPool

set_option autoImplicit false

structure ServerLog where
  server : ExitServer
  handled : List (Bytes × List Frame)
  replies : List Reply

def ServerLog.start : ServerLog where
  server := ExitServer.new
  handled := []
  replies := []

/-- The batch that an action delivers. -/
def ServerAction.batches : ServerAction → List (Bytes × List Frame)
  | .post _ clientId frames _ _ _ => [(clientId, frames)]
  | _ => []

def ServerLog.step (log : ServerLog) (action : ServerAction) : Option ServerLog :=
  (log.server.react action).map fun (server, reply) =>
    { server := server
      handled := log.handled ++ action.batches
      replies := log.replies ++ reply.toList }

def serverMachine : StepMachine ServerLog ServerAction := ⟨ServerLog.step⟩

/-- A SYN for the session came in a batch with this client id. -/
def SynArrived (handled : List (Bytes × List Frame)) (clientId sid : Bytes) : Prop :=
  ∃ batch ∈ handled, batch.1 = clientId ∧
    ∃ f ∈ batch.2, f.sessionId = sid ∧ f.hasFlag FlagSYN = true

instance (handled : List (Bytes × List Frame)) (clientId sid : Bytes) :
    Decidable (SynArrived handled clientId sid) :=
  inferInstanceAs (Decidable (∃ batch ∈ handled, batch.1 = clientId ∧
    ∃ f ∈ batch.2, f.sessionId = sid ∧ f.hasFlag FlagSYN = true))

def Asked (handled : List (Bytes × List Frame)) (sid : Bytes) : Prop :=
  ∃ clientId, SynArrived handled clientId sid

theorem Asked.grow {handled : List (Bytes × List Frame)} {sid : Bytes}
    (asked : Asked handled sid) (more : List (Bytes × List Frame)) :
    Asked (handled ++ more) sid := by
  obtain ⟨clientId, batch, member, rest⟩ := asked
  exact ⟨clientId, batch, List.mem_append_left more member, rest⟩

/-- Queued frames carry their session's id, and that id was asked for. -/
def OwnedAndAsked (handled : List (Bytes × List Frame)) (sid : Bytes) (frame : Frame) : Prop :=
  frame.sessionId = sid ∧ Asked handled sid

/-- Client ids of requests that are open or answered came with a batch. -/
def Came (handled : List (Bytes × List Frame)) (clientId : Bytes) : Prop :=
  ∃ batch ∈ handled, batch.1 = clientId

structure Accounted (log : ServerLog) : Prop where
  queues : log.server.Holds (OwnedAndAsked log.handled) AnyFrame
  workers : log.server.WorkersOwn (Asked log.handled)
  polls : ∀ entry ∈ log.server.polls, Came log.handled entry.2.clientId
  replies : ∀ reply ∈ log.replies, Came log.handled reply.clientId ∧
    ∀ frame ∈ reply.frames, Asked log.handled frame.sessionId

theorem accounted_start : Accounted ServerLog.start where
  queues := ⟨SessionPool.new_holds, nofun⟩
  workers := nofun
  polls := nofun
  replies := nofun

theorem poll_round_client {pool : SessionPool} {poll later : Poll} {atCheck afterScan : ℚ}
    {sleepFor : ℚ} (asleep : (pollRound pool poll atCheck afterScan).2 = .asleep later sleepFor) :
    later.clientId = poll.clientId := by
  simp only [pollRound] at asleep
  split_ifs at asleep
  cases asleep
  rfl

/-- A request keeps its client id through the poll to its reply. -/
theorem settle_client {server later : ExitServer} {request : Nat} {clientId : Bytes}
    {result : SessionPool × PollOutcome} {reply : Option Reply} {P : Bytes → Prop}
    (same : server.settle request clientId result = (later, reply)) (good : P clientId)
    (asleep : ∀ poll sleepFor, result.2 = .asleep poll sleepFor → poll.clientId = clientId)
    (polls : ∀ entry ∈ server.polls, P entry.2.clientId) :
    (∀ entry ∈ later.polls, P entry.2.clientId) ∧ ∀ answer ∈ reply, P answer.clientId := by
  obtain ⟨pool, outcome⟩ := result
  cases outcome with
  | answered frames =>
      cases same
      refine ⟨polls, fun answer replied => ?_⟩
      cases replied
      exact good
  | asleep poll sleepFor =>
      cases same
      refine ⟨fun entry member => ?_, nofun⟩
      rcases List.mem_append.mp member with old | new
      · exact polls entry old
      · rw [List.mem_singleton.mp new]
        exact (asleep poll sleepFor rfl).symm ▸ good

theorem react_clients {server later : ExitServer} {action : ServerAction} {reply : Option Reply}
    {P : Bytes → Prop} (polls : ∀ entry ∈ server.polls, P entry.2.clientId)
    (posted : ∀ batch ∈ action.batches, P batch.1)
    (reacted : server.react action = some (later, reply)) :
    (∀ entry ∈ later.polls, P entry.2.clientId) ∧ ∀ answer ∈ reply, P answer.clientId := by
  rcases ExitServer.react_cases reacted with
    ⟨request, clientId, frames, now, atCheck, afterScan, rfl, same⟩ |
    ⟨index, atCheck, afterScan, request, poll, rfl, found, same⟩ |
    ⟨index, act, w, w', effect, rfl, found, acted, rfl, rfl⟩
  · exact settle_client same (posted _ List.mem_cons_self)
      (fun _ _ asleep => poll_round_client asleep) polls
  · refine settle_client same (polls _ (List.mem_of_getElem? found)) (fun _ _ asleep => ?_)
      fun entry kept => polls entry (List.mem_of_mem_eraseIdx kept)
    have client : (collectGarbage server.pool poll).2.clientId = poll.clientId := by
      rw [collect_garbage_poll, after_gc_client]
    exact (poll_round_client asleep).trans client
  · exact ⟨polls, nofun⟩

theorem accounted_step {log later : ServerLog} {action : ServerAction}
    (accounted : Accounted log) (stepped : log.step action = some later) : Accounted later := by
  obtain ⟨⟨server, reply⟩, reacted, rfl⟩ := Option.map_eq_some_iff.mp stepped
  dsimp only
  have queues : log.server.Holds (OwnedAndAsked (log.handled ++ action.batches)) AnyFrame :=
    accounted.queues.weaken
    (fun sid frame owned => ⟨owned.1, owned.2.grow action.batches⟩) fun _ _ any => any
  have workers := accounted.workers.weaken fun sid asked => asked.grow action.batches
  have polls : ∀ entry ∈ log.server.polls,
      Came (log.handled ++ action.batches) entry.2.clientId := by
    intro entry member
    obtain ⟨batch, listed, same⟩ := accounted.polls entry member
    exact ⟨batch, List.mem_append_left _ listed, same⟩
  have posted : ∀ batch ∈ action.batches, Came (log.handled ++ action.batches) batch.1 :=
    fun batch member => ⟨batch, List.mem_append_right _ member, rfl⟩
  have synAsked : ∀ batch ∈ action.batches, ∀ f ∈ batch.2, f.hasFlag FlagSYN = true →
      Asked (log.handled ++ action.batches) f.sessionId :=
    fun batch member f listed syn =>
      ⟨batch.1, batch, List.mem_append_right _ member, rfl, f, listed, rfl, syn⟩
  have brings : log.server.Brings (OwnedAndAsked (log.handled ++ action.batches)) AnyFrame
      action := by
    cases action with
    | post request clientId frames now atCheck afterScan =>
        exact fun f member => ⟨trivial, fun syn =>
          ⟨rfl, synAsked _ List.mem_cons_self f member syn⟩⟩
    | resume index atCheck afterScan => trivial
    | worker index act =>
        intro w found w' effect acted
        have asked := (workers w (List.mem_of_getElem? found)).2
        cases (UpstreamWorker.act_acted acted).2 with
        | dialError | data | fin => exact ⟨rfl, asked⟩
        | silent | wake | skip | write => trivial
  obtain ⟨held, answers⟩ := queues.react
    (fun sid frame owned => owned.1.symm ▸ owned) brings reacted
  obtain ⟨laterPolls, answerIds⟩ := react_clients polls posted reacted
  refine ⟨held, ?_, laterPolls, fun answer member => ?_⟩
  · apply workers.react _ reacted
    rintro request clientId frames now atCheck afterScan rfl f member syn
    exact synAsked _ List.mem_cons_self f member syn
  · rcases List.mem_append.mp member with old | new
    · obtain ⟨⟨batch, listed, same⟩, asked⟩ := accounted.replies answer old
      exact ⟨⟨batch, List.mem_append_left _ listed, same⟩,
        fun frame shown => (asked frame shown).grow _⟩
    · have replied := Option.mem_toList.mp new
      exact ⟨answerIds answer replied, fun frame shown => (answers answer replied frame shown).2⟩

theorem run_accounted {history : List ServerAction} {log : ServerLog}
    (run : serverMachine.Run StepMachine.anyStep ServerLog.start history log) :
    Accounted log :=
  run.invariant accounted_start fun _ _ _ accounted _ stepped => accounted_step accounted stepped

/-- Frames as the batch decoder returns them. -/
def DecodedIds (handled : List (Bytes × List Frame)) : Prop :=
  ∀ batch ∈ handled, ∀ f ∈ batch.2, f.sessionId.length = SessionIDLen

theorem Asked.id_length {handled : List (Bytes × List Frame)} {sid : Bytes}
    (asked : Asked handled sid) (ids : DecodedIds handled) : sid.length = SessionIDLen := by
  obtain ⟨_, batch, member, _, f, listed, rfl, _⟩ := asked
  exact ids batch member f listed

/-- As long as the batches are decoded ones, the queues are server made. -/
structure MadeSoFar (log : ServerLog) : Prop where
  accounted : Accounted log
  queues : DecodedIds log.handled → log.server.Holds (fun _ frame => ServerMade frame) AnyFrame

theorem made_so_far_step {log later : ServerLog} {action : ServerAction}
    (before : MadeSoFar log) (stepped : log.step action = some later) : MadeSoFar later := by
  refine ⟨accounted_step before.accounted stepped, fun ids => ?_⟩
  obtain ⟨⟨server, reply⟩, reacted, rfl⟩ := Option.map_eq_some_iff.mp stepped
  dsimp only at ids ⊢
  have made := before.queues fun batch member => ids batch (List.mem_append_left _ member)
  have brings : log.server.Brings (fun _ frame => ServerMade frame) AnyFrame action := by
    cases action with
    | post request clientId frames now atCheck afterScan =>
        intro f member
        refine ⟨trivial, fun _ => busy_frame_made ?_⟩
        exact ids _ (List.mem_append_right _ List.mem_cons_self) f member
    | resume index atCheck afterScan => trivial
    | worker index act =>
        intro w found w' effect acted
        have asked := (before.accounted.workers w (List.mem_of_getElem? found)).2
        exact worker_effect_made acted ((asked.grow _).id_length ids) _
  exact (made.react (fun _ _ frameMade => frameMade) brings reacted).1

/-- In every run over decoded batches, the queues hold server-made frames. -/
theorem run_queues_made {history : List ServerAction} {log : ServerLog}
    (run : serverMachine.Run StepMachine.anyStep ServerLog.start history log)
    (ids : DecodedIds log.handled) : QueuesMade log.server.pool := by
  have start : MadeSoFar ServerLog.start :=
    ⟨accounted_start, fun _ => ⟨SessionPool.new_holds, nofun⟩⟩
  have final : MadeSoFar log :=
    run.invariant start fun _ _ _ before _ stepped => made_so_far_step before stepped
  exact (final.queues ids).pool

end Astrix
