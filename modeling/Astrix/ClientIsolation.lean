import Astrix.ServerRuns
import Astrix.VirtualConn

/-!
# Whose sessions a response may show

The code keeps no binding of a session to a client id: a reply holds frames of
sessions that some batch has asked for. All clients of one tunnel key derive
the same client id from it, and for them the two readings agree.
-/

namespace Astrix

open PyRuntime

set_option autoImplicit false

/-- In every run, each frame of a response belongs to a session whose SYN came
in some batch handled before; where all batches carry one client id, it came
under the client id of the response. -/
theorem response_shows_asked_sessions {history : List ServerAction} {log : ServerLog}
    (run : serverMachine.Run StepMachine.anyStep ServerLog.start history log)
    {reply : Reply} (given : reply ∈ log.replies) {frame : Frame} (shown : frame ∈ reply.frames) :
    (∃ clientId, SynArrived log.handled clientId frame.sessionId) ∧
      ((∀ batch ∈ log.handled, ∀ other ∈ log.handled, batch.1 = other.1) →
        SynArrived log.handled reply.clientId frame.sessionId) := by
  obtain ⟨⟨own, ownHandled, ownId⟩, asked⟩ := (run_accounted run).replies reply given
  obtain ⟨clientId, batch, handled, sameId, syn⟩ := asked frame shown
  refine ⟨⟨clientId, batch, handled, sameId, syn⟩, fun oneClient => ?_⟩
  exact ⟨batch, handled, (oneClient batch handled own ownHandled).trans ownId, syn⟩

def firstClient : Bytes := List.replicate ClientIDLen 1
def secondClient : Bytes := List.replicate ClientIDLen 2

/-- The first client opens a session; its poll is asleep when the first chunk
arrives from upstream. Then the second client opens one of its own. -/
def crossingHistory : List ServerAction :=
  [.post 0 firstClient [synFrame downloadSid [97]] 0 0 0,
    .worker 0 .begin,
    .worker 0 .dialed,
    .worker 0 (.read [1, 2, 3] 0),
    .post 1 secondClient [synFrame (List.replicate SessionIDLen 2) [98]] 0 0 0]

def crossingReply : Reply := ⟨1, secondClient, [upstreamDataFrame downloadSid 0 [1, 2, 3]]⟩

theorem crossing_run : ∃ log,
    serverMachine.Run StepMachine.anyStep ServerLog.start crossingHistory log ∧
      log.replies = [crossingReply] ∧
      log.handled = [(firstClient, [synFrame downloadSid [97]]),
        (secondClient, [synFrame (List.replicate SessionIDLen 2) [98]])] := by
  have executed : (serverMachine.exec StepMachine.anyStep ServerLog.start crossingHistory).map
      (fun log => (log.replies, log.handled)) =
      some ([crossingReply], [(firstClient, [synFrame downloadSid [97]]),
        (secondClient, [synFrame (List.replicate SessionIDLen 2) [98]])]) := by
    decide +kernel
  obtain ⟨log, ran, same⟩ := Option.map_eq_some_iff.mp executed
  obtain ⟨replies, handled⟩ := Prod.mk.inj same
  exact ⟨log, StepMachine.run_of_exec _ ran, replies, handled⟩

theorem other_client_is_shown_frame : ∃ log,
    serverMachine.Run StepMachine.anyStep ServerLog.start crossingHistory log ∧
      ∃ reply ∈ log.replies, ∃ frame ∈ reply.frames,
        ¬ SynArrived log.handled reply.clientId frame.sessionId := by
  obtain ⟨log, run, replies, handled⟩ := crossing_run
  refine ⟨log, run, ?_⟩
  rw [replies, handled]
  decide

theorem crossing_response_shows_asked_session : ∃ log : ServerLog,
    ∃ frame ∈ crossingReply.frames, crossingReply ∈ log.replies ∧
      (∃ clientId, SynArrived log.handled clientId frame.sessionId) ∧
        ((∀ batch ∈ log.handled, ∀ other ∈ log.handled, batch.1 = other.1) →
          SynArrived log.handled crossingReply.clientId frame.sessionId) := by
  obtain ⟨log, run, replies, _⟩ := crossing_run
  have given : crossingReply ∈ log.replies := by
    rw [replies]
    exact List.mem_cons_self
  exact ⟨log, _, List.mem_cons_self, given,
    response_shows_asked_sessions run given List.mem_cons_self⟩

end Astrix
