import Astrix.ClientDirectory
import Astrix.IdleExpiry

/-!
# The sessions a server knows

A SYN puts a session into the server's pool and an RST takes it out. Nothing else
does: a FIN, the end of the upstream connection and an answered request leave it,
and collections are never due unless a scan takes 22 seconds. The client sends no
RST, so a server keeps every session that was ever opened.
-/

namespace Astrix

open PyRuntime SessionPool

set_option autoImplicit false

/-- What the dispatch of a frame does with the ids of the pool. -/
def Frame.note (f : Frame) : Option (KeyNote Bytes) :=
  if f.hasFlag FlagSYN then some (.enters f.sessionId)
  else if f.isRst then some (.leaves f.sessionId)
  else none

def ServerEvent.frames : ServerEvent → List Frame
  | .act (.post _ _ frames _ _ _) => frames
  | .act (.resume _ _ _) | .act (.worker _ _) | .pass _ => []

/-- The notes of all batches, in the order in which they are handled. -/
def sessionNotes (history : List ServerEvent) : List (KeyNote Bytes) :=
  (history.flatMap ServerEvent.frames).filterMap Frame.note

section Steps

variable {locked : Bool} {now : ℚ}

theorem dispatch_frame_keys (state : Dispatch) (f : Frame) :
    (dispatchFrame locked now state f).pool.sessions.keys =
      f.note.toList.foldl KeyNote.apply state.pool.sessions.keys := by
  have created := get_or_create_keys state.pool f.sessionId f.flags f.target now
  rw [dispatchFrame, Frame.note]
  by_cases syn : f.hasFlag FlagSYN = true
  · rw [if_pos syn, if_pos syn]
    split_ifs <;> exact created
  · rw [if_neg syn, if_neg syn]
    by_cases rst : f.isRst = true
    · have branch := rst
      simp only [Frame.isRst, Bool.and_eq_true, Bool.not_eq_true', ← Bool.not_eq_true] at branch
      rw [if_pos rst, if_neg branch.1.1.2, if_neg branch.1.2, if_pos branch.2]
      exact OrderedDict.erase_keys state.pool.sessions f.sessionId
    · rw [if_neg rst]
      split_ifs with fin ack reset
      · cases state.pool.get f.sessionId <;> rfl
      · cases state.pool.get f.sessionId <;> rfl
      · exact absurd (by simp [Frame.isRst, syn, fin, ack, reset]) rst
      · cases state.pool.get f.sessionId <;> rfl
      · rfl

theorem dispatch_frames_keys (frames : List Frame) (pool : SessionPool) :
    (dispatchFrames locked now pool frames).pool.sessions.keys =
      (frames.filterMap Frame.note).foldl KeyNote.apply pool.sessions.keys := by
  have all : ∀ (rest : List Frame) (state : Dispatch),
      (rest.foldl (dispatchFrame locked now) state).pool.sessions.keys =
        (rest.filterMap Frame.note).foldl KeyNote.apply state.pool.sessions.keys := by
    intro rest
    induction rest with
    | nil => exact fun _ => rfl
    | cons f rest ih =>
        intro state
        rw [List.foldl_cons, ih, dispatch_frame_keys]
        cases noted : f.note with
        | none => rw [List.filterMap_cons_none noted, Option.toList_none, List.foldl_nil]
        | some note =>
            rw [List.filterMap_cons_some noted, Option.toList_some, List.foldl_cons,
              List.foldl_cons, List.foldl_nil]
  exact all frames _

theorem upstream_effect_dict (pool : SessionPool) (session : Nat) (effect : UpstreamEffect) :
    (effect.apply pool session).sessions = pool.sessions := by
  cases effect <;> rfl

variable {log later : ClockedServer} {event : ServerEvent}

/-- An event changes the ids of the pool by the frames of its batch alone. -/
theorem directory_step (never : NeverCollects log) (stepped : log.step event = some later) :
    later.server.pool.sessions.keys =
      (event.frames.filterMap Frame.note).foldl KeyNote.apply log.server.pool.sessions.keys := by
  obtain ⟨_, server, wakes, rfl, _, kind⟩ := clocked_step stepped
  have after : (log.after event server wakes).server = server := rfl
  rw [after]
  rcases kind with ⟨action, reply, rfl, reacted⟩ | ⟨now, rfl, rfl⟩
  · cases ExitServer.react_moved reacted with
    | posted request clientId frames now atCheck afterScan pool =>
        rw [pool, ExitServer.firstRound, poll_round_sessions]
        exact dispatch_frames_keys frames log.server.pool
    | resumed index atCheck afterScan request poll found pool =>
        have idle := (never.polls _ (List.mem_of_getElem? found)).2
        have same : (collectGarbage log.server.pool poll).1 = log.server.pool := by
          rw [collectGarbage]
          exact congrArg Prod.fst (if_neg idle)
        rw [pool, resumePoll, poll_round_sessions, same]
        rfl
    | acted index act w w' effect found acted pool =>
        rw [pool, upstream_effect_dict]
        rfl
  · rfl

end Steps

theorem notes_without_rst {frames : List Frame} (noRst : ∀ f ∈ frames, f.isRst = false) :
    frames.filterMap Frame.note =
      ((frames.filter fun f => f.hasFlag FlagSYN).map Frame.sessionId).map KeyNote.enters := by
  induction frames with
  | nil => rfl
  | cons f rest ih =>
      obtain ⟨first, others⟩ := List.forall_mem_cons.mp noRst
      by_cases syn : f.hasFlag FlagSYN = true
      · have noted : f.note = some (.enters f.sessionId) := if_pos syn
        rw [List.filterMap_cons_some noted, List.filter_cons, if_pos syn, List.map_cons,
          List.map_cons, ih others]
      · have noted : f.note = none := by
          rw [Frame.note, if_neg syn, first]
          rfl
        rw [List.filterMap_cons_none noted, List.filter_cons, if_neg syn, ih others]

/-- In every run whose scans take less than 22 seconds, a session is in the pool
exactly when the last SYN or RST for it was a SYN, whatever became of it; and if no
RST is sent, the pool holds all that were ever opened, in their order. -/
theorem sessions_never_expire {history : List ServerEvent} {log : ClockedServer}
    (run : clockedServer.Run ClockedServer.QuickRounds ClockedServer.start history log) :
    (∀ sid, sid ∈ log.server.pool.sessions.keys ↔ LastEnters sid (sessionNotes history)) ∧
      ((∀ f ∈ history.flatMap ServerEvent.frames, f.isRst = false) →
        log.server.pool.sessions.keys =
          firsts (((history.flatMap ServerEvent.frames).filter fun f => f.hasFlag FlagSYN).map
            Frame.sessionId)) := by
  obtain ⟨_, keys⟩ : NeverCollects log ∧
      log.server.pool.sessions.keys = directory (sessionNotes history) := by
    apply @StepMachine.Run.invariant_with_history _ _ _ _ _ _ _ (fun past reached =>
      NeverCollects reached ∧
        reached.server.pool.sessions.keys = directory (sessionNotes past)) run
    · exact ⟨⟨List.forall_mem_nil _, rfl⟩, rfl⟩
    · intro past before event after held quick stepped
      refine ⟨never_collects_step held.1 quick stepped, ?_⟩
      rw [directory_step held.1 stepped, held.2, sessionNotes, sessionNotes, List.flatMap_append,
        List.filterMap_append, directory_append]
      simp only [List.flatMap_cons, List.flatMap_nil, List.append_nil]
  constructor
  · intro sid
    rw [keys]
    exact mem_directory
  · intro noRst
    rw [keys, sessionNotes, notes_without_rst noRst, directory_enters]

instance (log : ClockedServer) (event : ServerEvent) : Decidable (log.QuickRounds event) :=
  match event with
  | .act action => inferInstanceAs (Decidable (∀ round ∈ action.round, _))
  | .pass _ => isTrue trivial

/-- One poll sleeps over its window while its session is opened, reset and opened
again, and the worker of the first opening ends. -/
def openedAgain : List ServerEvent :=
  [.act (.post 0 zeroId [resentSyn] 0 0 0), .act (.worker 0 .begin), .act (.worker 0 .dialRaised),
    .act (.post 1 zeroId [{ resentSyn with flags := FlagRST }, resentSyn] 1 1 1),
    .act (.resume 0 8 8)]

theorem opened_again_stays : ∃ log : ClockedServer,
    clockedServer.Run ClockedServer.QuickRounds ClockedServer.start openedAgain log ∧
      resentSyn.sessionId ∈ log.server.pool.sessions.keys := by
  obtain ⟨log, run, _⟩ : ∃ log,
      clockedServer.Run ClockedServer.QuickRounds ClockedServer.start openedAgain log ∧
        true = true := StepMachine.run_of_exec_any _ (by decide +kernel)
  have last : LastEnters resentSyn.sessionId (sessionNotes openedAgain) := by
    refine ⟨[.enters resentSyn.sessionId, .leaves resentSyn.sessionId], [], ?_,
      List.forall_mem_nil _⟩
    decide +kernel
  exact ⟨log, run, ((sessions_never_expire run).1 _).mpr last⟩

end Astrix
