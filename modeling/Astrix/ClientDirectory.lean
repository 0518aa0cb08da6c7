import Mathlib.Data.Finset.Card
import Astrix.BatchSizes
import Astrix.FailedPost
import Astrix.Library.KeyDirectory
import Astrix.QueueSteps

/-!
# The sessions a client knows

`VirtualConn.open` puts a session into the client's pool and nothing of the
connection takes it out again: neither a FIN nor `close`, and the client never
calls `cleanup_expired`. A session leaves only when a batch that carried its SYN
fails with a status other than 302 and 429. The order of the pool, by which the
workers share the sessions, is the order of the first openings.
-/

namespace Astrix

open PyRuntime SessionPool

set_option autoImplicit false

section Keys

theorem get_or_create_keys (pool : SessionPool) (sid : Bytes) (flags : Nat) (target : Text)
    (now : ℚ) :
    (pool.getOrCreate sid flags target now).1.sessions.keys = enter pool.sessions.keys sid := by
  rcases get_or_create_cases pool sid flags target now with ⟨ref, found, same⟩ | ⟨missing, made⟩
  · have known : sid ∈ pool.sessions.keys := by
      by_contra absent
      cases found.symm.trans ((OrderedDict.get_eq_none_iff pool.sessions sid).mpr absent)
    rw [same, enter, if_pos known]
  · rw [made, enter, if_neg (fresh_key missing)]
    exact OrderedDict.insert_new_keys pool.sessions sid pool.fresh (fresh_key missing)

theorem drop_failed_keys (pool : SessionPool) (frames : List Frame) :
    (dropFailed pool frames).sessions.keys =
      pool.sessions.keys.filter fun sid => sid ∉ failedSids frames := by
  have all : ∀ (sids : List Bytes) (start : SessionPool),
      (sids.foldl SessionPool.remove start).sessions.keys =
        start.sessions.keys.filter fun sid => sid ∉ sids := by
    intro sids
    induction sids with
    | nil => exact fun start => (List.filter_eq_self.mpr fun _ _ => rfl).symm
    | cons first rest ih =>
        intro start
        rw [List.foldl_cons, ih, SessionPool.remove]
        dsimp only
        rw [OrderedDict.erase_keys, List.filter_filter]
        apply List.filter_congr
        intro sid _
        by_cases here : sid = first <;> simp [here]
  exact all _ pool

end Keys

/-- The id under which an event opens a session. -/
def ClientEvent.opened : ClientEvent → Option Bytes
  | .act action => action.opens
  | .answered _ _ _ _ _ => none

/-- The status is one for which `_worker_loop` drops the sessions of its SYNs. -/
def DropsSyns (status : Nat) : Prop := ¬ (status = 302 ∨ status = 429)

instance (status : Nat) : Decidable (DropsSyns status) := inferInstanceAs (Decidable (¬ _))

def WorkerPhase.posted : WorkerPhase → List Frame
  | .posting _ frames => frames
  | _ => []

/-- The sessions that an event drops. -/
def RunningClient.dropped (state : RunningClient) : ClientEvent → List Bytes
  | .answered index (.failed status) _ _ _ =>
      if DropsSyns status then
        ((state.client.workers[index]?).toList.flatMap fun w => failedSids w.phase.posted)
      else []
  | _ => []

section Steps

variable {state later : RunningClient} {event : ClientEvent} {sid : Bytes} {ref : Nat}

/-- Only `open_conn` makes a session. -/
theorem react_frame {before after : Client} {request : Nat} {action : ClientAction}
    {sent : Option Post} (reacted : before.react request action = some (after, sent))
    (opensNone : action.opens = none) :
    after.pool.sessions = before.pool.sessions ∧ after.pool.fresh = before.pool.fresh := by
  cases Client.react_reacted reacted with
  | opened => cases opensNone
  | acted index act conn conn' effect found acted pool conns =>
      rw [pool]
      cases effect <;> exact ⟨rfl, rfl⟩
  | idle _ call called _ pool | posted _ call called _ _ pool =>
      have untouched := untouched_drain_all before.pool call.batchSize call.workerId call.now
      rw [pool]
      exact ⟨untouched.sessions, untouched.fresh⟩
  | wrote _ _ _ _ _ _ pool | still _ pool =>
      rw [pool]
      exact ⟨rfl, rfl⟩

theorem react_keys {before after : Client} {request : Nat} {action : ClientAction}
    {sent : Option Post} (reacted : before.react request action = some (after, sent)) :
    after.pool.sessions.keys =
      action.opens.toList.foldl enter before.pool.sessions.keys := by
  cases opens : action.opens with
  | none => rw [(react_frame reacted opens).1, Option.toList_none, List.foldl_nil]
  | some sid =>
      cases action with
      | openConn other target now =>
          cases opens
          cases reacted
          exact get_or_create_keys before.pool sid FlagSYN target now
      | _ => cases opens

/-- What an answer drops of the pool. -/
theorem answered_pool {index : Nat} {answer : Answer} {sent : Nat} {rttMs now : ℚ}
    {after : Client} (taken : state.client.answered index answer sent rttMs now = some after)
    (event : ClientEvent) (same : event = .answered index answer sent rttMs now) :
    after.pool.sessions.keys =
        state.client.pool.sessions.keys.filter (fun sid => sid ∉ state.dropped event) ∧
      ∀ sid, sid ∉ state.dropped event → after.pool.get sid = state.client.pool.get sid := by
  subst same
  obtain ⟨w, request, frames, ep, found, posting, rfl⟩ := Client.answered_cases taken
  have kept : ∀ {pool : SessionPool}, pool.sessions = state.client.pool.sessions →
      state.dropped (.answered index answer sent rttMs now) = [] →
        pool.sessions.keys = state.client.pool.sessions.keys.filter (fun sid =>
            sid ∉ state.dropped (.answered index answer sent rttMs now)) ∧
          ∀ sid, sid ∉ state.dropped (.answered index answer sent rttMs now) →
            pool.get sid = state.client.pool.get sid := by
    intro pool sessions none
    rw [none, sessions]
    refine ⟨(List.filter_eq_self.mpr fun _ _ => rfl).symm, fun sid _ => ?_⟩
    rw [SessionPool.get, sessions]
    rfl
  dsimp only
  cases answer with
  | frames respFrames bodyLength =>
      exact kept (dispatch_response_sessions now respFrames state.client.pool) rfl
  | emptyBody | unreadable error => exact kept rfl rfl
  | failed status =>
      rw [takeAnswer, handleFailure]
      split_ifs with rateLimited
      · refine kept rfl ?_
        rw [RunningClient.dropped, if_neg fun drops : DropsSyns status => drops rateLimited]
      · have dropped : state.dropped (.answered index (.failed status) sent rttMs now) =
            failedSids frames := by
          rw [RunningClient.dropped, if_pos (show DropsSyns status from rateLimited), found]
          simp [posting, WorkerPhase.posted]
        rw [dropped]
        refine ⟨drop_failed_keys state.client.pool frames, fun sid stays => ?_⟩
        dsimp only
        rw [drop_failed_get, if_neg stays]

/-- What an event does to the order of the pool. -/
theorem step_keys (stepped : state.step event = some later) :
    later.client.pool.sessions.keys =
      (event.opened.toList.foldl enter state.client.pool.sessions.keys).filter
        fun sid => sid ∉ state.dropped event := by
  rcases client_step_cases stepped with ⟨action, sent, rfl, reacted⟩ |
    ⟨index, answer, sent, rttMs, now, rfl, taken⟩
  · rw [react_keys reacted]
    exact (List.filter_eq_self.mpr fun _ _ => rfl).symm
  · exact (answered_pool taken _ rfl).1

/-- A session that is not dropped keeps its object. -/
theorem step_get (found : state.client.pool.get sid = some ref)
    (kept : sid ∉ state.dropped event) (stepped : state.step event = some later) :
    later.client.pool.get sid = some ref := by
  rcases client_step_cases stepped with ⟨action, sent, rfl, reacted⟩ |
    ⟨index, answer, sent, rttMs, now, rfl, taken⟩
  · cases opens : action.opens with
    | none =>
        rw [SessionPool.get, (react_frame reacted opens).1]
        exact found
    | some other =>
        cases action with
        | openConn sid' target now =>
            have opened : later.client.pool.get sid =
                (state.client.pool.getOrCreate sid' FlagSYN target now).1.get sid :=
              (congrArg (fun result => result.1.pool.get sid) (Option.some.inj reacted)).symm
            rw [opened]
            rcases get_or_create_cases state.client.pool sid' FlagSYN target now with
              ⟨known, _, same⟩ | ⟨missing, made⟩
            · rw [same]
              exact found
            · have different : sid ≠ sid' := by
                intro same
                rw [same, missing] at found
                cases found
              rw [made]
              refine Eq.trans ?_ found
              exact OrderedDict.get_insert_new_of_ne _ _ _ _ (fresh_key missing) different
        | _ => cases opens
  · rw [(answered_pool taken _ rfl).2 sid kept]
    exact found

end Steps

/-- No answer of the run drops a session. -/
def DropsNothing (state : RunningClient) (event : ClientEvent) : Prop := state.dropped event = []

instance (state : RunningClient) (event : ClientEvent) : Decidable (DropsNothing state event) :=
  inferInstanceAs (Decidable (_ = _))

section Runs

variable {clientId : Bytes} {endpoints : Nat} {history : List ClientEvent} {state : RunningClient}

theorem opened_keys
    (run : clientMachine.Run DropsNothing (RunningClient.start clientId endpoints) history state) :
    state.client.pool.sessions.keys = firsts (history.filterMap ClientEvent.opened) := by
  apply @StepMachine.Run.invariant_with_history _ _ _ _ _ _ _ (fun past reached =>
    reached.client.pool.sessions.keys = firsts (past.filterMap ClientEvent.opened)) run
  · rfl
  · intro past before event after held none stepped
    have all : after.client.pool.sessions.keys =
        event.opened.toList.foldl enter before.client.pool.sessions.keys := by
      rw [step_keys stepped, none]
      exact List.filter_eq_self.mpr fun _ _ => rfl
    rw [all, held, List.filterMap_append]
    cases opened : event.opened with
    | none => simp [opened]
    | some sid =>
        have here : [event].filterMap ClientEvent.opened = [sid] := by simp [opened]
        rw [here, firsts_append]
        rfl

/-- In every run in which no SYN batch fails the pool holds all sessions that were
ever opened, in the order of their first openings, whatever their connections
did since. -/
theorem opened_sessions_stay
    (run : clientMachine.Run DropsNothing (RunningClient.start clientId endpoints) history state) :
    state.client.pool.sessions.keys = firsts (history.filterMap ClientEvent.opened) ∧
      state.client.pool.sessionCount =
        (history.filterMap ClientEvent.opened).toFinset.card := by
  have keys := opened_keys run
  refine ⟨keys, ?_⟩
  have count : state.client.pool.sessionCount = state.client.pool.sessions.keys.length :=
    (List.length_map ..).symm
  rw [count, keys, firsts, List.length_reverse, ← List.card_toFinset, List.toFinset_reverse]

end Runs

/-- Two connections; the SYN of the first is answered with 429 and its SOCKS client
goes away; the second id is opened once more. -/
def closedSessions : List ClientEvent :=
  [.act (.openConn firstSid [97, 58, 49] 0), opens 1, .act (.work 0 0),
    .answered 0 (.failed 429) 100 50 0, .act (.conn 0 .transportLost), opens 1]

theorem closed_sessions_stay : ∃ state : RunningClient,
    clientMachine.Run DropsNothing freshClient closedSessions state ∧
      state.client.pool.sessions.keys = [firstSid, 1 :: List.replicate 15 0] := by
  obtain ⟨state, run, _⟩ : ∃ state,
      clientMachine.Run DropsNothing freshClient closedSessions state ∧ true = true :=
    StepMachine.run_of_exec_any _ (by decide +kernel)
  exact ⟨state, run, (opened_sessions_stay run).1.trans (by decide)⟩

end Astrix
