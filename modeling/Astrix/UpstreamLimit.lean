import Astrix.OneWorker

/-!
# The limit on upstream connections

The semaphore is made with `_MaxConcurrentUpstream` permits, and the dispatch
looks at `locked()`, but no task ever acquires it. So it is never locked, no SYN
is refused, and the workers that dial or are connected are limited only by the
SYNs that come.
-/

namespace Astrix

open PyRuntime SessionPool

set_option autoImplicit false

/-- The worker dials or is connected. -/
def UpstreamWorker.busy (w : UpstreamWorker) : Bool :=
  w.stage = .dialing ∨ w.stage = .connected

namespace ExitServer

def busyWorkers (server : ExitServer) : Nat := server.workers.countP UpstreamWorker.busy

def WithinLimit (server : ExitServer) : Prop := server.busyWorkers ≤ _MaxConcurrentUpstream

/-- Whatever batch comes next, a SYN of it that is answered with the busy reset
leaves no session in the pool. -/
def RefusesCleanly (server : ExitServer) : Prop :=
  ∀ frames now, ∀ f ∈ frames, f.hasFlag FlagSYN = true →
    busyFrame f.sessionId ∈ (server.accept frames now).2 →
      (server.accept frames now).1.pool.get f.sessionId = none

/-- The workers that have not returned and have a target to dial. -/
def outstanding (server : ExitServer) : Nat :=
  server.runningWhere fun names => names.2 ≠ []

/-- The SYN frames of a batch whose session, found or made, has a target. -/
def newDials (server : ExitServer) (frames : List Frame) (now : ℚ) : Nat :=
  (server.postedNames frames now).countP fun names => names.2 ≠ []

/-- With the workers that have not returned, the SYN frames of a batch are not
too many. -/
def SynsWithinLimit (server : ExitServer) : ServerAction → Prop
  | .post _ _ frames now _ _ =>
      server.outstanding + server.newDials frames now ≤ _MaxConcurrentUpstream
  | .resume _ _ _ => True
  | .worker _ _ => True

instance (server : ExitServer) (action : ServerAction) :
    Decidable (server.SynsWithinLimit action) :=
  match action with
  | .post _ _ frames now _ _ => inferInstanceAs (Decidable
      (server.outstanding + server.newDials frames now ≤ _MaxConcurrentUpstream))
  | .resume _ _ _ => isTrue trivial
  | .worker _ _ => isTrue trivial

end ExitServer

/-- The server goes on with what it has. -/
def ServerAction.NoPost : ServerAction → Prop
  | .post _ _ _ _ _ _ => False
  | .resume _ _ _ => True
  | .worker _ _ => True

open ExitServer

section Steps

variable {server later : ExitServer} {log : ServerLog}

/-- Only `begin` makes a worker busy, and only with a target to dial. -/
theorem act_busy {s : Session} {w w' : UpstreamWorker} {act : WorkerAct}
    {effect : UpstreamEffect} (acted : w.act s act = some (w', effect)) :
    (act = .begin ∧ w.stage = .starting ∧ (w'.busy = true ↔ s.target ≠ [])) ∨
      act ≠ .begin ∧ (w'.busy = true → w.busy = true) := by
  cases UpstreamWorker.act_cases acted with
  | noTarget stage target | begun stage target =>
      refine .inl ⟨rfl, stage, ?_⟩
      simp [UpstreamWorker.busy, target]
  | dialed stage | dialFailed _ _ _ stage | unencodable _ _ _ stage | dialRaised stage
  | read _ _ stage | readEnded _ stage | wake stage | pop _ _ stage | writeFailed stage
  | writerCancelled stage | finish stage =>
      refine .inr ⟨by simp, fun _ => ?_⟩
      simp [UpstreamWorker.busy, stage]

/-- Whoever dials has a target. -/
def DialsTargets (server : ExitServer) : Prop :=
  ∀ w ∈ server.workers, w.busy = true → (server.pool.objects w.session).target ≠ []

theorem dials_targets_step (owns : ∀ w ∈ server.workers, w.session < server.pool.fresh)
    (dials : DialsTargets server) {action : ServerAction} {reply : Option Reply}
    (reacted : server.react action = some (later, reply)) : DialsTargets later := by
  have kept : ∀ {pool : SessionPool}, server.pool.Extends pool → ∀ w ∈ server.workers,
      w.busy = true → (pool.objects w.session).target ≠ [] := by
    intro pool grown w member busy
    rw [grown.targets _ (owns w member)]
    exact dials w member busy
  intro v member
  cases react_moved reacted with
  | posted request clientId frames now atCheck afterScan pool workers =>
      have grown := (dispatch_frames_identity server.locked now server.pool frames).1.trans
        (extends_poll_round _ (startPoll clientId (server.accept frames now).2 now) atCheck
          afterScan)
      rw [workers] at member
      rw [pool]
      rcases List.mem_append.mp member with old | new
      · exact kept grown v old
      · obtain ⟨s, _, rfl⟩ := List.mem_map.mp new
        simp [UpstreamWorker.busy, spawnWorker]
  | resumed index atCheck afterScan request poll found pool workers =>
      rw [workers] at member
      rw [pool]
      exact kept (extends_resume_poll _ _ _ _) v member
  | acted index act w w' effect found acted pool workers =>
      have present := List.mem_of_getElem? found
      have grown := extends_effect server.pool w.session effect
      rw [workers] at member
      rw [pool]
      rcases List.mem_or_eq_of_mem_set member with old | rfl
      · exact kept grown v old
      · intro busy
        rw [(UpstreamWorker.act_acted acted).1]
        rcases act_busy acted with ⟨_, _, target⟩ | ⟨_, before⟩
        · rw [grown.targets _ (owns w present)]
          exact target.mp busy
        · exact kept grown w present (before busy)

/-- Those that dial or are connected have not returned. -/
theorem busy_le_outstanding (dials : DialsTargets server) :
    server.busyWorkers ≤ server.outstanding := by
  apply List.countP_mono_left
  intro w member busy
  have target := dials w member busy
  simp only [UpstreamWorker.busy, decide_eq_true_eq] at busy
  refine (UpstreamWorker.runs_where_iff _ _ _).mpr ⟨?_, decide_eq_true target⟩
  rcases busy with stage | stage <;> simp [stage]

/-- A batch adds its SYN frames to the outstanding workers, and no other step adds any. -/
theorem outstanding_react (running : Running log) {action : ServerAction} {reply : Option Reply}
    (reacted : log.server.react action = some (later, reply)) :
    (∃ request clientId frames now atCheck afterScan,
      action = .post request clientId frames now atCheck afterScan ∧
        later.outstanding = log.server.outstanding + log.server.newDials frames now) ∨
      action.NoPost ∧ later.outstanding ≤ log.server.outstanding := by
  rcases running_react running.owns running.unlocked reacted with
    ⟨request, clientId, frames, now, atCheck, afterScan, rfl, sums⟩ | ⟨other, fewer⟩
  · exact .inl ⟨request, clientId, frames, now, atCheck, afterScan, rfl, sums _⟩
  · refine .inr ⟨?_, fewer _⟩
    cases action with
    | post request clientId frames now atCheck afterScan => exact other _ _ _ _ _ _ rfl
    | resume index atCheck afterScan => trivial
    | worker index act => trivial

/-- With the semaphore unlocked, no SYN is refused. -/
theorem unlocked_refuses_cleanly (unlocked : server.locked = false) : server.RefusesCleanly := by
  intro frames now f _ _ refused
  have none : (server.accept frames now).2 = [] := by
    rw [ExitServer.accept, unlocked]
    apply (dispatch_refuses false now server.pool frames).mpr
    intro locked
    cases locked.1
  rw [none] at refused
  cases refused

/-- Were the semaphore taken, a refused SYN would leave its session behind. -/
theorem refusal_keeps_session (full : server.locked = true) {f : Frame}
    (syn : f.hasFlag FlagSYN = true) (now : ℚ) :
    busyFrame f.sessionId ∈ (server.accept [f] now).2 ∧
      ∃ s, (server.accept [f] now).1.pool.get f.sessionId = some s := by
  have step : dispatchFrames server.locked now server.pool [f] =
      { pool := (server.pool.getOrCreate f.sessionId f.flags f.target now).1.setSeq
          (server.pool.getOrCreate f.sessionId f.flags f.target now).2 (f.seq + 1)
        responseFrames := [busyFrame f.sessionId]
        spawned := [] } := by
    simp [dispatchFrames, dispatchFrame, full, syn]
  rw [ExitServer.accept, step]
  exact ⟨List.mem_singleton_self _, _, get_or_create_get _ _ _ _ _⟩

end Steps

/-- The invariant of the runs below. -/
structure LimitKept (log : ServerLog) : Prop where
  running : Running log
  dials : DialsTargets log.server
  within : log.server.outstanding ≤ _MaxConcurrentUpstream

theorem limit_kept_start : LimitKept ServerLog.start :=
  ⟨running_start, List.forall_mem_nil _, Nat.zero_le _⟩

theorem limit_kept_step {log later : ServerLog} {action : ServerAction} (kept : LimitKept log)
    (within : log.server.SynsWithinLimit action) (stepped : log.step action = some later) :
    LimitKept later := by
  have running := running_step kept.running stepped
  obtain ⟨⟨server, reply⟩, reacted, rfl⟩ := Option.map_eq_some_iff.mp stepped
  refine ⟨running, dials_targets_step kept.running.owns kept.dials reacted, ?_⟩
  rcases outstanding_react kept.running reacted with
    ⟨request, clientId, frames, now, atCheck, afterScan, rfl, sum⟩ | ⟨_, fewer⟩
  · exact sum.trans_le within
  · exact fewer.trans kept.within

theorem limit_kept_quiet {history : List ServerAction} {log later : ServerLog}
    (kept : LimitKept log)
    (run : serverMachine.Run (fun _ action => action.NoPost) log history later) :
    LimitKept later := by
  refine run.invariant kept fun state action next before quiet stepped =>
    limit_kept_step before ?_ stepped
  cases action with
  | post request clientId frames now atCheck afterScan => exact quiet.elim
  | resume index atCheck afterScan => trivial
  | worker index act => trivial

section Begin

variable {log : ServerLog} {begun rest : List UpstreamWorker} {w : UpstreamWorker}

/-- The worker starts to dial. -/
def UpstreamWorker.nowDialing (w : UpstreamWorker) : UpstreamWorker := { w with stage := .dialing }

/-- An outstanding worker that does not wait to begin is busy. -/
theorem busy_of_begun {pool : SessionPool}
    (runs : w.runsWhere pool (fun names => names.2 ≠ []) = true)
    (begun : w.stage ≠ .starting) : w.busy = true := by
  rw [UpstreamWorker.runs_where_iff] at runs
  rw [UpstreamWorker.busy, decide_eq_true_iff]
  cases stage : w.stage with
  | starting => exact absurd stage begun
  | dialing => exact .inl rfl
  | connected => exact .inr rfl
  | ended => exact absurd stage runs.1

/-- A worker that waits to begin may do so at any time, and stays outstanding. -/
theorem begin_step (workers : log.server.workers = begun ++ w :: rest)
    (stage : w.stage = .starting)
    (target : (log.server.pool.objects w.session).target ≠ []) :
    ∃ next, serverMachine.step log (.worker begun.length .begin) = some next ∧
      next.server.pool = log.server.pool ∧
      next.server.workers = (begun ++ [w.nowDialing]) ++ rest ∧
      next.server.outstanding = log.server.outstanding := by
  have begins : w.act (log.server.pool.objects w.session) .begin = some (w.nowDialing, .nothing) :=
    UpstreamWorker.act_begin stage target
  have found : log.server.workers[begun.length]? = some w := by simp [workers]
  have moved : log.server.workers.set begun.length w.nowDialing =
      (begun ++ [w.nowDialing]) ++ rest := by simp [workers]
  have same : UpstreamWorker.runsWhere log.server.pool (fun names => names.2 ≠ []) w.nowDialing =
      UpstreamWorker.runsWhere log.server.pool (fun names => names.2 ≠ []) w := by
    rw [Bool.eq_iff_iff, UpstreamWorker.runs_where_iff, UpstreamWorker.runs_where_iff, stage]
    exact and_congr_left fun _ => iff_of_true nofun nofun
  refine ⟨{ log with
      server := { log.server with workers := (begun ++ [w.nowDialing]) ++ rest }
      handled := log.handled ++ []
      replies := log.replies ++ [] }, ?_, rfl, rfl, ?_⟩
  · simp only [serverMachine, ServerLog.step, ExitServer.react, found, begins, ← moved]
    rfl
  · rw [outstanding, outstanding, runningWhere, runningWhere, workers]
    simp only [List.countP_append, List.countP_cons, List.countP_nil, same]
    omega

/-- All workers that wait to begin may begin before anything else happens: then
every one that is outstanding dials or is connected. -/
theorem all_begin (waiting : List UpstreamWorker)
    (workers : log.server.workers = begun ++ waiting)
    (busy : ∀ w ∈ begun, UpstreamWorker.runsWhere log.server.pool
      (fun names => names.2 ≠ []) w = true → w.busy = true) :
    ∃ history later, serverMachine.Run (fun _ action => action.NoPost) log history later ∧
      log.server.outstanding ≤ later.server.busyWorkers := by
  induction waiting generalizing log begun with
  | nil =>
      rw [List.append_nil] at workers
      refine ⟨[], log, .start, ?_⟩
      rw [outstanding, runningWhere, busyWorkers, workers]
      exact List.countP_mono_left busy
  | cons w rest ih =>
      by_cases ready : w.stage = .starting ∧ (log.server.pool.objects w.session).target ≠ []
      · obtain ⟨next, stepped, pool, nextWorkers, same⟩ := begin_step workers ready.1 ready.2
        obtain ⟨history, later, run, all⟩ := ih nextWorkers fun v member runs => by
          rw [pool] at runs
          rcases List.mem_append.mp member with old | new
          · exact busy v old runs
          · rw [List.mem_singleton.mp new]
            rfl
        exact ⟨_, later, (StepMachine.Run.single trivial stepped).trans run, same ▸ all⟩
      · refine ih (List.append_cons begun w rest ▸ workers) fun v member runs => ?_
        rcases List.mem_append.mp member with old | new
        · exact busy v old runs
        · rw [List.mem_singleton.mp new] at runs ⊢
          have target := of_decide_eq_true ((UpstreamWorker.runs_where_iff _ _ _).mp runs).2
          exact busy_of_begun runs fun stage => ready ⟨stage, target⟩

end Begin

/-- As long as the SYN frames of every batch, those whose session has a target,
are with the workers that have not returned at most `_MaxConcurrentUpstream`, the
limit holds. A batch with more of them may break it before the next one comes,
and a batch within it does not. No SYN is ever refused. -/
theorem limit_while_syns_within {history : List ServerAction} {log : ServerLog}
    (run : serverMachine.Run (fun log action => log.server.SynsWithinLimit action)
      ServerLog.start history log) :
    log.server.WithinLimit ∧ log.server.RefusesCleanly ∧
      ∀ request clientId frames now atCheck afterScan later,
        log.step (.post request clientId frames now atCheck afterScan) = some later →
          ((∀ more final, serverMachine.Run (fun _ action => action.NoPost) later more final →
              final.server.WithinLimit) ↔
            log.server.SynsWithinLimit
              (.post request clientId frames now atCheck afterScan)) := by
  have kept : LimitKept log := run.invariant limit_kept_start
    fun _ _ _ before within stepped => limit_kept_step before within stepped
  refine ⟨(busy_le_outstanding kept.dials).trans kept.within,
    unlocked_refuses_cleanly kept.running.unlocked, ?_⟩
  intro request clientId frames now atCheck afterScan later stepped
  constructor
  · intro always
    obtain ⟨⟨server, reply⟩, reacted, rfl⟩ := Option.map_eq_some_iff.mp stepped
    obtain ⟨more, final, quiet, all⟩ := all_begin _ (List.nil_append _).symm
      (List.forall_mem_nil _)
    have within := all.trans (always more final quiet)
    rcases outstanding_react kept.running reacted with ⟨_, _, _, _, _, _, same, sum⟩ | ⟨other, _⟩
    · cases same
      exact sum.symm.trans_le within
    · exact other.elim
  · intro within more final quiet
    have after := limit_kept_quiet (limit_kept_step kept within stepped) quiet
    exact (busy_le_outstanding after.dials).trans after.within

/-- A SYN without a target, for another session. -/
def targetlessSyn : Frame :=
  { resentSyn with sessionId := List.replicate SessionIDLen 2, target := [] }

/-- Three workers: the first is connected, the second had no target to dial, and
the dial of the third raised. -/
def oneOfThreeDials : List ServerAction :=
  [.post 0 zeroId [resentSyn, targetlessSyn, resentSyn] 0 0 0, .worker 0 .begin, .worker 1 .begin,
    .worker 2 .begin, .worker 0 .dialed, .worker 2 .dialRaised]

theorem one_connected_room_for_255 : ∃ log : ServerLog,
    log.server.busyWorkers = 1 ∧ log.server.WithinLimit ∧ log.server.RefusesCleanly ∧
      ∃ later, log.step (.post 1 zeroId (List.replicate 256 resentSyn) 0 0 0) = some later ∧
        ¬ ∀ more final, serverMachine.Run (fun _ action => action.NoPost) later more final →
          final.server.WithinLimit := by
  have passed : ((serverMachine.exec (fun log action => log.server.SynsWithinLimit action)
      ServerLog.start oneOfThreeDials).any fun log =>
        decide (log.server.busyWorkers = 1 ∧
          ¬ log.server.SynsWithinLimit (.post 1 zeroId (List.replicate 256 resentSyn) 0 0 0) ∧
          (log.step (.post 1 zeroId (List.replicate 256 resentSyn) 0 0 0)).isSome = true)) =
            true := by
    decide +kernel
  obtain ⟨log, run, checked⟩ := StepMachine.run_of_exec_any _ passed
  obtain ⟨one, above, steps⟩ := of_decide_eq_true checked
  obtain ⟨later, stepped⟩ := Option.isSome_iff_exists.mp steps
  have limit := limit_while_syns_within run
  exact ⟨log, one, limit.1, limit.2.1, later, stepped,
    fun always => above ((limit.2.2 _ _ _ _ _ _ later stepped).mp always)⟩

/-- After 257 SYN frames all 257 workers dial. -/
theorem syn_flood_exceeds_limit :
    ¬ ∀ history log, serverMachine.Run StepMachine.anyStep ServerLog.start history log →
      log.server.WithinLimit ∧ log.server.RefusesCleanly := by
  intro always
  have passed : ((serverMachine.exec StepMachine.anyStep ServerLog.start
      [.post 0 zeroId (List.replicate 257 resentSyn) 0 0 0]).any fun log =>
        decide (log.server.outstanding = 257)) = true := by
    decide +kernel
  obtain ⟨log, run, flood⟩ := StepMachine.run_of_exec_any _ passed
  obtain ⟨history, later, began, all⟩ :=
    @all_begin log [] log.server.workers rfl (List.forall_mem_nil _)
  have within := (always _ _ (run.trans (began.weaken fun _ _ _ => trivial))).1
  rw [of_decide_eq_true flood] at all
  exact absurd (all.trans within) (by decide)

end Astrix
