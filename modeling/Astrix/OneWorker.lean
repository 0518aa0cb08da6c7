import Astrix.ServerRuns
import Mathlib.Data.List.Count

/-!
# Upstream workers per session

`get_or_create` is idempotent and the start of a worker is not: every SYN that
is dispatched starts one, for the object that the dictionary then has under its
id. Along a run the workers of an id are as many as the SYN frames that came
for it, less those that ended.
-/

namespace Astrix

open PyRuntime SessionPool

set_option autoImplicit false

/-- The SYN frames of a batch for one session. -/
def synsFor (sid : Bytes) (frames : List Frame) : Nat :=
  ((frames.filter fun f => f.hasFlag FlagSYN).map Frame.sessionId).count sid

/-- The task has not returned, and its session has this id. -/
def UpstreamWorker.runsFor (pool : SessionPool) (sid : Bytes) (w : UpstreamWorker) : Bool :=
  w.stage ≠ .ended ∧ (pool.objects w.session).sessionId = sid

/-- What never changes of a session object. -/
def Session.names (s : Session) : Bytes × Text := (s.sessionId, s.target)

/-- The task has not returned, and its session is one of these. -/
def UpstreamWorker.runsWhere (pool : SessionPool) (keep : Bytes × Text → Bool)
    (w : UpstreamWorker) : Bool :=
  w.stage ≠ .ended ∧ keep (pool.objects w.session).names = true

theorem UpstreamWorker.runs_where_iff (pool : SessionPool) (keep : Bytes × Text → Bool)
    (w : UpstreamWorker) : w.runsWhere pool keep = true ↔
      w.stage ≠ .ended ∧ keep (pool.objects w.session).names = true := by
  rw [UpstreamWorker.runsWhere, decide_eq_true_iff]

/-- The target of the session that a SYN finds or makes. -/
def SessionPool.targetFor (pool : SessionPool) (f : Frame) : Text :=
  match pool.get f.sessionId with
  | some ref => (pool.objects ref).target
  | none => f.target

/-- The sessions of the SYN frames among `frames`, each as the dispatch finds or makes it. -/
def synNames (now : ℚ) : Dispatch → List Frame → List (Bytes × Text)
  | _, [] => []
  | state, f :: rest =>
      (if f.hasFlag FlagSYN then [(f.sessionId, state.pool.targetFor f)] else []) ++
        synNames now (dispatchFrame false now state f) rest

namespace ExitServer

def runningWorkers (server : ExitServer) (sid : Bytes) : Nat :=
  server.workers.countP (UpstreamWorker.runsFor server.pool sid)

def runningWhere (server : ExitServer) (keep : Bytes × Text → Bool) : Nat :=
  server.workers.countP (UpstreamWorker.runsWhere server.pool keep)

/-- The sessions of the SYN frames of a batch that is posted now. -/
def postedNames (server : ExitServer) (frames : List Frame) (now : ℚ) : List (Bytes × Text) :=
  synNames now ⟨server.pool, [], []⟩ frames

def AtMostOneWorker (server : ExitServer) : Prop := ∀ sid, server.runningWorkers sid ≤ 1

/-- A SYN of the batch is the only one there for its session, and no worker of
this session is running. -/
def StartsAlone (server : ExitServer) : ServerAction → Prop
  | .post _ _ frames _ _ _ => ∀ f ∈ frames, f.hasFlag FlagSYN = true →
      server.runningWorkers f.sessionId = 0 ∧ synsFor f.sessionId frames = 1
  | _ => True

instance (server : ExitServer) (action : ServerAction) :
    Decidable (server.StartsAlone action) :=
  match action with
  | .post _ _ frames _ _ _ => inferInstanceAs (Decidable (∀ f ∈ frames,
      f.hasFlag FlagSYN = true →
        server.runningWorkers f.sessionId = 0 ∧ synsFor f.sessionId frames = 1))
  | .resume _ _ _ => isTrue trivial
  | .worker _ _ => isTrue trivial

end ExitServer

theorem syns_for_pos {frames : List Frame} {f : Frame} (member : f ∈ frames)
    (syn : f.hasFlag FlagSYN = true) : 0 < synsFor f.sessionId frames :=
  List.count_pos_iff.mpr (List.mem_map_of_mem (List.mem_filter.mpr ⟨member, syn⟩))

theorem syn_of_syns {frames : List Frame} {sid : Bytes} (some : 0 < synsFor sid frames) :
    ∃ f ∈ frames, f.hasFlag FlagSYN = true ∧ f.sessionId = sid := by
  obtain ⟨f, listed, own⟩ := List.mem_map.mp (List.count_pos_iff.mp some)
  obtain ⟨member, syn⟩ := List.mem_filter.mp listed
  exact ⟨f, member, syn, own⟩

section Dispatch

variable (now : ℚ)

/-- The sessions that were given to new workers. -/
def Dispatch.startedNames (state : Dispatch) : List (Bytes × Text) :=
  state.spawned.map fun s => (state.pool.objects s).names

/-- The ids of the sessions that were given to new workers. -/
def Dispatch.startedFor (state : Dispatch) : List Bytes :=
  state.spawned.map fun s => (state.pool.objects s).sessionId

theorem started_names_fst (state : Dispatch) :
    state.startedNames.map Prod.fst = state.startedFor := by
  rw [Dispatch.startedNames, List.map_map]
  rfl

theorem SessionPool.Extends.names {before after : SessionPool} (grown : before.Extends after)
    {ref : Nat} (bound : ref < before.fresh) :
    (after.objects ref).names = (before.objects ref).names :=
  Prod.ext (grown.ids ref bound) (grown.targets ref bound)

/-- `get_or_create` does not look at the target of a SYN whose session it knows. -/
theorem get_or_create_names (pool : SessionPool) (f : Frame) :
    ((pool.getOrCreate f.sessionId f.flags f.target now).1.objects
      (pool.getOrCreate f.sessionId f.flags f.target now).2).names =
        (f.sessionId, pool.targetFor f) := by
  rcases get_or_create_cases pool f.sessionId f.flags f.target now with
    ⟨ref, found, same⟩ | ⟨missing, made⟩
  · rw [same, SessionPool.targetFor, found, Session.names, (get_keyed found).2]
  · rw [made, SessionPool.targetFor, missing, insert_objects, if_pos rfl]
    rfl

theorem dispatch_frame_started_names {state : Dispatch}
    (bound : ∀ s ∈ state.spawned, s < state.pool.fresh) (f : Frame) :
    (∀ s ∈ (dispatchFrame false now state f).spawned,
        s < (dispatchFrame false now state f).pool.fresh) ∧
      (dispatchFrame false now state f).startedNames = state.startedNames ++
        if f.hasFlag FlagSYN then [(f.sessionId, state.pool.targetFor f)] else [] := by
  have grown := dispatch_frame_extends false now state f
  have older : state.spawned.map (fun s =>
      ((dispatchFrame false now state f).pool.objects s).names) = state.startedNames :=
    List.map_congr_left fun s member => grown.names (bound s member)
  by_cases syn : f.hasFlag FlagSYN = true
  · have found := get_or_create_get state.pool f.sessionId f.flags f.target now
    obtain ⟨allocated, _⟩ := get_keyed found
    have spawned : (dispatchFrame false now state f).spawned =
        state.spawned ++ [(state.pool.getOrCreate f.sessionId f.flags f.target now).2] := by
      rw [dispatchFrame, if_pos syn]
      rfl
    have pool : (dispatchFrame false now state f).pool =
        (state.pool.getOrCreate f.sessionId f.flags f.target now).1.setSeq
          (state.pool.getOrCreate f.sessionId f.flags f.target now).2 (f.seq + 1) := by
      rw [dispatchFrame, if_pos syn]
      rfl
    have counted := extends_set_seq
      (state.pool.getOrCreate f.sessionId f.flags f.target now).1
      (state.pool.getOrCreate f.sessionId f.flags f.target now).2 (f.seq + 1)
    constructor
    · rw [spawned]
      intro s member
      rcases List.mem_append.mp member with old | new
      · exact (bound s old).trans_le grown.fresh
      · rw [List.mem_singleton.mp new, pool]
        exact allocated.trans_le counted.fresh
    · rw [Dispatch.startedNames, spawned, List.map_append, older, if_pos syn, List.map_singleton,
        pool, counted.names allocated, get_or_create_names]
  · have spawned : (dispatchFrame false now state f).spawned = state.spawned := by
      rcases dispatch_frame_spawned false now state f with same | ⟨_, _, isSyn, _⟩
      · exact same
      · exact absurd isSyn syn
    constructor
    · rw [spawned]
      exact fun s member => (bound s member).trans_le grown.fresh
    · rw [Dispatch.startedNames, spawned, older, if_neg syn, List.append_nil]

theorem dispatch_frame_started {state : Dispatch}
    (bound : ∀ s ∈ state.spawned, s < state.pool.fresh) (f : Frame) :
    (∀ s ∈ (dispatchFrame false now state f).spawned,
        s < (dispatchFrame false now state f).pool.fresh) ∧
      (dispatchFrame false now state f).startedFor = state.startedFor ++
        if f.hasFlag FlagSYN then [f.sessionId] else [] := by
  obtain ⟨later, started⟩ := dispatch_frame_started_names now bound f
  refine ⟨later, ?_⟩
  rw [← started_names_fst, started, List.map_append, started_names_fst, apply_ite (List.map _)]
  rfl

/-- Every SYN of a batch starts a worker for the session that it finds or makes. -/
theorem dispatch_frames_started_names (pool : SessionPool) (frames : List Frame) :
    (dispatchFrames false now pool frames).startedNames = synNames now ⟨pool, [], []⟩ frames := by
  have all : ∀ (rest : List Frame) (state : Dispatch),
      (∀ s ∈ state.spawned, s < state.pool.fresh) →
        (rest.foldl (dispatchFrame false now) state).startedNames =
          state.startedNames ++ synNames now state rest := by
    intro rest
    induction rest with
    | nil => exact fun _ _ => (List.append_nil _).symm
    | cons f rest ih =>
        intro state bound
        obtain ⟨laterBound, started⟩ := dispatch_frame_started_names now bound f
        rw [List.foldl_cons, ih _ laterBound, started, List.append_assoc, synNames]
  exact all frames ⟨pool, [], []⟩ (List.forall_mem_nil _)

theorem syn_names_count (state : Dispatch) (frames : List Frame) (sid : Bytes) :
    (synNames now state frames).countP (fun names => names.1 = sid) = synsFor sid frames := by
  have ids : (synNames now state frames).map Prod.fst =
      (frames.filter fun f => f.hasFlag FlagSYN).map Frame.sessionId := by
    induction frames generalizing state with
    | nil => rfl
    | cons f rest ih =>
        rw [synNames, List.map_append, ih, List.filter_cons]
        split_ifs <;> rfl
  rw [synsFor, ← ids, List.count, List.countP_map]
  apply List.countP_congr
  intro names _
  simp

end Dispatch

section Steps

open ExitServer

variable {server later : ExitServer} {sid : Bytes} {keep : Bytes × Text → Bool}

theorem running_workers_where (server : ExitServer) (sid : Bytes) :
    server.runningWorkers sid = server.runningWhere fun names => names.1 = sid := by
  apply List.countP_congr
  intro w _
  rw [UpstreamWorker.runsFor, UpstreamWorker.runs_where_iff, decide_eq_true_iff,
    decide_eq_true_iff]
  rfl

theorem running_extends (owns : ∀ w ∈ server.workers, w.session < server.pool.fresh)
    {pool : SessionPool} (grown : server.pool.Extends pool) :
    server.workers.countP (UpstreamWorker.runsWhere pool keep) = server.runningWhere keep := by
  apply List.countP_congr
  intro w member
  rw [UpstreamWorker.runsWhere, UpstreamWorker.runsWhere, grown.names (owns w member)]

theorem running_accept (owns : ∀ w ∈ server.workers, w.session < server.pool.fresh)
    (unlocked : server.locked = false) (frames : List Frame) (now : ℚ) :
    (server.accept frames now).1.runningWhere keep =
      server.runningWhere keep + (server.postedNames frames now).countP keep := by
  have grown := (dispatch_frames_identity server.locked now server.pool frames).1
  have started := dispatch_frames_started_names now server.pool frames
  rw [← unlocked] at started
  rw [runningWhere, ExitServer.accept]
  dsimp only
  rw [List.countP_append, running_extends owns grown, List.countP_map, postedNames, ← started,
    Dispatch.startedNames, List.countP_map]
  congr 2
  funext s
  have starting : (spawnWorker s).stage ≠ .ended := fun ended => WorkerStage.noConfusion ended
  rw [Function.comp_apply, Function.comp_apply, UpstreamWorker.runsWhere, Bool.eq_iff_iff,
    decide_eq_true_iff]
  exact and_iff_right starting

theorem act_running {s : Session} {w w' : UpstreamWorker} {act : WorkerAct}
    {effect : UpstreamEffect} (acted : w.act s act = some (w', effect)) : w.stage ≠ .ended := by
  intro ended
  unfold UpstreamWorker.act at acted
  rw [ended] at acted
  cases acted

theorem running_act (owns : ∀ w ∈ server.workers, w.session < server.pool.fresh) {index : Nat}
    {act : WorkerAct} {w w' : UpstreamWorker} {effect : UpstreamEffect}
    (found : server.workers[index]? = some w)
    (acted : w.act (server.pool.objects w.session) act = some (w', effect)) :
    (server.workers.set index w').countP
        (UpstreamWorker.runsWhere (effect.apply server.pool w.session) keep) ≤
      server.runningWhere keep := by
  have grown := extends_effect server.pool w.session effect
  have owned := owns w (List.mem_of_getElem? found)
  obtain ⟨bound, here⟩ := List.getElem?_eq_some_iff.mp found
  have same : UpstreamWorker.runsWhere (effect.apply server.pool w.session) keep w =
      UpstreamWorker.runsWhere server.pool keep w := by
    rw [UpstreamWorker.runsWhere, UpstreamWorker.runsWhere, grown.names owned]
  have moved : UpstreamWorker.runsWhere (effect.apply server.pool w.session) keep w' = true →
      UpstreamWorker.runsWhere server.pool keep w = true := by
    intro runs
    rw [UpstreamWorker.runsWhere, (UpstreamWorker.act_acted acted).1, grown.names owned,
      decide_eq_true_iff] at runs
    exact decide_eq_true ⟨act_running acted, runs.2⟩
  rw [List.countP_set bound, here, same, running_extends owns grown]
  have counted : UpstreamWorker.runsWhere server.pool keep w = true →
      0 < server.runningWhere keep :=
    fun runs => List.countP_pos_iff.mpr ⟨w, List.mem_of_getElem? found, runs⟩
  split_ifs with was is is
  · have positive := counted was
    omega
  · omega
  · exact absurd (moved is) was
  · omega

theorem react_semaphore {action : ServerAction} {reply : Option Reply}
    (reacted : server.react action = some (later, reply)) :
    later.semaphore = server.semaphore := by
  have settled : ∀ (start : ExitServer) (request : Nat) (clientId : Bytes)
      (result : SessionPool × PollOutcome),
      start.settle request clientId result = (later, reply) →
        later.semaphore = start.semaphore := by
    rintro start request clientId ⟨pool, outcome⟩ same
    cases outcome <;> cases same <;> rfl
  rcases react_cases reacted with ⟨request, clientId, frames, now, atCheck, afterScan, rfl, same⟩ |
    ⟨index, atCheck, afterScan, request, poll, rfl, found, same⟩ |
    ⟨index, act, w, w', effect, rfl, found, acted, rfl, rfl⟩
  · exact settled (server.accept frames now).1 _ _ _ same
  · exact settled { server with polls := server.polls.eraseIdx index } _ _ _ same
  · rfl

/-- What a step does to the workers of some sessions. -/
theorem running_react (owns : ∀ w ∈ server.workers, w.session < server.pool.fresh)
    (unlocked : server.locked = false) {action : ServerAction} {reply : Option Reply}
    (reacted : server.react action = some (later, reply)) :
    (∃ request clientId frames now atCheck afterScan,
      action = .post request clientId frames now atCheck afterScan ∧
        ∀ keep, later.runningWhere keep =
          server.runningWhere keep + (server.postedNames frames now).countP keep) ∨
      ((∀ request clientId frames now atCheck afterScan,
          action ≠ .post request clientId frames now atCheck afterScan) ∧
        ∀ keep, later.runningWhere keep ≤ server.runningWhere keep) := by
  cases react_moved reacted with
  | posted request clientId frames now atCheck afterScan pool workers =>
      refine .inl ⟨request, clientId, frames, now, atCheck, afterScan, rfl, fun keep => ?_⟩
      have accepted : ∀ w ∈ (server.accept frames now).1.workers,
          w.session < (server.accept frames now).1.pool.fresh := by
        have known : server.WorkersOwn fun _ => True := fun w member => ⟨owns w member, trivial⟩
        exact fun w member => (known.accept now (fun _ _ _ => trivial) w member).1
      rw [runningWhere, workers, pool, ← running_accept owns unlocked frames now]
      exact running_extends accepted (extends_poll_round _ _ _ _)
  | resumed index atCheck afterScan request poll found pool workers =>
      refine .inr ⟨by simp, fun keep => ?_⟩
      rw [runningWhere, workers, pool]
      exact Nat.le_of_eq (running_extends owns (extends_resume_poll _ _ _ _))
  | acted index act w w' effect found acted pool workers =>
      refine .inr ⟨by simp, fun keep => ?_⟩
      rw [runningWhere, workers, pool]
      exact running_act owns found acted

/-- One step keeps the bound exactly when the step starts its workers alone. -/
theorem one_worker_step (owns : ∀ w ∈ server.workers, w.session < server.pool.fresh)
    (unlocked : server.locked = false) (one : server.AtMostOneWorker) {action : ServerAction}
    {reply : Option Reply} (reacted : server.react action = some (later, reply)) :
    later.AtMostOneWorker ↔ server.StartsAlone action := by
  rcases running_react owns unlocked reacted with
    ⟨request, clientId, frames, now, atCheck, afterScan, rfl, all⟩ | ⟨other, fewer⟩
  · have sums : ∀ sid,
        later.runningWorkers sid = server.runningWorkers sid + synsFor sid frames := by
      intro sid
      rw [running_workers_where, running_workers_where, all, postedNames, syn_names_count]
    constructor
    · intro kept f member syn
      have bound := kept f.sessionId
      rw [sums] at bound
      have counted := syns_for_pos member syn
      omega
    · intro alone sid
      rw [sums]
      have before := one sid
      by_cases none : synsFor sid frames = 0
      · omega
      · obtain ⟨f, member, syn, rfl⟩ := syn_of_syns (Nat.pos_of_ne_zero none)
        have both := alone f member syn
        omega
  · constructor
    · intro _
      cases action with
      | post request clientId frames now atCheck afterScan => exact absurd rfl (other _ _ _ _ _ _)
      | resume index atCheck afterScan => trivial
      | worker index act => trivial
    · intro _ sid
      have before := one sid
      rw [running_workers_where] at before ⊢
      exact (fewer _).trans before

end Steps

section Runs

/-- The server with nothing but what every run keeps of it. -/
structure Running (log : ServerLog) : Prop where
  accounted : Accounted log
  unlocked : log.server.locked = false

theorem Running.owns {log : ServerLog} (running : Running log) :
    ∀ w ∈ log.server.workers, w.session < log.server.pool.fresh :=
  fun w member => (running.accounted.workers w member).1

theorem running_start : Running ServerLog.start := ⟨accounted_start, rfl⟩

theorem running_step {log later : ServerLog} {action : ServerAction} (running : Running log)
    (stepped : log.step action = some later) : Running later := by
  refine ⟨accounted_step running.accounted stepped, ?_⟩
  obtain ⟨⟨server, reply⟩, reacted, rfl⟩ := Option.map_eq_some_iff.mp stepped
  have unlocked := running.unlocked
  rw [ExitServer.locked] at unlocked ⊢
  dsimp only
  rw [react_semaphore reacted]
  exact unlocked

/-- The invariant of the runs below. -/
structure WorkersApart (log : ServerLog) : Prop where
  running : Running log
  one : log.server.AtMostOneWorker

theorem workers_apart_step {log later : ServerLog} {action : ServerAction}
    (apart : WorkersApart log) (alone : log.server.StartsAlone action)
    (stepped : log.step action = some later) : WorkersApart later := by
  refine ⟨running_step apart.running stepped, ?_⟩
  obtain ⟨⟨server, reply⟩, reacted, rfl⟩ := Option.map_eq_some_iff.mp stepped
  exact (one_worker_step apart.running.owns apart.running.unlocked apart.one reacted).mpr alone

end Runs

/-- As long as every SYN comes alone for its session and finds no worker of it
running, no session has two; and the first step that is otherwise breaks it. -/
theorem one_worker_while_alone {history : List ServerAction} {log : ServerLog}
    (run : serverMachine.Run (fun log action => log.server.StartsAlone action) ServerLog.start
      history log) :
    log.server.AtMostOneWorker ∧ ∀ action later, log.step action = some later →
      (later.server.AtMostOneWorker ↔ log.server.StartsAlone action) := by
  have start : WorkersApart ServerLog.start := ⟨running_start, fun _ => Nat.zero_le _⟩
  have apart : WorkersApart log :=
    run.invariant start fun _ _ _ before alone stepped => workers_apart_step before alone stepped
  refine ⟨apart.one, fun action later stepped => ?_⟩
  obtain ⟨⟨server, reply⟩, reacted, rfl⟩ := Option.map_eq_some_iff.mp stepped
  exact one_worker_step apart.running.owns apart.running.unlocked apart.one reacted

/-- The SYN of a session, as its client sends it and sends it again. -/
def resentSyn : Frame where
  sessionId := List.replicate SessionIDLen 1
  seq := 0
  flags := FlagSYN
  target := literal "a:1"
  payload := []

def synPosted (request : Nat) : ServerAction := .post request zeroId [resentSyn] 0 0 0

/-- One batch with the SYN, whose worker connects, serves and ends before the
SYN comes again. -/
def synAfterEnd : List ServerAction :=
  [synPosted 0, .worker 0 .begin, .worker 0 .dialed, .worker 0 (.readEnded 0),
    .worker 0 .writerCancelled, .worker 0 .finish, synPosted 1]

theorem syn_after_end_one_worker : ∃ log : ServerLog,
    log.server.runningWorkers resentSyn.sessionId = 1 ∧ log.server.workers.length = 2 ∧
      log.server.AtMostOneWorker := by
  have passed : ((serverMachine.exec (fun log action => log.server.StartsAlone action)
      ServerLog.start synAfterEnd).any fun log =>
        decide (log.server.runningWorkers resentSyn.sessionId = 1 ∧
          log.server.workers.length = 2)) = true := by
    decide +kernel
  obtain ⟨log, run, seen⟩ := StepMachine.run_of_exec_any _ passed
  obtain ⟨running, workers⟩ := of_decide_eq_true seen
  exact ⟨log, running, workers, (one_worker_while_alone run).1⟩

/-- The batch with the SYN comes twice, and both workers connect. -/
theorem resent_syn_two_workers :
    ¬ ∀ history log, serverMachine.Run StepMachine.anyStep ServerLog.start history log →
      log.server.AtMostOneWorker := by
  intro always
  have passed : ((serverMachine.exec StepMachine.anyStep ServerLog.start
      [synPosted 0, .worker 0 .begin, .worker 0 .dialed, synPosted 1, .worker 1 .begin,
        .worker 1 .dialed]).any fun log =>
          decide (log.server.runningWorkers resentSyn.sessionId = 2)) = true := by
    decide +kernel
  obtain ⟨log, run, two⟩ := StepMachine.run_of_exec_any _ passed
  have one := always _ _ run resentSyn.sessionId
  rw [of_decide_eq_true two] at one
  exact absurd one (by decide)

end Astrix
