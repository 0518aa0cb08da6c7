import Astrix.OrphanWorker
import Mathlib.Tactic.Linarith

/-!
# The expiry of idle sessions

A handler collects expired sessions when `now_t` is 30 seconds past `last_gc`,
but `last_gc` starts as the time of its own request, and a long poll ends after 8
seconds. So a collection is due only when 22 seconds pass inside one round. The
runs below have a clock, and the times at which the sleeping handlers may wake;
they keep when each transmit queue was last seen with frames in it, and the
reading of the last collection.
-/

namespace Astrix

open PyRuntime SessionPool

set_option autoImplicit false

/-- How long a session may be idle: `idleSessionTimeout`, the 30 seconds between
collections and one long poll. -/
def idleLimit : ℚ := idleSessionTimeout + gcInterval + LongPollWindow

/-- The clock readings that an act of a worker makes. -/
def WorkerAct.readings : WorkerAct → List ℚ
  | .dialFailed _ now | .read _ now | .readEnded now => [now]
  | _ => []

/-- The clock readings of an action, in order. -/
def ServerAction.readings : ServerAction → List ℚ
  | .post _ _ _ now atCheck afterScan => [now, atCheck, afterScan]
  | .resume _ atCheck afterScan => [atCheck, afterScan]
  | .worker _ act => act.readings

inductive ServerEvent where
  | act (action : ServerAction)
  | pass (now : ℚ)
  deriving DecidableEq

def ServerEvent.readings : ServerEvent → List ℚ
  | .act action => action.readings
  | .pass now => [now]

structure ClockedServer where
  server : ExitServer
  clock : ℚ
  wakes : List ℚ
  queued : Nat → ℚ
  collected : ℚ

/-- When a sleeping handler may wake. -/
def PollOutcome.wakes (afterScan : ℚ) : PollOutcome → List ℚ
  | .answered _ => []
  | .asleep _ sleepFor => [afterScan + sleepFor]

namespace ClockedServer

def start : ClockedServer where
  server := ExitServer.new
  clock := 0
  wakes := []
  queued := fun _ => 0
  collected := 0

def begins (log : ClockedServer) (event : ServerEvent) : ℚ := event.readings.headD log.clock

def ends (log : ClockedServer) (event : ServerEvent) : ℚ := event.readings.getLastD log.clock

/-- The readings do not go back, no handler wakes before its time, and a body is
read at once: no handler goes on between the `now` of a request and its dispatch. -/
def InTime (log : ClockedServer) (event : ServerEvent) : Prop :=
  (log.clock :: event.readings).Pairwise (· ≤ ·) ∧
    match event with
    | .act (.resume index atCheck _) => ∀ due ∈ log.wakes[index]?, due ≤ atCheck
    | _ => True

instance (log : ClockedServer) (event : ServerEvent) : Decidable (log.InTime event) :=
  match event with
  | .act (.resume index atCheck _) => inferInstanceAs (Decidable (_ ∧
      ∀ due ∈ log.wakes[index]?, due ≤ atCheck))
  | .act (.post _ _ _ _ _ _) | .act (.worker _ _) | .pass _ =>
      inferInstanceAs (Decidable (_ ∧ True))

def wakesAfter (log : ClockedServer) : ServerAction → List ℚ
  | .post _ clientId frames now atCheck afterScan =>
      log.wakes ++ (log.server.firstRound clientId frames now atCheck afterScan).2.wakes afterScan
  | .resume index atCheck afterScan =>
      log.wakes.eraseIdx index ++
        match log.server.polls[index]? with
        | some (_, poll) =>
            (resumePoll log.server.pool poll atCheck afterScan).2.wakes afterScan
        | none => []
  | .worker _ _ => log.wakes

/-- The reading of the last collection, once this event is over. -/
def collects (log : ClockedServer) : ServerEvent → ℚ
  | .act (.resume index _ _) =>
      match log.server.polls[index]? with
      | some (_, poll) => if poll.gcDue then poll.nowT else log.collected
      | none => log.collected
  | _ => log.collected

/-- A queue with frames in it has had them until now. -/
def queuedAt (log : ClockedServer) (now : ℚ) (r : Nat) : ℚ :=
  if (log.server.pool.objects r).txQ = [] then log.queued r else now

def after (log : ClockedServer) (event : ServerEvent) (server : ExitServer) (wakes : List ℚ) :
    ClockedServer where
  server := server
  clock := log.ends event
  wakes := wakes
  queued := log.queuedAt (log.begins event)
  collected := log.collects event

def step (log : ClockedServer) (event : ServerEvent) : Option ClockedServer :=
  if log.InTime event then
    match event with
    | .act action => (log.server.react action).map fun (server, _) =>
        log.after event server (log.wakesAfter action)
    | .pass _ => some (log.after event log.server log.wakes)
  else none

/-- The last time that the session had frames queued or got one. -/
def busyUntil (log : ClockedServer) (r : Nat) : ℚ :=
  max (log.server.pool.objects r).lastActivity (log.queued r)

/-- A session of the pool has not been idle for longer than the limit. -/
def IdleExpired (log : ClockedServer) : Prop :=
  ∀ r, log.server.pool.Maps r → log.clock ≤ log.busyUntil r + idleLimit

/-- A collection has read its clock no longer ago than the time between two
collections and one long poll. -/
def CollectsInTime (log : ClockedServer) (event : ServerEvent) : Prop :=
  log.ends event ≤ log.collects event + gcInterval + LongPollWindow

instance (log : ClockedServer) (event : ServerEvent) : Decidable (log.CollectsInTime event) :=
  inferInstanceAs (Decidable (_ ≤ _))

/-- Time passes only while a request is being handled. -/
def BackToBack (log : ClockedServer) (event : ServerEvent) : Prop :=
  log.server.polls = [] → log.begins event = log.clock

instance (log : ClockedServer) (event : ServerEvent) : Decidable (log.BackToBack event) :=
  inferInstanceAs (Decidable (log.server.polls = [] → log.begins event = log.clock))

end ClockedServer

def clockedServer : StepMachine ClockedServer ServerEvent := ⟨ClockedServer.step⟩

section Aged

/-- What changes of the age of sessions between two pools: a session is touched at
`now` or stays as old as it was, and a new one is touched at `now`. -/
structure Aged (now : ℚ) (before after : SessionPool) : Prop where
  activity : ∀ r, (after.objects r).lastActivity = (before.objects r).lastActivity ∨
    (after.objects r).lastActivity = now
  maps : ∀ r, after.Maps r → before.Maps r ∨ (after.objects r).lastActivity = now

variable {now : ℚ} {first second third : SessionPool}

theorem Aged.refl (pool : SessionPool) : Aged now pool pool :=
  ⟨fun _ => .inl rfl, fun _ maps => .inl maps⟩

theorem Aged.trans (one : Aged now first second) (two : Aged now second third) :
    Aged now first third where
  activity r := by
    rcases two.activity r with same | touched
    · rw [same]
      exact one.activity r
    · exact .inr touched
  maps r maps := by
    rcases two.maps r maps with older | touched
    · rcases one.maps r older with oldest | before
      · exact .inl oldest
      · rcases two.activity r with same | touched
        · exact .inr (same.trans before)
        · exact .inr touched
    · exact .inr touched

theorem aged_modify (pool : SessionPool) (ref : Nat) (change : Session → Session)
    (sameId : ∀ s, (change s).sessionId = s.sessionId)
    (touches : ∀ s, (change s).lastActivity = s.lastActivity ∨ (change s).lastActivity = now) :
    Aged now pool (pool.modify ref change sameId) where
  activity r := by
    rw [modify_objects]
    split_ifs with same
    · rw [same]
      exact touches _
    · exact .inl rfl
  maps r maps := .inl ((modify_maps _ _ _ _).mp maps)

theorem aged_remove (pool : SessionPool) (sid : Bytes) : Aged now pool (pool.remove sid) where
  activity _ := .inl rfl
  maps _ maps := .inl ((remove_maps pool sid).mp maps).1

theorem aged_get_or_create (pool : SessionPool) (sid : Bytes) (flags : Nat) (target : Text) :
    Aged now pool (pool.getOrCreate sid flags target now).1 := by
  rcases get_or_create_cases pool sid flags target now with ⟨ref, _, same⟩ | ⟨missing, made⟩
  · rw [same]
    exact Aged.refl pool
  · rw [made]
    constructor
    · intro r
      rw [insert_objects]
      split_ifs
      · exact .inr rfl
      · exact .inl rfl
    · intro r maps
      rw [insert_objects]
      rw [Maps, insert_objects] at maps
      split_ifs at maps ⊢ with new
      · exact .inr rfl
      · refine .inl ?_
        by_cases own : (pool.objects r).sessionId = sid
        · rw [own, SessionPool.get, SessionPool.insert, OrderedDict.get_insert_new_self] at maps
          exact absurd (Option.some.inj maps).symm new
        · rw [SessionPool.get, SessionPool.insert,
            OrderedDict.get_insert_new_of_ne _ _ _ _ _ own] at maps
          exact maps

theorem aged_dispatch (locked : Bool) (pool : SessionPool) (frames : List Frame) :
    Aged now pool (dispatchFrames locked now pool frames).pool := by
  refine List.foldlRecOn (motive := fun state : Dispatch => Aged now pool state.pool) _ _
    (Aged.refl pool) fun state aged f _ => aged.trans ?_
  have created : Aged now state.pool
      ((state.pool.getOrCreate f.sessionId f.flags f.target now).1.setSeq
        (state.pool.getOrCreate f.sessionId f.flags f.target now).2 (f.seq + 1)) :=
    (aged_get_or_create state.pool f.sessionId f.flags f.target).trans
      (aged_modify _ _ _ _ fun _ => .inl rfl)
  have delivered : ∀ s, Aged now state.pool (state.pool.enqueueRx s f now) :=
    fun s => aged_modify _ _ _ _ fun _ => .inr rfl
  have counted : ∀ s seq, Aged now state.pool (state.pool.setSeq s seq) :=
    fun s seq => aged_modify _ _ _ _ fun _ => .inl rfl
  rw [dispatchFrame]
  split_ifs
  · exact created
  · exact created
  · cases state.pool.get f.sessionId with
    | some s => exact delivered s
    | none => exact Aged.refl _
  · cases state.pool.get f.sessionId with
    | some s => exact counted s _
    | none => exact Aged.refl _
  · exact aged_remove _ _
  · cases state.pool.get f.sessionId with
    | some s => exact delivered s
    | none => exact Aged.refl _
  · exact Aged.refl _

/-- A scan only takes frames. -/
theorem aged_scan (pool : SessionPool) (collected : List Frame) :
    Aged now pool (scanSessions pool collected).pool := by
  have activity : ∀ r, ((scanSessions pool collected).pool.objects r).lastActivity =
      (pool.objects r).lastActivity := by
    intro r
    rw [scan_objects]
    split_ifs
    · rw [scanned]
      split_ifs <;> rfl
    · rfl
  refine ⟨fun r => .inl (activity r), fun r maps => .inl ?_⟩
  rw [Maps, (kept_scan pool collected).ids r, SessionPool.get, scan_sessions_dict] at maps
  exact maps

theorem aged_poll_round (pool : SessionPool) (poll : Poll) (atCheck afterScan : ℚ) :
    Aged now pool (pollRound pool poll atCheck afterScan).1 := by
  rcases poll_round_cases pool poll atCheck afterScan with ⟨same, _⟩ | ⟨scans, _⟩
  · rw [same]
    exact Aged.refl pool
  · rw [scans]
    exact aged_scan pool _

theorem aged_garbage (pool : SessionPool) (poll : Poll) :
    Aged now pool (collectGarbage pool poll).1 := by
  refine collect_garbage_preserves (P := fun start => Aged now pool start)
    (fun start entry _ aged => aged.trans ?_) (Aged.refl pool)
  exact (aged_remove start entry.1).trans (aged_modify _ _ _ _ fun _ => .inl rfl)

theorem aged_effect (pool : SessionPool) (session : Nat) (effect : UpstreamEffect)
    (touches : ∀ frame moment, effect = .enqueueTx frame moment → moment = now) :
    Aged now pool (effect.apply pool session) := by
  cases effect with
  | nothing => exact Aged.refl pool
  | enqueueTx frame moment =>
      have same := touches frame moment rfl
      subst same
      have queued : Aged moment pool (pool.enqueueTx session frame moment) :=
        aged_modify _ _ _ _ fun _ => .inr rfl
      exact queued
  | clearRxEvent =>
      have cleared : Aged now pool (pool.clearRxEvent session) :=
        aged_modify _ _ _ _ fun _ => .inl rfl
      exact cleared
  | popRx =>
      have popped : Aged now pool (pool.popRx session) := aged_modify _ _ _ _ fun _ => .inl rfl
      exact popped

end Aged

section Rounds

theorem poll_round_sleeps {pool : SessionPool} {poll later : Poll} {atCheck afterScan sleepFor : ℚ}
    (asleep : (pollRound pool poll atCheck afterScan).2 = .asleep later sleepFor) :
    later = { poll with nowT := afterScan } ∧ atCheck < poll.waitDeadline := by
  simp only [pollRound] at asleep
  split_ifs at asleep with ended found
  cases asleep
  exact ⟨rfl, sub_pos.mp (not_le.mp ended)⟩

theorem resume_sleeps {pool : SessionPool} {poll later : Poll} {atCheck afterScan sleepFor : ℚ}
    (asleep : (resumePoll pool poll atCheck afterScan).2 = .asleep later sleepFor) :
    later = { afterGc poll with nowT := afterScan } ∧ atCheck < (afterGc poll).waitDeadline := by
  rw [← collect_garbage_poll pool]
  exact poll_round_sleeps asleep

theorem settle_polls (server : ExitServer) (request : Nat) (clientId : Bytes)
    (result : SessionPool × PollOutcome) :
    ∀ entry ∈ (server.settle request clientId result).1.polls, entry ∈ server.polls ∨
      ∃ sleepFor, result.2 = .asleep entry.2 sleepFor := by
  obtain ⟨pool, outcome⟩ := result
  cases outcome with
  | answered frames => exact fun entry member => .inl member
  | asleep poll sleepFor =>
      intro entry member
      rcases List.mem_append.mp member with old | new
      · exact .inl old
      · rw [List.mem_singleton.mp new]
        exact .inr ⟨sleepFor, rfl⟩

/-- The two readings of the round in an action. -/
def ServerAction.round : ServerAction → Option (ℚ × ℚ)
  | .post _ _ _ _ atCheck afterScan | .resume _ atCheck afterScan => some (atCheck, afterScan)
  | .worker _ _ => none

/-- A handler that went to sleep in this action, from the state `before` it had at
the start of the round. -/
structure WentToSleep (server : ExitServer) (action : ServerAction) (before poll : Poll) :
    Prop where
  round : ∃ atCheck afterScan, action.round = some (atCheck, afterScan) ∧
    poll = { before with nowT := afterScan } ∧ atCheck < before.waitDeadline
  began : (∃ clientId responseFrames now, before = startPoll clientId responseFrames now) ∨
    ∃ entry ∈ server.polls, before = afterGc entry.2

theorem react_polls {server later : ExitServer} {action : ServerAction} {reply : Option Reply}
    (reacted : server.react action = some (later, reply)) :
    ∀ entry ∈ later.polls, entry ∈ server.polls ∨
      ∃ before, WentToSleep server action before entry.2 := by
  rcases ExitServer.react_cases reacted with
    ⟨request, clientId, frames, now, atCheck, afterScan, rfl, same⟩ |
    ⟨index, atCheck, afterScan, request, poll, rfl, found, same⟩ |
    ⟨index, act, w, w', effect, rfl, found, acted, rfl, rfl⟩
  · have polls := settle_polls (server.accept frames now).1 request clientId
      (server.firstRound clientId frames now atCheck afterScan)
    rw [same] at polls
    intro entry member
    rcases polls entry member with old | ⟨sleepFor, asleep⟩
    · exact .inl old
    · obtain ⟨later, early⟩ := poll_round_sleeps asleep
      exact .inr ⟨_, ⟨atCheck, afterScan, rfl, later, early⟩, .inl ⟨_, _, _, rfl⟩⟩
  · have polls := settle_polls { server with polls := server.polls.eraseIdx index } request
      poll.clientId (resumePoll server.pool poll atCheck afterScan)
    rw [same] at polls
    intro entry member
    rcases polls entry member with old | ⟨sleepFor, asleep⟩
    · exact .inl (List.mem_of_mem_eraseIdx old)
    · obtain ⟨later, early⟩ := resume_sleeps asleep
      exact .inr ⟨_, ⟨atCheck, afterScan, rfl, later, early⟩,
        .inr ⟨_, List.mem_of_getElem? found, rfl⟩⟩
  · exact fun entry member => .inl member

end Rounds

section Maps

variable {r : Nat}

theorem poll_round_maps (pool : SessionPool) (poll : Poll) (atCheck afterScan : ℚ) :
    (pollRound pool poll atCheck afterScan).1.Maps r ↔ pool.Maps r := by
  rcases poll_round_cases pool poll atCheck afterScan with ⟨same, _⟩ | ⟨scans, _⟩
  · rw [same]
  · rw [scans, Maps, (kept_scan pool poll.responseFrames).ids r, SessionPool.get,
      scan_sessions_dict]
    rfl

/-- A handler that wakes removes the sessions that its collection finds expired. -/
theorem resume_maps (pool : SessionPool) (poll : Poll) (atCheck afterScan : ℚ) :
    (resumePoll pool poll atCheck afterScan).1.Maps r ↔ pool.Maps r ∧
      (poll.gcDue → pool.isExpired idleSessionTimeout poll.nowT r = false) := by
  rw [resumePoll]
  dsimp only
  rw [poll_round_maps, collectGarbage]
  by_cases due : poll.nowT - poll.lastGc ≥ gcInterval
  · rw [if_pos due, cleanup_maps]
    exact and_congr_right fun _ => ⟨fun current _ => current, fun current => current due⟩
  · rw [if_neg due]
    exact ⟨fun maps => ⟨maps, fun now => absurd now due⟩, fun both => both.1⟩

/-- A batch removes a session only with an RST for it. -/
theorem dispatch_frames_maps (locked : Bool) (now : ℚ) (frames : List Frame) (pool : SessionPool)
    (maps : pool.Maps r)
    (spared : ∀ f ∈ frames, f.sessionId = (pool.objects r).sessionId → f.isRst = false) :
    (dispatchFrames locked now pool frames).pool.Maps r := by
  have all : ∀ (rest : List Frame) (state : Dispatch), state.pool.Maps r →
      (∀ f ∈ rest, f.sessionId = (state.pool.objects r).sessionId → f.isRst = false) →
        (rest.foldl (dispatchFrame locked now) state).pool.Maps r := by
    intro rest
    induction rest with
    | nil => exact fun _ maps _ => maps
    | cons f rest ih =>
        intro state maps spared
        have bound := (get_keyed maps).1
        have grown := dispatch_frame_extends locked now state f
        refine ih _ ((dispatch_frame_object locked now f bound).2.mpr ⟨maps, ?_⟩) ?_
        · rintro ⟨own, rst⟩
          rw [spared f List.mem_cons_self own.symm] at rst
          cases rst
        · rw [grown.ids r bound]
          exact fun g member => spared g (List.mem_cons_of_mem f member)
  exact all frames _ maps spared

end Maps

section Time

theorem readings_between {clock : ℚ} {readings : List ℚ}
    (sorted : (clock :: readings).Pairwise (· ≤ ·)) :
    ∀ now ∈ clock :: readings, clock ≤ now ∧ now ≤ readings.getLastD clock := by
  induction readings generalizing clock with
  | nil =>
      intro now member
      rw [List.mem_singleton.mp member]
      exact ⟨le_refl clock, le_refl clock⟩
  | cons reading rest ih =>
      obtain ⟨first, others⟩ := List.pairwise_cons.mp sorted
      have later := ih others
      have next := first reading List.mem_cons_self
      rw [List.getLastD_cons]
      intro now member
      rcases List.mem_cons.mp member with rfl | member
      · exact ⟨le_refl now, next.trans (later reading List.mem_cons_self).2⟩
      · exact ⟨next.trans (later now member).1, (later now member).2⟩

variable {log : ClockedServer} {event : ServerEvent}

theorem begins_between (sorted : (log.clock :: event.readings).Pairwise (· ≤ ·)) :
    log.clock ≤ log.begins event ∧ log.begins event ≤ log.ends event := by
  apply readings_between sorted
  rw [ClockedServer.begins]
  cases event.readings with
  | nil => exact List.mem_singleton_self _
  | cons reading rest => exact List.mem_cons_of_mem _ List.mem_cons_self

section Acts

variable {s : Session} {w w' : UpstreamWorker} {act : WorkerAct} {frame : Frame} {moment : ℚ}

/-- A worker enqueues frames with a reading of its own. -/
theorem act_reads (acted : w.act s act = some (w', .enqueueTx frame moment)) :
    moment ∈ act.readings := by
  cases UpstreamWorker.act_cases acted with
  | dialFailed | read | readEnded => exact List.mem_singleton_self _
  | pop _ _ stage draining popped => cases UpstreamWorker.pop_cases popped

end Acts

/-- A step touches sessions at one of its readings, or not at all. -/
theorem react_aged {server later : ExitServer} {action : ServerAction} {reply : Option Reply}
    (reacted : server.react action = some (later, reply)) (clock : ℚ) :
    ∃ now ∈ clock :: action.readings, Aged now server.pool later.pool := by
  cases ExitServer.react_moved reacted with
  | posted request clientId frames now atCheck afterScan pool workers =>
      refine ⟨now, List.mem_cons_of_mem _ List.mem_cons_self, ?_⟩
      rw [pool, ExitServer.firstRound]
      exact (aged_dispatch _ _ _).trans (aged_poll_round _ _ _ _)
  | resumed index atCheck afterScan request poll found pool workers =>
      refine ⟨clock, List.mem_cons_self, ?_⟩
      rw [pool]
      exact (aged_garbage _ _).trans (aged_poll_round _ _ _ _)
  | acted index act w w' effect found acted pool workers =>
      rw [pool]
      by_cases silent : ∃ frame moment, effect = .enqueueTx frame moment
      · obtain ⟨frame, moment, rfl⟩ := silent
        refine ⟨moment, List.mem_cons_of_mem _ (act_reads acted), ?_⟩
        have queued : Aged moment server.pool (server.pool.enqueueTx w.session frame moment) :=
          aged_modify _ _ _ _ fun _ => .inr rfl
        exact queued
      · refine ⟨clock, List.mem_cons_self, aged_effect _ _ _ fun frame moment puts => ?_⟩
        exact absurd ⟨frame, moment, puts⟩ silent

theorem ClockedServer.collects_cases (log : ClockedServer) (event : ServerEvent) :
    log.collects event = log.collected ∨
      ∃ entry ∈ log.server.polls, log.collects event = entry.2.nowT := by
  cases event with
  | pass now => exact .inl rfl
  | act action =>
      cases action with
      | post request clientId frames now atCheck afterScan => exact .inl rfl
      | worker index act => exact .inl rfl
      | resume index atCheck afterScan =>
          simp only [ClockedServer.collects]
          split
          · next request poll found =>
              split_ifs
              · exact .inr ⟨(request, poll), List.mem_of_getElem? found, rfl⟩
              · exact .inl rfl
          · exact .inl rfl

/-- What an event makes of the server. -/
structure Elapsed (log : ClockedServer) (event : ServerEvent) (server : ExitServer) : Prop where
  aged : ∃ now ∈ log.clock :: event.readings, Aged now log.server.pool server.pool
  polls : ∀ entry ∈ server.polls, entry ∈ log.server.polls ∨ entry.2.nowT = log.ends event
  collection : ∀ r, server.pool.Maps r → log.collects event = log.collected ∨
    ∃ entry ∈ log.server.polls, log.collects event = entry.2.nowT ∧
      log.server.pool.isExpired idleSessionTimeout entry.2.nowT r = false

theorem round_ends {action : ServerAction} {atCheck afterScan clock : ℚ}
    (round : action.round = some (atCheck, afterScan)) :
    action.readings.getLastD clock = afterScan := by
  cases action with
  | post request clientId frames now first second | resume index first second =>
      cases round
      rfl
  | worker index act => cases round

theorem react_collects {server : ExitServer} {action : ServerAction} {reply : Option Reply}
    (reacted : log.server.react action = some (server, reply)) {r : Nat}
    (maps : server.pool.Maps r) : log.collects (.act action) = log.collected ∨
      ∃ entry ∈ log.server.polls, log.collects (.act action) = entry.2.nowT ∧
        log.server.pool.isExpired idleSessionTimeout entry.2.nowT r = false := by
  cases ExitServer.react_moved reacted with
  | posted request clientId frames now atCheck afterScan pool workers => exact .inl rfl
  | acted index act w w' effect found acted pool workers => exact .inl rfl
  | resumed index atCheck afterScan request poll found pool workers =>
      rw [pool, resume_maps] at maps
      have collects : log.collects (.act (.resume index atCheck afterScan)) =
          if poll.gcDue then poll.nowT else log.collected := by
        rw [ClockedServer.collects, found]
      rw [collects]
      split_ifs with due
      · exact .inr ⟨(request, poll), List.mem_of_getElem? found, rfl, maps.2 due⟩
      · exact .inl rfl

/-- Everything a step does. -/
theorem clocked_step {later : ClockedServer} (stepped : log.step event = some later) :
    log.InTime event ∧ ∃ server wakes, later = log.after event server wakes ∧
      Elapsed log event server ∧
        ((∃ action reply, event = .act action ∧
          log.server.react action = some (server, reply)) ∨
        ∃ now, event = .pass now ∧ server = log.server) := by
  unfold ClockedServer.step at stepped
  by_cases inTime : log.InTime event
  · rw [if_pos inTime] at stepped
    refine ⟨inTime, ?_⟩
    cases event with
    | act action =>
        obtain ⟨⟨server, reply⟩, reacted, rfl⟩ := Option.map_eq_some_iff.mp stepped
        refine ⟨server, _, rfl, ⟨react_aged reacted log.clock, fun entry member => ?_,
          fun r maps => react_collects reacted maps⟩, .inl ⟨action, reply, rfl, reacted⟩⟩
        rcases react_polls reacted entry member with old | ⟨before, slept⟩
        · exact .inl old
        · obtain ⟨atCheck, afterScan, round, poll, _⟩ := slept.round
          have last : log.ends (.act action) = afterScan := round_ends round
          refine .inr ?_
          rw [last, poll]
    | pass now =>
        cases stepped
        exact ⟨log.server, log.wakes, rfl, ⟨⟨log.clock, List.mem_cons_self, Aged.refl _⟩,
          fun entry member => .inl member, fun r maps => .inl rfl⟩, .inr ⟨now, rfl, rfl⟩⟩
  · rw [if_neg inTime] at stepped
    cases stepped

/-- The invariant. No reading is ahead of the clock, and the last collection spared
only sessions that were busy within the timeout. -/
structure Timely (log : ClockedServer) : Prop where
  activity : ∀ r, (log.server.pool.objects r).lastActivity ≤ log.clock
  queued : ∀ r, log.queued r ≤ log.clock
  polls : ∀ entry ∈ log.server.polls, entry.2.nowT ≤ log.clock
  collected : log.collected ≤ log.clock
  kept : ∀ r, log.server.pool.Maps r → log.collected ≤ log.busyUntil r + idleSessionTimeout

theorem timely_start : Timely ClockedServer.start where
  activity _ := le_refl 0
  queued _ := le_refl 0
  polls := List.forall_mem_nil _
  collected := le_refl 0
  kept r maps := by cases maps

/-- No event takes back how long a session has been busy. -/
theorem Timely.busy_grows (timely : Timely log) {server : ExitServer} {now : ℚ}
    (sorted : (log.clock :: event.readings).Pairwise (· ≤ ·)) (past : log.clock ≤ now)
    (aged : Aged now log.server.pool server.pool) (wakes : List ℚ) (r : Nat) :
    (log.server.pool.objects r).lastActivity ≤ (log.after event server wakes).busyUntil r ∧
      log.busyUntil r ≤ (log.after event server wakes).busyUntil r := by
  have grown : (log.server.pool.objects r).lastActivity ≤
      (server.pool.objects r).lastActivity := by
    rcases aged.activity r with same | touched
    · exact same.ge
    · rw [touched]
      exact (timely.activity r).trans past
  have queued : log.queued r ≤ log.queuedAt (log.begins event) r := by
    rw [ClockedServer.queuedAt]
    split_ifs
    · exact le_refl _
    · exact (timely.queued r).trans (begins_between sorted).1
  exact ⟨grown.trans (le_max_left _ _), max_le_max grown queued⟩

/-- A collection spares only sessions that are not expired, and between two
collections a session in the pool stays as recent or is touched. -/
theorem Timely.kept_step (timely : Timely log) {server : ExitServer}
    (sorted : (log.clock :: event.readings).Pairwise (· ≤ ·)) (elapsed : Elapsed log event server)
    (wakes : List ℚ) {r : Nat} (maps : server.pool.Maps r) :
    log.collects event ≤ (log.after event server wakes).busyUntil r + idleSessionTimeout := by
  obtain ⟨now, read, aged⟩ := elapsed.aged
  have past := (readings_between sorted now read).1
  have timeout : (0 : ℚ) ≤ idleSessionTimeout := by decide +kernel
  obtain ⟨recorded, busyGrown⟩ := timely.busy_grows sorted past aged wakes r
  rcases elapsed.collection r maps with kept | ⟨entry, member, collects, current⟩
  · rw [kept]
    rcases aged.maps r maps with older | touched
    · exact (timely.kept r older).trans (add_le_add_left busyGrown _)
    · have fresh : now ≤ (log.after event server wakes).busyUntil r :=
        touched.ge.trans (le_max_left _ _)
      have reading := timely.collected
      linarith
  · rw [collects]
    have reading := timely.polls entry member
    rw [SessionPool.isExpired, Bool.and_eq_false_iff, decide_eq_false_iff_not, not_lt] at current
    rcases current with recent | waiting
    · linarith
    · have busy : log.begins event ≤ (log.after event server wakes).busyUntil r := by
        have queue : log.queuedAt (log.begins event) r = log.begins event :=
          if_neg fun empty => by simp [empty] at waiting
        exact queue.ge.trans (le_max_right _ _)
      have begun := (begins_between sorted).1
      linarith

theorem timely_step {later : ClockedServer} (timely : Timely log)
    (stepped : log.step event = some later) : Timely later := by
  obtain ⟨⟨sorted, _⟩, server, wakes, rfl, elapsed, _⟩ := clocked_step stepped
  obtain ⟨now, read, aged⟩ := elapsed.aged
  obtain ⟨past, ahead⟩ := readings_between sorted now read
  have clock : log.clock ≤ log.ends event := past.trans ahead
  constructor
  · intro r
    rcases aged.activity r with same | touched
    · exact same.le.trans ((timely.activity r).trans clock)
    · exact touched.le.trans ahead
  · intro r
    dsimp only [ClockedServer.after, ClockedServer.queuedAt]
    split_ifs
    · exact (timely.queued r).trans clock
    · exact (begins_between sorted).2
  · intro entry member
    rcases elapsed.polls entry member with old | new
    · exact (timely.polls entry old).trans clock
    · exact new.le
  · rcases log.collects_cases event with same | ⟨entry, member, reads⟩
    · exact same.le.trans (timely.collected.trans clock)
    · exact reads.le.trans ((timely.polls entry member).trans clock)
  · exact fun r maps => timely.kept_step sorted elapsed wakes maps

theorem idle_expired (timely : Timely log)
    (collects : log.clock ≤ log.collected + gcInterval + LongPollWindow) : log.IdleExpired := by
  intro r maps
  have busy := timely.kept r maps
  rw [idleLimit]
  linarith

/-- The batch in the event has an RST for the session. -/
def ServerEvent.resets (sid : Bytes) : ServerEvent → Prop
  | .act (.post _ _ frames _ _ _) => ∃ f ∈ frames, f.sessionId = sid ∧ f.isRst = true
  | _ => False

/-- Nothing is queued for the session, and it was not active within the timeout. -/
def ClockedServer.Unused (log : ClockedServer) (r : Nat) : Prop :=
  (log.server.pool.objects r).txQ = [] ∧
    (log.server.pool.objects r).lastActivity + idleSessionTimeout < log.clock

/-- A session leaves the pool only with an RST or when it is out of use. -/
theorem removed_unused (timely : Timely log) {later : ClockedServer}
    (stepped : log.step event = some later) {r : Nat} (maps : log.server.pool.Maps r)
    (gone : ¬ later.server.pool.Maps r) :
    event.resets (log.server.pool.objects r).sessionId ∨ log.Unused r := by
  obtain ⟨_, server, wakes, rfl, _, kind⟩ := clocked_step stepped
  have left : ¬ server.pool.Maps r := gone
  rcases kind with ⟨action, reply, rfl, reacted⟩ | ⟨now, rfl, rfl⟩
  · cases ExitServer.react_moved reacted with
    | posted request clientId frames now atCheck afterScan pool workers =>
        rw [pool, ExitServer.firstRound, poll_round_maps, ExitServer.accept] at left
        refine .inl ?_
        by_contra spared
        refine left (dispatch_frames_maps _ now frames _ maps fun f member own => ?_)
        exact Bool.eq_false_iff.mpr fun rst => spared ⟨f, member, own, rst⟩
    | resumed index atCheck afterScan request poll found pool workers =>
        rw [pool, resume_maps] at left
        simp only [maps, true_and, Classical.not_imp, Bool.not_eq_false] at left
        have reading := timely.polls _ (List.mem_of_getElem? found)
        rw [SessionPool.isExpired, Bool.and_eq_true, decide_eq_true_eq, List.isEmpty_iff] at left
        dsimp only at reading
        exact .inr ⟨left.2.2, by linarith [left.2.1]⟩
    | acted index act w w' effect found acted pool workers =>
        rw [pool, Maps, upstream_effect_id, upstream_effect_get] at left
        exact absurd maps left
  · exact absurd maps left

/-- No round of a poll takes as long as 22 seconds. -/
def ClockedServer.QuickRounds (_ : ClockedServer) : ServerEvent → Prop
  | .act action => ∀ round ∈ action.round, round.2 - round.1 < gcInterval - LongPollWindow
  | .pass _ => True

/-- The invariant of runs of quick rounds. -/
structure NeverCollects (log : ClockedServer) : Prop where
  polls : ∀ entry ∈ log.server.polls,
    entry.2.waitDeadline = entry.2.lastGc + LongPollWindow ∧ ¬ entry.2.gcDue
  collected : log.collected = 0

theorem never_collects_step {later : ClockedServer} (never : NeverCollects log)
    (quick : log.QuickRounds event) (stepped : log.step event = some later) :
    NeverCollects later := by
  obtain ⟨_, server, wakes, rfl, _, kind⟩ := clocked_step stepped
  constructor
  · rcases kind with ⟨action, reply, rfl, reacted⟩ | ⟨now, rfl, rfl⟩
    · intro entry member
      rcases react_polls reacted entry member with old | ⟨before, slept⟩
      · exact never.polls entry old
      · obtain ⟨atCheck, afterScan, round, poll, early⟩ := slept.round
        have short := quick _ round
        have deadline : before.waitDeadline = before.lastGc + LongPollWindow := by
          rcases slept.began with ⟨_, _, now, rfl⟩ | ⟨old, listed, rfl⟩
          · rfl
          · have same : afterGc old.2 = old.2 := if_neg (never.polls old listed).2
            rw [same]
            exact (never.polls old listed).1
        rw [poll]
        refine ⟨deadline, fun due => ?_⟩
        rw [Poll.gcDue, ge_iff_le] at due
        dsimp only at due short
        linarith
    · exact never.polls
  · have same : (log.after event server wakes).collected = log.collects event := rfl
    rw [same]
    cases event with
    | pass now => exact never.collected
    | act action =>
        cases action with
        | post request clientId frames now atCheck afterScan => exact never.collected
        | worker index act => exact never.collected
        | resume index atCheck afterScan =>
            simp only [ClockedServer.collects]
            split
            · next request poll found =>
                rw [if_neg (never.polls _ (List.mem_of_getElem? found)).2]
                exact never.collected
            · exact never.collected

/-- Unless a round takes 22 seconds, no session is ever collected. -/
theorem quick_rounds_never_collect {history : List ServerEvent}
    (run : clockedServer.Run ClockedServer.QuickRounds ClockedServer.start history log) :
    NeverCollects log :=
  run.invariant ⟨List.forall_mem_nil _, rfl⟩
    fun _ _ _ never quick stepped => never_collects_step never quick stepped

end Time

/-- The invariant of the runs below. -/
structure Collecting (log : ClockedServer) : Prop where
  timely : Timely log
  recent : log.clock ≤ log.collected + gcInterval + LongPollWindow

/-- In a run in which a collection is never longer ago than the time between two
collections and one long poll, no session of the pool is idle beyond the limit. In
any run, what leaves the pool without an RST is out of use. -/
theorem idle_sessions_expire {history : List ServerEvent} {log : ClockedServer} :
    (clockedServer.Run ClockedServer.CollectsInTime ClockedServer.start history log →
      log.IdleExpired) ∧
    (clockedServer.Run StepMachine.anyStep ClockedServer.start history log →
      ∀ event later, log.step event = some later → ∀ r, log.server.pool.Maps r →
        ¬ later.server.pool.Maps r →
          event.resets (log.server.pool.objects r).sessionId ∨ log.Unused r) := by
  constructor
  · intro run
    have start : Collecting ClockedServer.start := ⟨timely_start, by decide +kernel⟩
    have collecting : Collecting log := by
      apply run.invariant start
      intro state event later before collects stepped
      refine ⟨timely_step before.timely stepped, ?_⟩
      obtain ⟨_, server, wakes, rfl, _⟩ := clocked_step stepped
      exact collects
    exact idle_expired collecting.timely collecting.recent
  · intro run event later stepped r
    have timely : Timely log :=
      run.invariant timely_start fun _ _ _ before _ stepped => timely_step before stepped
    exact removed_unused timely stepped

section Polls

/-- Polls back to back whose rounds take 30 seconds; the first one opens a session. -/
def slowPoll (k : Nat) : List ServerEvent :=
  [.act (.post k zeroId (if k = 0 then [resentSyn] else []) (31 * k) (31 * k) (31 * k + 30)),
    .act (.resume 0 (31 * k + 31) (31 * k + 31))]

/-- Polls back to back that sleep until their deadline; the first one opens a
session, whose worker connects. -/
def quickPoll (k : Nat) : List ServerEvent :=
  [.act (.post k zeroId (if k = 0 then [resentSyn] else []) (8 * k) (8 * k) (8 * k))] ++
    (if k = 0 then [.act (.worker 0 .begin), .act (.worker 0 .dialed)] else []) ++
    [.pass (8 * k + 8), .act (.resume 0 (8 * k + 8) (8 * k + 8))]

theorem slow_polls_expire : ∃ log : ClockedServer,
    log.server.pool.fresh = 1 ∧ ¬ log.server.pool.Maps 0 ∧ log.IdleExpired := by
  have passed : ((clockedServer.exec ClockedServer.CollectsInTime ClockedServer.start
      ((List.range 21).flatMap slowPoll)).any fun log =>
        decide (log.server.pool.fresh = 1 ∧ ¬ log.server.pool.Maps 0)) = true := by
    decide +kernel
  obtain ⟨log, run, expired⟩ := StepMachine.run_of_exec_any _ passed
  obtain ⟨opened, gone⟩ := of_decide_eq_true expired
  exact ⟨log, opened, gone, idle_sessions_expire.1 run⟩

/-- After 80 polls that end at their deadlines, the session of an upstream that
sends nothing has been idle for 640 seconds and is in the pool. -/
theorem quick_polls_never_expire :
    ¬ ∀ history log, clockedServer.Run ClockedServer.BackToBack ClockedServer.start history log →
      log.IdleExpired := by
  intro always
  have passed : ((clockedServer.exec ClockedServer.BackToBack ClockedServer.start
      ((List.range 80).flatMap quickPoll)).any fun log =>
        decide (log.server.pool.Maps 0 ∧ log.clock = 640 ∧ log.busyUntil 0 = 0)) = true := by
    decide +kernel
  obtain ⟨log, run, idle⟩ := StepMachine.run_of_exec_any _ passed
  obtain ⟨maps, clock, busy⟩ := of_decide_eq_true idle
  have limit := always _ log run 0 maps
  rw [clock, busy] at limit
  exact absurd limit (by decide +kernel)

end Polls

end Astrix
