import Astrix.IdleExpiry

/-!
# The rounds of a long poll

A handler looks at its deadline, scans the sessions and sleeps for 25
milliseconds while its request is younger than 350, else for 100, and never past
its deadline. So it is due by its deadline, and a request is answered in its
92nd round at the latest, whatever other handlers and workers do in between. The
runs below keep, beside each sleeping handler, how many rounds it has made.
-/

namespace Astrix

open PyRuntime SessionPool

set_option autoImplicit false

section Alongside

variable {A B C : Type} {related : A → B → C → Prop} {as : List A} {bs : List B} {cs : List C}

/-- Three lists of one length whose entries are related place by place. -/
structure Alongside (related : A → B → C → Prop) (as : List A) (bs : List B) (cs : List C) :
    Prop where
  second : bs.length = as.length
  third : cs.length = as.length
  each : ∀ (i : Nat) (a : A) (b : B) (c : C),
    as[i]? = some a → bs[i]? = some b → cs[i]? = some c → related a b c

theorem alongside_nil : Alongside related [] [] [] :=
  ⟨rfl, rfl, fun _ _ _ _ none => by cases none⟩

theorem Alongside.erase (alongside : Alongside related as bs cs) (index : Nat) :
    Alongside related (as.eraseIdx index) (bs.eraseIdx index) (cs.eraseIdx index) := by
  refine ⟨?_, ?_, fun i a b c => ?_⟩
  · rw [List.length_eraseIdx, List.length_eraseIdx, alongside.second]
  · rw [List.length_eraseIdx, List.length_eraseIdx, alongside.third]
  · rw [List.getElem?_eraseIdx, List.getElem?_eraseIdx, List.getElem?_eraseIdx]
    split_ifs
    · exact alongside.each i a b c
    · exact alongside.each (i + 1) a b c

theorem Alongside.append (alongside : Alongside related as bs cs) {a : A} {b : B} {c : C}
    (last : related a b c) : Alongside related (as ++ [a]) (bs ++ [b]) (cs ++ [c]) := by
  refine ⟨?_, ?_, fun i a' b' c' first second third => ?_⟩
  · rw [List.length_append, List.length_append, alongside.second]
    rfl
  · rw [List.length_append, List.length_append, alongside.third]
    rfl
  · by_cases inside : i < as.length
    · rw [List.getElem?_append_left inside] at first
      rw [List.getElem?_append_left (alongside.second ▸ inside)] at second
      rw [List.getElem?_append_left (alongside.third ▸ inside)] at third
      exact alongside.each i a' b' c' first second third
    · have beyond : as.length ≤ i := Nat.le_of_not_lt inside
      rw [List.getElem?_append_right beyond] at first
      rw [List.getElem?_append_right (alongside.second ▸ beyond), alongside.second] at second
      rw [List.getElem?_append_right (alongside.third ▸ beyond), alongside.third] at third
      have here : i - as.length = 0 := by
        obtain ⟨bound, _⟩ := List.getElem?_eq_some_iff.mp first
        rw [List.length_singleton] at bound
        omega
      rw [here] at first second third
      cases first
      cases second
      cases third
      exact last

end Alongside

section Pace

/-- The least time that a handler has waited after `n` sleeps. -/
def patience (n : Nat) : ℚ :=
  if n ≤ 14 then n * coalesceWindow else ActiveDrainWindow + (n - 14) * coalesceWindowPoll

/-- The sleep of a round that found nothing. -/
def idleSleep (age : ℚ) : ℚ :=
  if age < ActiveDrainWindow then coalesceWindow else coalesceWindowPoll

theorem idle_sleep_cases (age : ℚ) :
    age < 350 / 1000 ∧ idleSleep age = 25 / 1000 ∨ 350 / 1000 ≤ age ∧ idleSleep age = 1 / 10 := by
  rw [idleSleep]
  split_ifs with young
  · exact .inl ⟨young, rfl⟩
  · refine .inr ⟨not_lt.mp young, ?_⟩
    norm_num [coalesceWindowPoll]

theorem patience_young {n : Nat} (young : n ≤ 14) : patience n = n * (25 / 1000) := if_pos young

theorem patience_grown {n : Nat} (grown : 14 ≤ n) :
    patience n = 350 / 1000 + (n - 14) * (1 / 10) := by
  rcases Nat.eq_or_lt_of_le grown with same | more
  · rw [← same, patience_young (Nat.le_refl _)]
    norm_num
  · rw [patience, if_neg (Nat.not_le.mpr more)]
    norm_num [ActiveDrainWindow, coalesceWindowPoll]

theorem patience_next (n : Nat) {age : ℚ} (waited : patience n ≤ age) :
    patience (n + 1) ≤ age + idleSleep age := by
  by_cases young : n ≤ 13
  · have bound : (n : ℚ) ≤ 13 := by exact_mod_cast young
    rw [patience_young (by omega)] at waited
    rw [patience_young (by omega)]
    push_cast
    rcases idle_sleep_cases age with ⟨_, sleep⟩ | ⟨_, sleep⟩ <;> rw [sleep] <;> linarith
  · have fourteen : (14 : ℚ) ≤ n := by exact_mod_cast (show 14 ≤ n by omega)
    rw [patience_grown (by omega)] at waited
    rw [patience_grown (by omega)]
    push_cast
    rcases idle_sleep_cases age with ⟨young, _⟩ | ⟨_, sleep⟩
    · linarith
    · rw [sleep]
      linarith

/-- After 91 sleeps the window of the poll is over. -/
theorem patience_ends {n : Nat} (early : patience n < LongPollWindow) : n ≤ 90 := by
  by_contra many
  have more : (91 : ℚ) ≤ n := by exact_mod_cast (show 91 ≤ n by omega)
  rw [patience_grown (by omega), LongPollWindow] at early
  linarith

end Pace

section Rounds

variable {pool : SessionPool} {poll later : Poll} {atCheck afterScan sleepFor : ℚ}

/-- What a round that goes to sleep was, and how long it sleeps. -/
structure Rests (poll later : Poll) (atCheck afterScan sleepFor : ℚ) : Prop where
  start : later.activeStart = poll.activeStart
  deadline : later.waitDeadline = poll.waitDeadline
  early : atCheck < poll.waitDeadline
  sleep : sleepFor =
    min (idleSleep (afterScan - poll.activeStart)) (poll.waitDeadline - atCheck)

/-- A round that goes to sleep found nothing in any queue: the sleep that is meant
for a round which found frames is never chosen. -/
theorem poll_round_rests
    (asleep : (pollRound pool poll atCheck afterScan).2 = .asleep later sleepFor) :
    Rests poll later atCheck afterScan sleepFor := by
  obtain ⟨same, early⟩ := poll_round_sleeps asleep
  have shape : sleepFor =
      min (idleSleep (afterScan - poll.activeStart)) (poll.waitDeadline - atCheck) := by
    simp only [pollRound] at asleep
    split_ifs at asleep with ended found
    cases asleep
    have nothing : NothingQueued pool := by
      by_contra something
      exact found (scan_something something poll.responseFrames).1
    have different : coalesceWindowPoll ≠ coalesceWindowBusy := by decide +kernel
    rw [chooseSleep, scan_nothing nothing, if_neg different, idleSleep]
  rw [same]
  exact ⟨rfl, rfl, early, shape⟩

theorem resume_rests
    (asleep : (resumePoll pool poll atCheck afterScan).2 = .asleep later sleepFor) :
    Rests poll later atCheck afterScan sleepFor := by
  have start : (afterGc poll).activeStart = poll.activeStart := by
    rw [afterGc]
    split_ifs <;> rfl
  have rests := @poll_round_rests (collectGarbage pool poll).1 (collectGarbage pool poll).2 _ _ _ _
    asleep
  rw [collect_garbage_poll] at rests
  refine ⟨rests.start.trans start, rests.deadline.trans (after_gc_deadline poll), ?_, ?_⟩
  · rw [← after_gc_deadline poll]
    exact rests.early
  · rw [← after_gc_deadline poll, ← start]
    exact rests.sleep

end Rounds

/-- A server with the number of rounds of each sleeping handler. -/
structure CountedPolls where
  log : ClockedServer
  rounds : List Nat

namespace CountedPolls

def start : CountedPolls where
  log := ClockedServer.start
  rounds := []

/-- One count for a handler that goes to sleep. -/
def roundsOf (count : Nat) : PollOutcome → List Nat
  | .answered _ => []
  | .asleep _ _ => [count]

def roundsAfter (counted : CountedPolls) : ServerEvent → List Nat
  | .act (.post _ clientId frames now atCheck afterScan) =>
      counted.rounds ++
        roundsOf 1 (counted.log.server.firstRound clientId frames now atCheck afterScan).2
  | .act (.resume index atCheck afterScan) =>
      counted.rounds.eraseIdx index ++
        match counted.log.server.polls[index]? with
        | some (_, poll) => roundsOf (counted.rounds[index]?.getD 0 + 1)
            (resumePoll counted.log.server.pool poll atCheck afterScan).2
        | none => []
  | _ => counted.rounds

def step (counted : CountedPolls) (event : ServerEvent) : Option CountedPolls :=
  (counted.log.step event).map fun log => { log := log, rounds := counted.roundsAfter event }

end CountedPolls

def countedPolls : StepMachine CountedPolls ServerEvent := ⟨CountedPolls.step⟩

/-- No scan of the sessions takes longer than `scan`. -/
def ScansWithin (scan : ℚ) (_ : CountedPolls) : ServerEvent → Prop
  | .act action => ∀ round ∈ action.round, round.2 - round.1 ≤ scan
  | .pass _ => True

instance (scan : ℚ) (counted : CountedPolls) (event : ServerEvent) :
    Decidable (ScansWithin scan counted event) :=
  match event with
  | .act action => inferInstanceAs (Decidable (∀ round ∈ action.round, _))
  | .pass _ => isTrue trivial

/-- A sleeping handler that is due at `due` and has made `n` rounds. -/
structure Paced (scan : ℚ) (entry : Nat × Poll) (due : ℚ) (n : Nat) : Prop where
  window : entry.2.waitDeadline = entry.2.activeStart + LongPollWindow
  slept : entry.2.activeStart + patience n ≤ due ∨ entry.2.waitDeadline ≤ due
  early : ∃ before, n = before + 1 ∧ patience before < LongPollWindow
  inTime : due ≤ entry.2.waitDeadline + scan

section Runs

variable {scan : ℚ} {counted later : CountedPolls} {event : ServerEvent}

/-- A handler that goes to sleep again. -/
theorem paced_round {poll before : Poll} {atCheck afterScan sleepFor : ℚ} {request n : Nat}
    (window : before.waitDeadline = before.activeStart + LongPollWindow)
    (waited : before.activeStart + patience n ≤ atCheck) (ordered : atCheck ≤ afterScan)
    (quick : afterScan - atCheck ≤ scan) (rests : Rests before poll atCheck afterScan sleepFor) :
    Paced scan (request, poll) (afterScan + sleepFor) (n + 1) := by
  have early := rests.early
  constructor
  · rw [rests.deadline, rests.start, window]
  · have next := @patience_next n (afterScan - before.activeStart) (by linarith)
    dsimp only
    rw [rests.start, rests.deadline, rests.sleep]
    rcases min_choice (idleSleep (afterScan - before.activeStart)) (before.waitDeadline - atCheck)
      with idle | last
    · rw [idle]
      left
      linarith
    · rw [last]
      right
      linarith
  · exact ⟨n, rfl, by linarith⟩
  · have atMost := min_le_right (idleSleep (afterScan - before.activeStart))
      (before.waitDeadline - atCheck)
    dsimp only
    rw [rests.deadline, rests.sleep]
    linarith

/-- The entry of a handler that a round leaves asleep. -/
def PollOutcome.sleeping (request : Nat) : PollOutcome → List (Nat × Poll)
  | .answered _ => []
  | .asleep poll _ => [(request, poll)]

theorem settle_sleeping (server : ExitServer) (request : Nat) (clientId : Bytes)
    (result : SessionPool × PollOutcome) :
    (server.settle request clientId result).1.polls =
      server.polls ++ result.2.sleeping request := by
  obtain ⟨pool, outcome⟩ := result
  cases outcome with
  | answered frames => exact (List.append_nil _).symm
  | asleep poll sleepFor => rfl

theorem alongside_outcome {polls : List (Nat × Poll)} {wakes : List ℚ} {rounds : List Nat}
    {request n : Nat} {afterScan : ℚ} {outcome : PollOutcome}
    (alongside : Alongside (Paced scan) polls wakes rounds)
    (paced : ∀ poll sleepFor, outcome = .asleep poll sleepFor →
      Paced scan (request, poll) (afterScan + sleepFor) n) :
    Alongside (Paced scan) (polls ++ outcome.sleeping request) (wakes ++ outcome.wakes afterScan)
      (rounds ++ CountedPolls.roundsOf n outcome) := by
  cases outcome with
  | answered frames =>
      rw [PollOutcome.sleeping, PollOutcome.wakes, CountedPolls.roundsOf, List.append_nil,
        List.append_nil, List.append_nil]
      exact alongside
  | asleep poll sleepFor => exact alongside.append (paced poll sleepFor rfl)

/-- The invariant: every sleeping handler keeps its pace. -/
abbrev AllPaced (scan : ℚ) (counted : CountedPolls) : Prop :=
  Alongside (Paced scan) counted.log.server.polls counted.log.wakes counted.rounds

theorem paced_post {request : Nat} {clientId : Bytes} {frames : List Frame}
    {now atCheck afterScan : ℚ} (paced : AllPaced scan counted)
    (quick : afterScan - atCheck ≤ scan) (started : now ≤ atCheck) (ordered : atCheck ≤ afterScan)
    {server : ExitServer} {reply : Option Reply}
    (settled : (counted.log.server.accept frames now).1.settle request clientId
      (counted.log.server.firstRound clientId frames now atCheck afterScan) = (server, reply)) :
    Alongside (Paced scan) server.polls
      (counted.log.wakesAfter (.post request clientId frames now atCheck afterScan))
      (counted.roundsAfter (.act (.post request clientId frames now atCheck afterScan))) := by
  have polls := settle_sleeping (counted.log.server.accept frames now).1 request clientId
    (counted.log.server.firstRound clientId frames now atCheck afterScan)
  rw [settled] at polls
  have same : server.polls = counted.log.server.polls ++
      (counted.log.server.firstRound clientId frames now atCheck afterScan).2.sleeping request :=
    polls
  rw [same]
  apply alongside_outcome paced
  intro poll sleepFor asleep
  apply @paced_round scan poll _ atCheck afterScan sleepFor request 0 rfl _ ordered quick
    (poll_round_rests asleep)
  rw [patience_young (Nat.zero_le _)]
  simpa [startPoll] using started

theorem paced_resume {index request : Nat} {poll : Poll} {atCheck afterScan : ℚ}
    (paced : AllPaced scan counted)
    (found : counted.log.server.polls[index]? = some (request, poll))
    (quick : afterScan - atCheck ≤ scan) (ordered : atCheck ≤ afterScan)
    (awake : ∀ due ∈ counted.log.wakes[index]?, due ≤ atCheck)
    {server : ExitServer} {reply : Option Reply}
    (settled : { counted.log.server with polls := counted.log.server.polls.eraseIdx index }.settle
      request poll.clientId (resumePoll counted.log.server.pool poll atCheck afterScan) =
        (server, reply)) :
    Alongside (Paced scan) server.polls
      (counted.log.wakesAfter (.resume index atCheck afterScan))
      (counted.roundsAfter (.act (.resume index atCheck afterScan))) := by
  have polls := settle_sleeping
    { counted.log.server with polls := counted.log.server.polls.eraseIdx index } request
    poll.clientId (resumePoll counted.log.server.pool poll atCheck afterScan)
  rw [settled] at polls
  obtain ⟨bound, _⟩ := List.getElem?_eq_some_iff.mp found
  have due := List.getElem?_eq_getElem (paced.second ▸ bound)
  obtain ⟨made, count⟩ : ∃ made, counted.rounds[index]? = some made :=
    ⟨_, List.getElem?_eq_getElem (paced.third ▸ bound)⟩
  have entry := paced.each index _ _ _ found due count
  rw [ClockedServer.wakesAfter, CountedPolls.roundsAfter, found, count, polls]
  apply alongside_outcome (paced.erase index)
  intro later sleepFor asleep
  have rests := resume_rests asleep
  have late := awake _ due
  have waited : poll.activeStart + patience made ≤ atCheck := by
    rcases entry.slept with slept | elapsed
    · exact slept.trans late
    · exact absurd rests.early (not_lt.mpr (elapsed.trans late))
  exact paced_round entry.window waited ordered quick rests

theorem paced_step (paced : AllPaced scan counted) (quick : ScansWithin scan counted event)
    (stepped : counted.step event = some later) : AllPaced scan later := by
  obtain ⟨log, advanced, rfl⟩ := Option.map_eq_some_iff.mp stepped
  unfold ClockedServer.step at advanced
  split_ifs at advanced with inTime
  cases event with
  | pass now =>
      cases advanced
      exact paced
  | act action =>
      obtain ⟨⟨server, reply⟩, reacted, rfl⟩ := Option.map_eq_some_iff.mp advanced
      rcases ExitServer.react_cases reacted with
        ⟨request, clientId, frames, now, atCheck, afterScan, rfl, settled⟩ |
        ⟨index, atCheck, afterScan, request, poll, rfl, found, settled⟩ |
        ⟨index, act, w, w', effect, rfl, found, acted, rfl, rfl⟩
      · have sorted := (List.pairwise_cons.mp inTime.1).2
        have started := List.rel_of_pairwise_cons sorted List.mem_cons_self
        have ordered := List.rel_of_pairwise_cons (List.pairwise_cons.mp sorted).2
          List.mem_cons_self
        exact paced_post paced (quick _ rfl) started ordered settled
      · have sorted := (List.pairwise_cons.mp inTime.1).2
        have ordered := List.rel_of_pairwise_cons sorted List.mem_cons_self
        exact paced_resume paced found (quick _ rfl) ordered inTime.2 settled
      · exact paced

/-- A handler that wakes at the end of its window answers. -/
theorem resume_over {server : ExitServer} {i request : Nat} {poll : Poll} {atCheck : ℚ}
    (found : server.polls[i]? = some (request, poll)) (elapsed : poll.waitDeadline ≤ atCheck)
    (afterScan : ℚ) : ∃ later, server.react (.resume i atCheck afterScan) =
      some (later, some ⟨request, poll.clientId, poll.responseFrames⟩) := by
  have ended : (collectGarbage server.pool poll).2.waitDeadline ≤ atCheck := by
    rw [collect_garbage_poll, after_gc_deadline]
    exact elapsed
  have answered : resumePoll server.pool poll atCheck afterScan =
      ((collectGarbage server.pool poll).1, .answered poll.responseFrames) := by
    rw [resumePoll, ← collect_garbage_frames server.pool poll]
    exact poll_round_over afterScan ended
  rw [ExitServer.react, found]
  dsimp only
  rw [answered]
  exact ⟨_, rfl⟩

/-- In every run of the server whose scans take at most `scan`: a sleeping handler is
due no later than that after the end of its window, it has made at most 91 rounds,
and if it is resumed after the end of its window it answers. -/
theorem handlers_answer_in_time {history : List ServerEvent}
    (run : countedPolls.Run (ScansWithin scan) CountedPolls.start history counted) :
    ∀ (i request : Nat) (poll : Poll),
      counted.log.server.polls[i]? = some (request, poll) →
        ∃ due n, counted.log.wakes[i]? = some due ∧ counted.rounds[i]? = some n ∧
          due ≤ poll.activeStart + LongPollWindow + scan ∧ n ≤ 91 ∧
          ∀ atCheck afterScan, poll.activeStart + LongPollWindow ≤ atCheck →
            ∃ server, counted.log.server.react (.resume i atCheck afterScan) =
              some (server, some ⟨request, poll.clientId, poll.responseFrames⟩) := by
  have paced : AllPaced scan counted :=
    run.invariant alongside_nil fun _ _ _ held quick stepped => paced_step held quick stepped
  intro i request poll found
  obtain ⟨bound, _⟩ := List.getElem?_eq_some_iff.mp found
  have due := List.getElem?_eq_getElem (paced.second ▸ bound)
  have count := List.getElem?_eq_getElem (paced.third ▸ bound)
  have entry := paced.each i _ _ _ found due count
  obtain ⟨before, rounds, early⟩ := entry.early
  refine ⟨_, _, due, count, ?_, ?_, fun atCheck afterScan elapsed => ?_⟩
  · rw [← entry.window]
    exact entry.inTime
  · have bound := patience_ends early
    omega
  · exact resume_over found (entry.window.symm ▸ elapsed) afterScan

/-- A request whose handler wakes exactly when it may, up to 50 milliseconds before
the end of its window. -/
def patientPoll : List ServerEvent :=
  .act (.post 0 zeroId [] 0 0 0) ::
    ((List.range 13).map fun k => ServerEvent.act (.resume 0 ((k + 1) / 40) ((k + 1) / 40))) ++
      (List.range 77).map fun k =>
        ServerEvent.act (.resume 0 (35 / 100 + k / 10) (35 / 100 + k / 10))

/-- It makes all of the 91 rounds. -/
theorem patient_poll_rounds : ∃ counted : CountedPolls,
    countedPolls.Run (ScansWithin 0) CountedPolls.start patientPoll counted ∧
      counted.rounds = [91] ∧ ∃ due ∈ counted.log.wakes, due ≤ LongPollWindow := by
  obtain ⟨counted, run, checked⟩ : ∃ counted,
      countedPolls.Run (ScansWithin 0) CountedPolls.start patientPoll counted ∧
        decide (counted.rounds = [91] ∧ counted.log.server.polls =
          [(0, ⟨zeroId, [], LongPollWindow, 0, 0, 795 / 100⟩)]) = true :=
    StepMachine.run_of_exec_any _ (by decide +kernel)
  obtain ⟨rounds, polls⟩ := of_decide_eq_true checked
  obtain ⟨due, n, found, _, inTime, _⟩ := handlers_answer_in_time run 0 0 _
    (by rw [polls]; rfl)
  refine ⟨counted, run, rounds, due, List.mem_of_getElem? found, ?_⟩
  simpa using inTime

end Runs

end Astrix
