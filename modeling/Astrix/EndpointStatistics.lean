import Mathlib.Algebra.FreeMonoid.Basic
import Astrix.BatchSizes
import Astrix.Library.MovingAverage
import Astrix.Library.StepCost
import Astrix.QualityScore

/-!
# The statistics of an endpoint

The three workers of an endpoint share its `EndpointState`, and each adds to it
when its post is answered. What `get_diagnostics` shows of an endpoint is a
function of the posts that were answered, in the order of their answers,
whichever worker made them and whatever the health monitor does in between.
-/

namespace Astrix

open PyRuntime SessionPool

set_option autoImplicit false

/-- An answered post as `_worker_loop` records it. -/
structure PostRecord where
  sent : Nat
  rttMs : ℚ
  answer : Answer

/-- The length of a body that was decoded. -/
def PostRecord.received (post : PostRecord) : Nat :=
  match post.answer with
  | .frames _ bodyLength => bodyLength
  | _ => 0

def PostRecord.failure (post : PostRecord) : Option Nat :=
  match post.answer with
  | .failed status => some status
  | _ => none

/-- The text of the last error. -/
def lastErrorOf (posts : List PostRecord) : String :=
  match (posts.filterMap PostRecord.failure).getLast? with
  | some status => s!"HTTP {status}"
  | none => ""

/-- What an endpoint shows of its posts. -/
structure Statistics (posts : List PostRecord) (ep : EndpointState) : Prop where
  polls : ep.totalPolls = posts.length
  sent : ep.totalBytesSent = (posts.map PostRecord.sent).sum
  received : ep.totalBytesRecv = (posts.map PostRecord.received).sum
  average : ep.avgRttMs = movingAverage (1 / 10) 0 (posts.map PostRecord.rttMs)
  lastError : ep.lastError = lastErrorOf posts
  scored : EndpointState.Scored (posts.map PostRecord.rttMs) ep

/-- The fields that the statistics are about. -/
def EndpointState.statistics (ep : EndpointState) :
    (Nat × Nat × Nat) × ℚ × String × List ℚ × ℚ :=
  ((ep.totalPolls, ep.totalBytesSent, ep.totalBytesRecv), ep.avgRttMs, ep.lastError,
    ep.rttSamples, ep.qualityScore)

theorem Statistics.of_same {posts : List PostRecord} {before after : EndpointState}
    (statistics : Statistics posts before) (same : after.statistics = before.statistics) :
    Statistics posts after := by
  simp only [EndpointState.statistics, Prod.mk.injEq] at same
  obtain ⟨⟨polls, sent, received⟩, average, lastError, samples, score⟩ := same
  refine ⟨polls.trans statistics.polls, sent.trans statistics.sent,
    received.trans statistics.received, average.trans statistics.average,
    lastError.trans statistics.lastError, statistics.scored.of_measured ?_⟩
  rw [EndpointState.measured, EndpointState.measured, samples, score]

theorem statistics_new : Statistics [] EndpointState.new :=
  ⟨rfl, rfl, rfl, rfl, rfl, EndpointState.scored_new⟩

theorem health_statistics (ep : EndpointState) (event : EndpointEvent) :
    (ep.health event).statistics = ep.statistics := by
  cases event with
  | markDead | forceFailures =>
      rw [EndpointState.health]
      split_ifs <;> rfl
  | revive => rfl

theorem adapt_statistics (ep : EndpointState) (count : Nat) :
    (ep.adaptBatchSize count).statistics = ep.statistics := by
  rw [EndpointState.adaptBatchSize]
  split_ifs <;> rfl

section Answers

variable {posts : List PostRecord} {ep : EndpointState}

/-- What `record_rtt` and the counters before it add, apart from what the answer
decides. -/
structure Recorded (posts : List PostRecord) (post : PostRecord) (received : Nat)
    (lastError : String) (ep : EndpointState) : Prop where
  polls : ep.totalPolls = posts.length + 1
  sent : ep.totalBytesSent = (posts.map PostRecord.sent).sum + post.sent
  received : ep.totalBytesRecv = (posts.map PostRecord.received).sum + received
  average : ep.avgRttMs = 9 / 10 * movingAverage (1 / 10) 0 (posts.map PostRecord.rttMs) +
    1 / 10 * post.rttMs
  lastError : ep.lastError = lastError
  scored : EndpointState.Scored (posts.map PostRecord.rttMs ++ [post.rttMs]) ep

theorem Recorded.statistics {post : PostRecord} {received : Nat} {lastError : String}
    (recorded : Recorded posts post received lastError ep) (receives : post.received = received)
    (fails : lastErrorOf (posts ++ [post]) = lastError) : Statistics (posts ++ [post]) ep where
  polls := by rw [recorded.polls, List.length_append, List.length_singleton]
  sent := by simp [recorded.sent]
  received := by simp [recorded.received, receives]
  average := by
    rw [recorded.average, List.map_append, List.map_singleton, MovingAverage.next]
    ring
  lastError := recorded.lastError.trans fails.symm
  scored := by
    rw [List.map_append, List.map_singleton]
    exact recorded.scored

theorem Statistics.record (statistics : Statistics posts ep) (post : PostRecord) :
    Recorded posts post 0 ep.lastError (ep.recordPost post.sent post.rttMs) where
  polls := congrArg (· + 1) statistics.polls
  sent := congrArg (· + post.sent) statistics.sent
  received := statistics.received
  average := by
    rw [← statistics.average]
    rfl
  lastError := rfl
  scored := by
    have counted := @EndpointState.Scored.of_measured _ ep
      { ep with totalPolls := ep.totalPolls + 1, totalBytesSent := ep.totalBytesSent + post.sent }
      statistics.scored rfl
    exact counted.record post.rttMs

theorem last_error_kept {post : PostRecord} (none : post.failure = none) :
    lastErrorOf (posts ++ [post]) = lastErrorOf posts := by
  rw [lastErrorOf, List.filterMap_append]
  simp [none, lastErrorOf]

theorem last_error_new {post : PostRecord} {status : Nat} (failed : post.failure = some status) :
    lastErrorOf (posts ++ [post]) = s!"HTTP {status}" := by
  rw [lastErrorOf, List.filterMap_append]
  simp [failed]

/-- An answer adds its post to the statistics. -/
theorem Statistics.answered (statistics : Statistics posts ep) (pool : SessionPool)
    (frames : List Frame) (sent : Nat) (rttMs now : ℚ) (answer : Answer) :
    Statistics (posts ++ [⟨sent, rttMs, answer⟩])
      (takeAnswer pool (ep.recordPost sent rttMs) frames now answer).ep := by
  have recorded := statistics.record ⟨sent, rttMs, answer⟩
  cases answer with
  | frames respFrames bodyLength =>
      have received : Recorded posts ⟨sent, rttMs, .frames respFrames bodyLength⟩ bodyLength
          ep.lastError { ep.recordPost sent rttMs with
            consecutiveFailures := 0
            totalBytesRecv := (ep.recordPost sent rttMs).totalBytesRecv + bodyLength } :=
        ⟨recorded.polls, recorded.sent, congrArg (· + bodyLength) recorded.received,
          recorded.average, recorded.lastError, recorded.scored.of_measured rfl⟩
      have shown := received.statistics rfl ((last_error_kept rfl).trans statistics.lastError.symm)
      exact shown.of_same (adapt_statistics _ _)
  | emptyBody | unreadable error =>
      have counted : Recorded posts ⟨sent, rttMs, _⟩ 0 ep.lastError
          { ep.recordPost sent rttMs with consecutiveFailures := 0 } :=
        ⟨recorded.polls, recorded.sent, recorded.received, recorded.average, recorded.lastError,
          recorded.scored.of_measured rfl⟩
      exact counted.statistics rfl ((last_error_kept rfl).trans statistics.lastError.symm)
  | failed status =>
      have counted : Recorded posts ⟨sent, rttMs, .failed status⟩ 0 s!"HTTP {status}"
          ((ep.recordPost sent rttMs).countFailure status) :=
        ⟨recorded.polls, recorded.sent, recorded.received, recorded.average, rfl,
          recorded.scored.of_measured rfl⟩
      have shown := counted.statistics rfl (last_error_new rfl)
      rw [takeAnswer, handleFailure]
      split_ifs <;> exact shown

end Answers

namespace RunningClient

/-- The answered posts that an event adds for an endpoint. -/
def recorded (e : Nat) (state : RunningClient) : ClientEvent → List PostRecord
  | .act _ => []
  | .answered index answer sent rttMs _ =>
      if (state.client.workers[index]?).any fun w => w.endpoint = e then [⟨sent, rttMs, answer⟩]
      else []

/-- The posts of an endpoint that were answered in a history, in that order. -/
def answeredPosts (e : Nat) (state : RunningClient) (history : List ClientEvent) :
    List PostRecord :=
  (clientMachine.totalCost (fun reached event => FreeAddMonoid.ofList (reached.recorded e event))
    state history).toList

end RunningClient

section Runs

variable {e : Nat} {state later : RunningClient} {event : ClientEvent} {posts : List PostRecord}

/-- Every endpoint shows the posts that its workers got answered. -/
def ShowsPosts (posts : Nat → List PostRecord) (client : Client) : Prop :=
  ∀ e ep, client.endpoints[e]? = some ep → Statistics (posts e) ep

theorem react_statistics {posts : Nat → List PostRecord} {before after : Client} {request : Nat}
    {action : ClientAction} {sent : Option Post} (shows : ShowsPosts posts before)
    (reacted : before.react request action = some (after, sent)) : ShowsPosts posts after := by
  by_cases health : ∃ index change, action = .health index change
  · obtain ⟨index, change, rfl⟩ := health
    cases Client.react_cases reacted
    intro e ep found
    rw [List.getElem?_modify] at found
    obtain ⟨old, present, rfl⟩ := Option.map_eq_some_iff.mp found
    have statistics := shows e old present
    split_ifs
    · exact statistics.of_same (health_statistics old change)
    · exact statistics
  · have same := (react_endpoints reacted fun index change same => health ⟨index, change, same⟩).1
    rw [ShowsPosts, same]
    exact shows

theorem answered_statistics {posts : Nat → List PostRecord} {index : Nat} {answer : Answer}
    {sent : Nat} {rttMs now : ℚ} {after : Client} (shows : ShowsPosts posts state.client)
    (taken : state.client.answered index answer sent rttMs now = some after) :
    ShowsPosts (fun e => posts e ++ state.recorded e (.answered index answer sent rttMs now))
      after := by
  unfold Client.answered at taken
  split at taken
  · next w found =>
      split at taken
      · next request frames ep posting present =>
          cases taken
          intro e later there
          dsimp only at there ⊢
          have adds : state.recorded e (.answered index answer sent rttMs now) =
              if w.endpoint = e then [⟨sent, rttMs, answer⟩] else [] := by
            simp only [RunningClient.recorded, found, Option.any_some, decide_eq_true_eq]
          rw [List.getElem?_set] at there
          by_cases here : w.endpoint = e
          · obtain ⟨bound, _⟩ := List.getElem?_eq_some_iff.mp present
            rw [if_pos here, if_pos (here ▸ bound)] at there
            cases there
            rw [adds, if_pos here]
            exact (shows e ep (here ▸ present)).answered _ _ _ _ _ _
          · rw [if_neg here] at there
            rw [adds, if_neg here, List.append_nil]
            exact shows e later there
      · cases taken
  · cases taken

/-- In every run of a client, each endpoint shows exactly the posts that its workers
got answered: how many, the bytes sent and received, the last error, the score of
the last twenty round trips and their moving average, which no round trip takes
beyond the bounds of all of them, and which starts at zero. -/
theorem endpoint_shows_its_posts {clientId : Bytes} {endpoints : Nat} {history : List ClientEvent}
    (run : clientMachine.Run StepMachine.anyStep (RunningClient.start clientId endpoints)
      history state) :
    ∀ e ep, state.client.endpoints[e]? = some ep →
      Statistics ((RunningClient.start clientId endpoints).answeredPosts e history) ep ∧
        ∀ lower upper : ℚ,
          (∀ post ∈ (RunningClient.start clientId endpoints).answeredPosts e history,
            lower ≤ post.rttMs ∧ post.rttMs ≤ upper) →
          lower * (1 - (9 / 10) ^ ep.totalPolls) ≤ ep.avgRttMs ∧
            ep.avgRttMs ≤ upper * (1 - (9 / 10) ^ ep.totalPolls) := by
  have shows : ShowsPosts
      (fun e => (RunningClient.start clientId endpoints).answeredPosts e history) state.client := by
    induction run with
    | start =>
        intro e ep found
        rw [List.eq_of_mem_replicate (List.mem_of_getElem? found)]
        exact statistics_new
    | @next history before after event prior _ stepped ih =>
        have longer : ∀ e, (RunningClient.start clientId endpoints).answeredPosts e
            (history ++ [event]) =
              (RunningClient.start clientId endpoints).answeredPosts e history ++
                before.recorded e event := by
          intro e
          rw [RunningClient.answeredPosts, prior.total_cost_next stepped]
          rfl
        simp only [longer]
        rcases client_step_cases stepped with ⟨action, sent, rfl, reacted⟩ |
          ⟨index, answer, sent, rttMs, now, rfl, taken⟩
        · simp only [RunningClient.recorded, List.append_nil]
          exact react_statistics ih reacted
        · exact answered_statistics ih taken
  intro e ep found
  have statistics := shows e ep found
  refine ⟨statistics, fun lower upper within => ?_⟩
  have times : ∀ rttMs ∈ ((RunningClient.start clientId endpoints).answeredPosts e history).map
      PostRecord.rttMs, lower ≤ rttMs ∧ rttMs ≤ upper := by
    intro rttMs member
    obtain ⟨post, listed, rfl⟩ := List.mem_map.mp member
    exact within post listed
  have share : (1 : ℚ) - 1 / 10 = 9 / 10 := by norm_num
  have positive : (0 : ℚ) ≤ 1 / 10 := by norm_num
  have below_one : (1 / 10 : ℚ) ≤ 1 := by norm_num
  have above := MovingAverage.lower 0 positive below_one fun rttMs member => (times rttMs member).1
  have below := MovingAverage.upper 0 positive below_one fun rttMs member => (times rttMs member).2
  rw [share, List.length_map, ← statistics.polls, ← statistics.average] at above below
  constructor
  · linarith
  · linarith

/-- One post refused and one answered with frames. -/
def refusedThenAnswered : List ClientEvent :=
  [opens 0, .act (.work 0 0), .answered 0 (.failed 500) 100 50 0,
    opens 1, .act (.work 0 1), .answered 0 (.frames [] 40) 120 70 1]

theorem two_posts_shown : ∃ state ep,
    clientMachine.Run StepMachine.anyStep freshClient refusedThenAnswered state ∧
      state.client.endpoints[0]? = some ep ∧ ep.totalPolls = 2 ∧ ep.totalBytesSent = 220 ∧
      ep.totalBytesRecv = 40 ∧ ep.lastError = "HTTP 500" := by
  obtain ⟨state, run, checked⟩ : ∃ state,
      clientMachine.Run StepMachine.anyStep freshClient refusedThenAnswered state ∧
        (state.client.endpoints[0]?).isSome = true :=
    StepMachine.run_of_exec_any _ (by decide +kernel)
  obtain ⟨ep, found⟩ := Option.isSome_iff_exists.mp checked
  have shown := (endpoint_shows_its_posts run 0 ep found).1
  have sent : (freshClient.answeredPosts 0 refusedThenAnswered).map PostRecord.sent =
      [100, 120] := by decide +kernel
  have received : (freshClient.answeredPosts 0 refusedThenAnswered).map PostRecord.received =
      [0, 40] := by decide +kernel
  have error : lastErrorOf (freshClient.answeredPosts 0 refusedThenAnswered) = "HTTP 500" := by
    decide +kernel
  refine ⟨state, ep, run, found, ?_, ?_, ?_, shown.lastError.trans error⟩
  · have polls := shown.polls
    rw [← List.length_map PostRecord.sent] at polls
    exact polls.trans (congrArg List.length sent)
  · exact shown.sent.trans (congrArg List.sum sent)
  · exact shown.received.trans (congrArg List.sum received)

end Runs

end Astrix
