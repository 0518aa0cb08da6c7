import Astrix.LongPoll

/-!
# Requests that do not authenticate

Every non-empty body must open under the tunnel key before anything is
dispatched. The empty body is decoded without opening anything and starts a
long poll like any other.
-/

namespace Astrix

open PyRuntime

set_option autoImplicit false

/-- No AES-GCM open of the body succeeds. -/
def Unauthenticated (prims : Primitives) (body : Bytes) : Prop :=
  ∀ plaintext, openBody prims body ≠ .ok plaintext

/-- The effects of the workers on a queue do not depend on what it holds. -/
theorem effect_tx_q (session : Nat) (effect : UpstreamEffect) (r : Nat) :
    ∃ added, ∀ pool : SessionPool,
      ((effect.apply pool session).objects r).txQ = (pool.objects r).txQ ++ added := by
  cases effect with
  | nothing => exact ⟨[], fun pool => (List.append_nil _).symm⟩
  | enqueueTx frame now =>
      refine ⟨if r = session then [frame] else [], fun pool => ?_⟩
      rw [UpstreamEffect.apply, SessionPool.enqueue_tx_objects]
      split_ifs with here
      · rw [here]
        rfl
      · rw [List.append_nil]
  | clearRxEvent =>
      refine ⟨[], fun pool => ?_⟩
      rw [UpstreamEffect.apply, SessionPool.clear_rx_event_objects, List.append_nil]
      split_ifs with here
      · rw [here]
        rfl
      · rfl
  | popRx =>
      refine ⟨[], fun pool => ?_⟩
      rw [UpstreamEffect.apply, SessionPool.pop_rx_objects, List.append_nil]
      split_ifs with here
      · rw [here]
        rfl
      · rfl

theorem gap_tx_q (gap : Gap) (r : Nat) : ∃ added, ∀ pool : SessionPool,
    ((gap.apply pool).objects r).txQ = (pool.objects r).txQ ++ added := by
  obtain ⟨effects, atCheck, afterScan⟩ := gap
  induction effects with
  | nil => exact ⟨[], fun pool => (List.append_nil _).symm⟩
  | cons entry rest ih =>
      obtain ⟨first, firstAdds⟩ := effect_tx_q entry.1 entry.2 r
      obtain ⟨later, laterAdds⟩ := ih
      refine ⟨first ++ later, fun pool => ?_⟩
      have step := laterAdds (entry.2.apply pool entry.1)
      rw [firstAdds, List.append_assoc] at step
      exact step

theorem workers_tx_q (gaps : List Gap) (r : Nat) : ∃ added, ∀ pool : SessionPool,
    ((workersOnly pool gaps).objects r).txQ = (pool.objects r).txQ ++ added := by
  induction gaps with
  | nil => exact ⟨[], fun pool => (List.append_nil _).symm⟩
  | cons gap rest ih =>
      obtain ⟨first, firstAdds⟩ := gap_tx_q gap r
      obtain ⟨later, laterAdds⟩ := ih
      refine ⟨first ++ later, fun pool => ?_⟩
      have step := laterAdds (gap.apply pool)
      rw [firstAdds, List.append_assoc] at step
      exact step

theorem effect_sessions (pool : SessionPool) (session : Nat) (effect : UpstreamEffect) :
    (effect.apply pool session).sessions = pool.sessions := by
  cases effect <;> rfl

theorem gap_sessions (gap : Gap) (pool : SessionPool) :
    (gap.apply pool).sessions = pool.sessions := by
  obtain ⟨effects, atCheck, afterScan⟩ := gap
  induction effects generalizing pool with
  | nil => rfl
  | cons entry rest ih => exact (ih _).trans (effect_sessions pool entry.1 entry.2)

theorem workers_sessions (gaps : List Gap) (pool : SessionPool) :
    (workersOnly pool gaps).sessions = pool.sessions := by
  induction gaps generalizing pool with
  | nil => rfl
  | cons gap rest ih => exact (ih _).trans (gap_sessions gap pool)

/-- A frame taken from a queue stays missing, whatever the workers add. -/
theorem workers_differ {taken full : SessionPool} {s : Nat} (gaps : List Gap)
    (shorter : (taken.objects s).txQ.length < (full.objects s).txQ.length) :
    workersOnly taken gaps ≠ workersOnly full gaps := by
  intro same
  obtain ⟨added, adds⟩ := workers_tx_q gaps s
  have queues := congrArg (fun pool => (pool.objects s).txQ.length) same
  simp only [adds, List.length_append] at queues
  omega

theorem cleanup_nothing {pool : SessionPool} {timeout now : ℚ}
    (nothing : pool.expired timeout now = []) :
    (pool.cleanupExpired timeout now).1 = pool := by
  rw [SessionPool.cleanupExpired, nothing]
  rfl

/-- Purging a session that is present shrinks the pool. -/
theorem cleanup_something {pool : SessionPool} {timeout now : ℚ}
    (something : pool.expired timeout now ≠ []) :
    (pool.cleanupExpired timeout now).1.sessionCount < pool.sessionCount := by
  rw [SessionPool.cleanupExpired]
  cases entries : pool.expired timeout now with
  | nil => exact absurd entries something
  | cons entry rest =>
      have present : entry ∈ pool.sessions.entries := by
        have listed : entry ∈ pool.expired timeout now := by
          rw [entries]
          exact List.mem_cons_self
        exact List.mem_of_mem_filter listed
      have first : (pool.purge entry).sessionCount < pool.sessionCount := by
        apply List.length_filter_lt_length_iff_exists.mpr
        exact ⟨entry, present, by simp⟩
      exact Nat.lt_of_le_of_lt (SessionPool.purge_all_count rest _) first

theorem collect_garbage_nothing {pool : SessionPool} {poll : Poll}
    (nothing : poll.nowT - poll.lastGc ≥ gcInterval →
      pool.expired idleSessionTimeout poll.nowT = []) :
    collectGarbage pool poll = (pool, afterGc poll) := by
  have untouched : (collectGarbage pool poll).1 = pool := by
    rw [collectGarbage]
    split_ifs with due
    · exact cleanup_nothing (nothing due)
    · rfl
  exact Prod.ext untouched (collect_garbage_poll pool poll)

theorem poll_round_count (pool : SessionPool) (poll : Poll) (atCheck afterScan : ℚ) :
    (pollRound pool poll atCheck afterScan).1.sessionCount = pool.sessionCount := by
  simp only [pollRound]
  split_ifs
  · rfl
  · exact congrArg (fun dict => dict.entries.length) (scan_sessions_dict pool _)
  · exact congrArg (fun dict => dict.entries.length) (scan_sessions_dict pool _)

theorem workers_count (pool : SessionPool) (gaps : List Gap) :
    (workersOnly pool gaps).sessionCount = pool.sessionCount :=
  congrArg (fun dict => dict.entries.length) (workers_sessions gaps pool)

theorem gap_count (gap : Gap) (pool : SessionPool) :
    (gap.apply pool).sessionCount = pool.sessionCount :=
  congrArg (fun dict => dict.entries.length) (gap_sessions gap pool)

/-- A long poll never adds a session. -/
theorem await_count (gaps : List Gap) (pool : SessionPool) (outcome : PollOutcome) :
    (awaitPoll pool outcome gaps).1.sessionCount ≤ pool.sessionCount := by
  induction gaps generalizing pool outcome with
  | nil => cases outcome <;> exact Nat.le_refl _
  | cons gap rest ih =>
      cases outcome with
      | answered frames =>
          exact (ih _ _).trans (Nat.le_of_eq (gap_count gap pool))
      | asleep poll sleepFor =>
          calc
            (awaitPoll pool (.asleep poll sleepFor) (gap :: rest)).1.sessionCount ≤
                (resumePoll (gap.apply pool) poll gap.atCheck gap.afterScan).1.sessionCount :=
              ih _ _
            _ = (collectGarbage (gap.apply pool) poll).1.sessionCount :=
              poll_round_count _ _ _ _
            _ ≤ (gap.apply pool).sessionCount := collect_garbage_count _ _
            _ = pool.sessionCount := gap_count gap pool

/-- Every scan before the deadline finds all queues empty and no garbage
collection finds an expired session, while only the workers act. -/
def Quiet (poll : Poll) (pool : SessionPool) : List Gap → Prop
  | [] => True
  | gap :: rest =>
      (poll.nowT - poll.lastGc ≥ gcInterval →
          (gap.apply pool).expired idleSessionTimeout poll.nowT = []) ∧
        (poll.waitDeadline ≤ gap.atCheck ∨ NothingQueued (gap.apply pool) ∧
          Quiet { afterGc poll with nowT := gap.afterScan } (gap.apply pool) rest)

/-- One round: a garbage collection that finds something, the deadline, a scan
that finds something, or another sleep with nothing changed. -/
theorem resume_round_changes_nothing {poll : Poll} (none : poll.responseFrames = [])
    (pool : SessionPool) (gap : Gap) (rest : List Gap)
    (later : ∀ sleepFor, (awaitPoll (gap.apply pool)
        (.asleep { afterGc poll with nowT := gap.afterScan } sleepFor) rest).1 =
          workersOnly (gap.apply pool) rest ↔
        Quiet { afterGc poll with nowT := gap.afterScan } (gap.apply pool) rest) :
    (awaitPoll (resumePoll (gap.apply pool) poll gap.atCheck gap.afterScan).1
        (resumePoll (gap.apply pool) poll gap.atCheck gap.afterScan).2 rest).1 =
      workersOnly (gap.apply pool) rest ↔ Quiet poll pool (gap :: rest) := by
  by_cases nothing : poll.nowT - poll.lastGc ≥ gcInterval →
      (gap.apply pool).expired idleSessionTimeout poll.nowT = []
  · have resumed : resumePoll (gap.apply pool) poll gap.atCheck gap.afterScan =
        pollRound (gap.apply pool) (afterGc poll) gap.atCheck gap.afterScan := by
      rw [resumePoll, collect_garbage_nothing nothing]
    have quiet : Quiet poll pool (gap :: rest) ↔
        (poll.waitDeadline ≤ gap.atCheck ∨ NothingQueued (gap.apply pool) ∧
          Quiet { afterGc poll with nowT := gap.afterScan } (gap.apply pool) rest) :=
      and_iff_right nothing
    have noFrames : (afterGc poll).responseFrames = [] := (after_gc_frames poll).trans none
    rw [resumed, quiet]
    by_cases ended : poll.waitDeadline ≤ gap.atCheck
    · rw [poll_round_over _ ((after_gc_deadline poll).trans_le ended), await_answered]
      exact iff_of_true rfl (.inl ended)
    · have early : ¬ (afterGc poll).waitDeadline ≤ gap.atCheck := by
        rwa [after_gc_deadline]
      rw [or_iff_right ended]
      by_cases queued : NothingQueued (gap.apply pool)
      · obtain ⟨sleepFor, asleep⟩ := poll_round_nothing gap.afterScan early noFrames queued
        rw [asleep, and_iff_right queued]
        exact later sleepFor
      · obtain ⟨frames, s, shorter⟩ := scan_something queued (afterGc poll).responseFrames
        rw [poll_round_found _ early frames, await_answered]
        exact iff_of_false (workers_differ rest shorter) fun both => queued both.1
  · obtain ⟨due, something⟩ := Classical.not_imp.mp nothing
    have purged : (collectGarbage (gap.apply pool) poll).1.sessionCount <
        (gap.apply pool).sessionCount := by
      rw [collectGarbage, if_pos due]
      exact cleanup_something something
    refine iff_of_false (fun same => ?_) fun quiet => nothing quiet.1
    have final := congrArg SessionPool.sessionCount same
    rw [workers_count] at final
    have bound := await_count rest
      (resumePoll (gap.apply pool) poll gap.atCheck gap.afterScan).1
      (resumePoll (gap.apply pool) poll gap.atCheck gap.afterScan).2
    have round : (resumePoll (gap.apply pool) poll gap.atCheck gap.afterScan).1.sessionCount =
        (collectGarbage (gap.apply pool) poll).1.sessionCount := poll_round_count _ _ _ _
    omega

theorem await_asleep_changes_nothing (gaps : List Gap) (pool : SessionPool) {poll : Poll}
    (none : poll.responseFrames = []) (sleepFor : ℚ) :
    (awaitPoll pool (.asleep poll sleepFor) gaps).1 = workersOnly pool gaps ↔
      Quiet poll pool gaps := by
  induction gaps generalizing pool poll sleepFor with
  | nil => exact iff_of_true rfl trivial
  | cons gap rest ih =>
      apply resume_round_changes_nothing none pool gap rest
      intro sleepFor
      apply ih
      exact (after_gc_frames poll).trans none

/-- A request that does not authenticate leaves the pool to the workers if and
only if its body is not empty or its long poll happens to find nothing: no
queued frame at any scan and no expired session. -/
theorem unauthenticated_post_iff (prims : Primitives) (locked : Bool) (body : Bytes) (now : ℚ)
    (pool : SessionPool) (gaps : List Gap) (refused : Unauthenticated prims body) :
    (handleTunnelPost prims locked body now pool gaps).1 = workersOnly pool gaps ↔
      body ≠ [] ∨ Quiet (startPoll zeroId [] now) pool gaps := by
  cases gaps with
  | nil => exact iff_of_true rfl (.inr trivial)
  | cons gap rest =>
      by_cases empty : body = []
      · subst empty
        have decoded : decodeBatch prims [] = .ok (zeroId, []) := rfl
        simp only [ne_eq, not_true_eq_false, false_or]
        rw [handleTunnelPost, decoded]
        have round := @resume_round_changes_nothing (startPoll zeroId [] now) rfl pool gap
          rest fun sleepFor => await_asleep_changes_nothing rest _
            (after_gc_frames _) sleepFor
        rw [resume_start] at round
        exact round
      · have rejected : ∃ error, decodeBatch prims body = .error error := by
          cases decoded : decodeBatch prims body with
          | error error => exact ⟨error, rfl⟩
          | ok result =>
              obtain ⟨plaintext, opened⟩ := decode_batch_opens empty decoded
              exact absurd opened (refused plaintext)
        obtain ⟨error, rejected⟩ := rejected
        refine iff_of_true ?_ (.inl empty)
        rw [handleTunnelPost, rejected]
        rfl

/-- The empty body takes the chunk away from the session. -/
theorem empty_body_takes_queued_frame :
    Unauthenticated tagPrimitives [] ∧
      (handleTunnelPost tagPrimitives false [] 0 downloadPool [promptGap]).1 ≠
        workersOnly downloadPool [promptGap] := by
  refine ⟨short_body_rejected tagPrimitives [] (by decide), fun same => ?_⟩
  have queues := congrArg (fun pool => (pool.objects 0).txQ) same
  revert queues
  decide +kernel

theorem unauthenticated_post_iff_empty_body :
    (handleTunnelPost tagPrimitives false [] 0 downloadPool [promptGap]).1 =
        workersOnly downloadPool [promptGap] ↔
      ([] : Bytes) ≠ [] ∨ Quiet (startPoll zeroId [] 0) downloadPool [promptGap] :=
  unauthenticated_post_iff tagPrimitives false [] 0 downloadPool [promptGap]
    (short_body_rejected tagPrimitives [] (by decide))

end Astrix
