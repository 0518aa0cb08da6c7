import Mathlib.Tactic.SplitIfs
import Astrix.Carrier

/-!
# What one drain takes

A drain visits distinct sessions. At each it takes the front of the queue, or,
when the budget of the batch is exceeded, puts the whole front back. Nothing
else of the pool changes.
-/

namespace Astrix

open PyRuntime

set_option autoImplicit false

theorem strided_sublist {α : Type} (step skip : Nat) (items : List α) :
    (strided step skip items).Sublist items := by
  induction items generalizing skip with
  | nil => exact List.Sublist.refl []
  | cons x rest ih =>
      cases skip with
      | zero => exact (ih (step - 1)).cons_cons x
      | succ skip => exact (ih skip).cons x

theorem worker_sids_nodup (pool : SessionPool) (workerId : Nat) :
    (workerSids pool workerId).Nodup :=
  (strided_sublist _ _ _).nodup pool.sessions.distinct

def encodedTotal (frames : List Frame) : Nat := (frames.map encodedSize).sum

/-- One snapshot either fits the budget and is taken whole, or goes back. -/
theorem take_frames_result (snapshot : DrainSnapshot) (now : ℚ) (rest : List Frame)
    {drain : Drain} (budget : drain.totalSize ≤ MaxFramePayload)
    (returned : (takeFrames snapshot now drain rest).failed = none) :
    (takeFrames snapshot now drain rest).totalSize ≤ MaxFramePayload ∧
      (drain.totalSize + encodedTotal rest ≤ MaxFramePayload →
        (takeFrames snapshot now drain rest).pool = drain.pool ∧
          (takeFrames snapshot now drain rest).frames = drain.frames ++ rest) ∧
      (¬ drain.totalSize + encodedTotal rest ≤ MaxFramePayload →
        (takeFrames snapshot now drain rest).pool = drain.pool.rollbackDrain snapshot now ∧
          ∃ taken, taken <+: rest ∧
            (takeFrames snapshot now drain rest).frames = drain.frames ++ taken) := by
  induction rest generalizing drain with
  | nil =>
      refine ⟨budget, fun _ => ⟨rfl, (List.append_nil _).symm⟩, fun overflow => ?_⟩
      exact absurd budget overflow
  | cons f rest ih =>
      have total : encodedTotal (f :: rest) = encodedSize f + encodedTotal rest := rfl
      cases length : f.encodedLen with
      | error error =>
          simp [takeFrames, length] at returned
      | ok elen =>
          have size : encodedSize f = elen := by
            rw [encodedSize, length]
            rfl
          by_cases overflow : drain.totalSize + elen > MaxFramePayload
          · have stopped : takeFrames snapshot now drain (f :: rest) =
                { drain with pool := drain.pool.rollbackDrain snapshot now } := by
              simp only [takeFrames, length, overflow, if_true]
            rw [stopped]
            refine ⟨budget, fun fits => ?_, fun _ => ⟨rfl, [], List.nil_prefix, ?_⟩⟩
            · omega
            · exact (List.append_nil _).symm
          · have continued : takeFrames snapshot now drain (f :: rest) =
                takeFrames snapshot now
                  { drain with
                    frames := drain.frames ++ [f]
                    totalSize := drain.totalSize + elen } rest := by
              simp only [takeFrames, length, overflow, if_false]
            rw [continued] at returned ⊢
            obtain ⟨bound, whole, back⟩ := ih (Nat.le_of_not_lt overflow) returned
            refine ⟨bound, fun fits => ?_, fun exceeds => ?_⟩
            · obtain ⟨samePool, allTaken⟩ := whole (by dsimp only; omega)
              exact ⟨samePool, by rw [allTaken, List.append_assoc, List.singleton_append]⟩
            · obtain ⟨rolled, taken, front, some⟩ := back (by dsimp only; omega)
              refine ⟨rolled, f :: taken, (List.prefix_cons_inj f).mpr front, ?_⟩
              rw [some, List.append_assoc, List.singleton_append]

/-- A failed drain stays failed. -/
theorem drain_session_failed {batchSize : Nat} {now : ℚ} {drain : Drain} {sid : Bytes}
    (returned : (drainSession batchSize now drain sid).failed = none) : drain.failed = none := by
  by_cases failed : drain.failed = none
  · exact failed
  · rw [drainSession, if_pos failed] at returned
    exact returned

theorem drain_fold_failed {batchSize : Nat} {now : ℚ} {sids : List Bytes} {drain : Drain}
    (returned : (sids.foldl (drainSession batchSize now) drain).failed = none) :
    drain.failed = none := by
  induction sids generalizing drain with
  | nil => exact returned
  | cons sid rest ih => exact drain_session_failed (ih returned)

/-- The front of a session's queue that a drain asks for. -/
def front (pool : SessionPool) (batchSize : Nat) (sid : Bytes) : List Frame :=
  match pool.get sid with
  | some ref => (pool.objects ref).txQ.take batchSize
  | none => []

theorem front_found {pool : SessionPool} {batchSize : Nat} {sid : Bytes} {ref : Nat}
    (found : pool.get sid = some ref) :
    front pool batchSize sid = (pool.objects ref).txQ.take batchSize := by
  rw [front, found]

/-- The batch has no room for the whole front. -/
def Overflows (drain : Drain) (batchSize : Nat) (sid : Bytes) : Prop :=
  ¬ drain.totalSize + encodedTotal (front drain.pool batchSize sid) ≤ MaxFramePayload

instance (drain : Drain) (batchSize : Nat) (sid : Bytes) :
    Decidable (Overflows drain batchSize sid) :=
  inferInstanceAs (Decidable (¬ _ ≤ _))

/-- Everything that a visit which raises nothing can be. -/
inductive Visited (batchSize : Nat) (now : ℚ) (drain : Drain) (sid : Bytes) (after : Drain) :
    Prop where
  | unqueued (nothing : front drain.pool batchSize sid = [])
      (frames : after.frames = drain.frames) (pool : after.pool = drain.pool) :
      Visited batchSize now drain sid after
  | noFront (ref : Nat) (found : drain.pool.get sid = some ref)
      (nothing : front drain.pool batchSize sid = []) (frames : after.frames = drain.frames)
      (pool : after.pool = drain.pool.drainTx ref batchSize) :
      Visited batchSize now drain sid after
  | taken (ref : Nat) (found : drain.pool.get sid = some ref)
      (fits : ¬ Overflows drain batchSize sid)
      (frames : after.frames = drain.frames ++ front drain.pool batchSize sid)
      (pool : after.pool = drain.pool.drainTx ref batchSize) :
      Visited batchSize now drain sid after
  | putBack (ref : Nat) (taken : List Frame) (found : drain.pool.get sid = some ref)
      (overflow : Overflows drain batchSize sid)
      (part : taken <+: front drain.pool batchSize sid)
      (frames : after.frames = drain.frames ++ taken)
      (pool : after.pool = (drain.pool.drainTx ref batchSize).rollbackDrain
        ⟨sid, front drain.pool batchSize sid, (front drain.pool batchSize sid).length,
          totalPayload (front drain.pool batchSize sid)⟩ now) :
      Visited batchSize now drain sid after

theorem drain_session_result {batchSize : Nat} {now : ℚ} {drain : Drain} {sid : Bytes}
    (budget : drain.totalSize ≤ MaxFramePayload)
    (returned : (drainSession batchSize now drain sid).failed = none) :
    (drainSession batchSize now drain sid).totalSize ≤ MaxFramePayload ∧
      Visited batchSize now drain sid (drainSession batchSize now drain sid) := by
  have running : drain.failed = none := drain_session_failed returned
  rcases drain.pool.drain_cases sid batchSize with ⟨empty, same⟩ | ⟨ref, found, queued, taken⟩
  · have nothing : front drain.pool batchSize sid = [] := by
      rw [front]
      cases found : drain.pool.get sid with
      | none => rfl
      | some ref =>
          dsimp only
          rw [empty ref found, List.take_nil]
    have unchanged : drainSession batchSize now drain sid = drain := by
      rw [drainSession, if_neg (not_not.mpr running), same]
      rfl
    rw [unchanged]
    exact ⟨budget, .unqueued nothing rfl rfl⟩
  · rw [← front_found found] at taken
    by_cases none : front drain.pool batchSize sid = []
    · have unchanged : drainSession batchSize now drain sid =
          { drain with pool := drain.pool.drainTx ref batchSize } := by
        rw [drainSession, if_neg (not_not.mpr running), taken, none]
        rfl
      rw [unchanged]
      exact ⟨budget, .noFront ref found none rfl rfl⟩
    · have count : (front drain.pool batchSize sid).length ≠ 0 := by
        rwa [ne_eq, List.length_eq_zero_iff]
      have step : drainSession batchSize now drain sid =
          takeFrames ⟨sid, front drain.pool batchSize sid,
            (front drain.pool batchSize sid).length,
            totalPayload (front drain.pool batchSize sid)⟩ now
            { drain with pool := drain.pool.drainTx ref batchSize }
            (front drain.pool batchSize sid) := by
        rw [drainSession, if_neg (not_not.mpr running), taken]
        dsimp only
        rw [if_neg count]
      rw [step] at returned ⊢
      obtain ⟨bound, whole, back⟩ := @take_frames_result _ now _
        { drain with pool := drain.pool.drainTx ref batchSize } budget returned
      refine ⟨bound, ?_⟩
      by_cases overflow : Overflows drain batchSize sid
      · obtain ⟨pool, part, isPrefix, frames⟩ := back overflow
        exact .putBack ref part found overflow isPrefix frames pool
      · obtain ⟨pool, frames⟩ := whole (not_not.mp overflow)
        exact .taken ref found overflow frames pool

theorem rollback_found {pool : SessionPool} {snapshot : DrainSnapshot} {ref : Nat} (now : ℚ)
    (found : pool.get snapshot.sessionId = some ref) :
    pool.rollbackDrain snapshot now = pool.rollbackTx ref snapshot now := by
  rw [SessionPool.rollbackDrain, found]

/-- What a visit leaves on the queue it visits, and what it takes. -/
theorem visit_queue {batchSize : Nat} {now : ℚ} {drain : Drain} {sid : Bytes} {ref : Nat}
    (budget : drain.totalSize ≤ MaxFramePayload) (found : drain.pool.get sid = some ref)
    (returned : (drainSession batchSize now drain sid).failed = none) :
    (¬ Overflows drain batchSize sid →
      ((drainSession batchSize now drain sid).pool.objects ref).txQ =
          (drain.pool.objects ref).txQ.drop batchSize ∧
        (drainSession batchSize now drain sid).frames =
          drain.frames ++ front drain.pool batchSize sid) ∧
    (Overflows drain batchSize sid →
      ((drainSession batchSize now drain sid).pool.objects ref).txQ =
          (drain.pool.objects ref).txQ ∧
        ∃ taken, taken <+: front drain.pool batchSize sid ∧
          (drainSession batchSize now drain sid).frames = drain.frames ++ taken) := by
  have frontIs := @front_found _ batchSize _ _ found
  have ownRef : ∀ other, drain.pool.get sid = some other → other = ref := fun other same =>
    Option.some.inj (same.symm.trans found)
  have room : front drain.pool batchSize sid = [] →
      ¬ Overflows drain batchSize sid ∧
        (drain.pool.objects ref).txQ.drop batchSize = (drain.pool.objects ref).txQ := by
    intro nothing
    have whole := List.take_append_drop batchSize (drain.pool.objects ref).txQ
    rw [← frontIs, nothing, List.nil_append] at whole
    refine ⟨?_, whole⟩
    rw [Overflows, nothing]
    exact not_not.mpr budget
  cases (drain_session_result budget returned).2 with
  | unqueued nothing frames pool =>
      obtain ⟨fits, kept⟩ := room nothing
      refine ⟨fun _ => ⟨?_, by rw [frames, nothing, List.append_nil]⟩,
        fun overflow => absurd overflow fits⟩
      rw [pool, kept]
  | noFront other same nothing frames pool =>
      obtain ⟨fits, _⟩ := room nothing
      refine ⟨fun _ => ⟨?_, by rw [frames, nothing, List.append_nil]⟩,
        fun overflow => absurd overflow fits⟩
      rw [ownRef other same] at pool
      rw [pool, SessionPool.drain_tx_objects, if_pos rfl]
      rfl
  | taken other same fits frames pool =>
      refine ⟨fun _ => ⟨?_, frames⟩, fun overflow => absurd overflow fits⟩
      rw [ownRef other same] at pool
      rw [pool, SessionPool.drain_tx_objects, if_pos rfl]
      rfl
  | putBack other taken same overflow part frames pool =>
      refine ⟨fun fits => absurd overflow fits, fun _ => ⟨?_, taken, part, frames⟩⟩
      rw [ownRef other same] at pool
      rw [pool, rollback_found now found, SessionPool.rollback_tx_objects, if_pos rfl,
        SessionPool.drain_tx_objects, if_pos rfl, frontIs]
      exact List.take_append_drop _ _

/-- What one visit cannot change. -/
structure Untouched (before after : SessionPool) : Prop where
  sessions : after.sessions = before.sessions
  fresh : after.fresh = before.fresh
  ids : ∀ r, (after.objects r).sessionId = (before.objects r).sessionId
  targets : ∀ r, (after.objects r).target = (before.objects r).target
  rx : ∀ r, (after.objects r).rxQ = (before.objects r).rxQ

theorem Untouched.refl (pool : SessionPool) : Untouched pool pool :=
  ⟨rfl, rfl, fun _ => rfl, fun _ => rfl, fun _ => rfl⟩

theorem Untouched.trans {first second third : SessionPool} (one : Untouched first second)
    (two : Untouched second third) : Untouched first third where
  sessions := two.sessions.trans one.sessions
  fresh := two.fresh.trans one.fresh
  ids r := (two.ids r).trans (one.ids r)
  targets r := (two.targets r).trans (one.targets r)
  rx r := (two.rx r).trans (one.rx r)

theorem Untouched.get {before after : SessionPool} (same : Untouched before after) (sid : Bytes) :
    after.get sid = before.get sid := by
  rw [SessionPool.get, same.sessions]
  rfl

theorem untouched_modify (pool : SessionPool) (ref : Nat) (change : Session → Session)
    (sameId : ∀ s, (change s).sessionId = s.sessionId)
    (sameTarget : ∀ s, (change s).target = s.target) (sameRx : ∀ s, (change s).rxQ = s.rxQ) :
    Untouched pool (pool.modify ref change sameId) where
  sessions := rfl
  fresh := rfl
  ids r := SessionPool.modify_session_id pool ref r change sameId
  targets r := by
    rw [SessionPool.modify_objects]
    split_ifs with here
    · rw [sameTarget, here]
    · rfl
  rx r := by
    rw [SessionPool.modify_objects]
    split_ifs with here
    · rw [sameRx, here]
    · rfl

theorem untouched_drain_tx (pool : SessionPool) (ref maxFrames : Nat) :
    Untouched pool (pool.drainTx ref maxFrames) :=
  untouched_modify _ _ _ _ (fun _ => rfl) fun _ => rfl

theorem untouched_rollback_tx (pool : SessionPool) (ref : Nat) (snapshot : DrainSnapshot)
    (now : ℚ) : Untouched pool (pool.rollbackTx ref snapshot now) :=
  untouched_modify _ _ _ _ (fun _ => rfl) fun _ => rfl

section Preserves

variable {P : SessionPool → Prop}

/-- What taking the front of a queue and putting it back preserve, the loop over
the frames of a snapshot preserves. -/
theorem take_frames_preserves
    (rolled : ∀ pool ref snapshot now, P pool → P (pool.rollbackTx ref snapshot now))
    (snapshot : DrainSnapshot) (now : ℚ) (rest : List Frame) {drain : Drain}
    (holds : P drain.pool) : P (takeFrames snapshot now drain rest).pool := by
  induction rest generalizing drain with
  | nil => exact holds
  | cons f rest ih =>
      rw [takeFrames]
      cases f.encodedLen with
      | error error => exact holds
      | ok elen =>
          dsimp only
          split_ifs
          · dsimp only
            rw [SessionPool.rollbackDrain]
            cases drain.pool.get snapshot.sessionId with
            | none => exact holds
            | some ref => exact rolled _ _ _ _ holds
          · exact @ih { drain with
              frames := drain.frames ++ [f]
              totalSize := drain.totalSize + elen } holds

variable (drained : ∀ pool ref maxFrames, P pool → P (pool.drainTx ref maxFrames))
  (rolled : ∀ pool ref snapshot now, P pool → P (pool.rollbackTx ref snapshot now))

include drained rolled

theorem visit_preserves (batchSize : Nat) (now : ℚ) {drain : Drain} (sid : Bytes)
    (holds : P drain.pool) : P (drainSession batchSize now drain sid).pool := by
  have taken : P (drain.pool.drainTxLimitedTxn sid batchSize).1 := by
    rcases drain.pool.drain_cases sid batchSize with ⟨_, same⟩ | ⟨ref, _, _, front⟩
    · rw [same]
      exact holds
    · rw [front]
      exact drained _ _ _ holds
  rw [drainSession]
  split_ifs with failed
  · exact holds
  · dsimp only
    split_ifs
    · exact taken
    · exact @take_frames_preserves P rolled _ now _
        { drain with pool := (drain.pool.drainTxLimitedTxn sid batchSize).1 } taken

theorem fold_preserves (batchSize : Nat) (now : ℚ) (sids : List Bytes) {drain : Drain}
    (holds : P drain.pool) : P (sids.foldl (drainSession batchSize now) drain).pool := by
  induction sids generalizing drain with
  | nil => exact holds
  | cons sid rest ih => exact ih (visit_preserves drained rolled batchSize now sid holds)

theorem drain_all_preserves (batchSize workerId : Nat) (now : ℚ) {pool : SessionPool}
    (holds : P pool) : P (drainAll pool batchSize workerId now).pool :=
  @fold_preserves P drained rolled batchSize now (workerSids pool workerId) (startDrain pool) holds

end Preserves

theorem untouched_visit (batchSize : Nat) (now : ℚ) (drain : Drain) (sid : Bytes) :
    Untouched drain.pool (drainSession batchSize now drain sid).pool :=
  visit_preserves (fun _ _ _ same => same.trans (untouched_drain_tx _ _ _))
    (fun _ _ _ _ same => same.trans (untouched_rollback_tx _ _ _ _)) batchSize now sid
    (Untouched.refl _)

theorem untouched_fold (batchSize : Nat) (now : ℚ) (sids : List Bytes) (drain : Drain) :
    Untouched drain.pool (sids.foldl (drainSession batchSize now) drain).pool :=
  fold_preserves (fun _ _ _ same => same.trans (untouched_drain_tx _ _ _))
    (fun _ _ _ _ same => same.trans (untouched_rollback_tx _ _ _ _)) batchSize now sids
    (Untouched.refl _)

theorem untouched_drain_all (pool : SessionPool) (batchSize workerId : Nat) (now : ℚ) :
    Untouched pool (drainAll pool batchSize workerId now).pool :=
  untouched_fold batchSize now (workerSids pool workerId) (startDrain pool)

theorem visit_elsewhere {batchSize : Nat} {now : ℚ} {drain : Drain} {sid : Bytes} {r : Nat}
    (budget : drain.totalSize ≤ MaxFramePayload) (elsewhere : drain.pool.get sid ≠ some r)
    (returned : (drainSession batchSize now drain sid).failed = none) :
    (drainSession batchSize now drain sid).pool.objects r = drain.pool.objects r := by
  have untouched : ∀ ref, drain.pool.get sid = some ref →
      (drain.pool.drainTx ref batchSize).objects r = drain.pool.objects r := by
    intro ref found
    rw [SessionPool.drain_tx_objects, if_neg]
    rintro rfl
    exact elsewhere found
  cases (drain_session_result budget returned).2 with
  | unqueued _ _ pool => rw [pool]
  | noFront ref found _ _ pool | taken ref found _ _ pool =>
      rw [pool]
      exact untouched ref found
  | putBack ref _ found _ _ _ pool =>
      rw [pool, rollback_found now found, SessionPool.rollback_tx_objects, if_neg]
      · exact untouched ref found
      · rintro rfl
        exact elsewhere found

/-- The frames of one session in a batch. -/
def sessionFrames (sid : Bytes) (frames : List Frame) : List Frame :=
  frames.filter fun f => f.sessionId = sid

@[simp] theorem session_frames_append (sid : Bytes) (first second : List Frame) :
    sessionFrames sid (first ++ second) = sessionFrames sid first ++ sessionFrames sid second :=
  List.filter_append _ _

theorem session_frames_all {sid : Bytes} {frames : List Frame}
    (own : ∀ f ∈ frames, f.sessionId = sid) : sessionFrames sid frames = frames :=
  List.filter_eq_self.mpr fun f member => decide_eq_true (own f member)

theorem session_frames_none {sid : Bytes} {frames : List Frame}
    (foreign : ∀ f ∈ frames, f.sessionId ≠ sid) : sessionFrames sid frames = [] :=
  List.filter_eq_nil_iff.mpr fun f member same => foreign f member (of_decide_eq_true same)

/-- Every queued frame carries its session's id. -/
abbrev OwnQueues (pool : SessionPool) : Prop :=
  pool.Holds SessionPool.OwnFrame SessionPool.AnyFrame

theorem front_own {pool : SessionPool} (own : OwnQueues pool) {batchSize : Nat} {sid : Bytes} :
    ∀ f ∈ front pool batchSize sid, f.sessionId = sid := by
  intro f member
  rw [front] at member
  cases found : pool.get sid with
  | none =>
      rw [found] at member
      cases member
  | some ref =>
      rw [found] at member
      have queued := own.tx ref f (List.mem_of_mem_take member)
      exact queued.trans (SessionPool.get_keyed found).2

section Queues

variable {T R : Bytes → Frame → Prop}

theorem take_frames_holds {snapshot : DrainSnapshot} {now : ℚ} {rest : List Frame} {drain : Drain}
    (held : drain.pool.Holds T R) (snapped : ∀ f ∈ snapshot.frames, T snapshot.sessionId f)
    (listed : ∀ f ∈ rest, f ∈ snapshot.frames) :
    (takeFrames snapshot now drain rest).pool.Holds T R ∧
      ∀ f ∈ (takeFrames snapshot now drain rest).frames,
        f ∈ drain.frames ∨ T snapshot.sessionId f := by
  induction rest generalizing drain with
  | nil => exact ⟨held, fun f member => .inl member⟩
  | cons f rest ih =>
      rw [takeFrames]
      cases f.encodedLen with
      | error error => exact ⟨held, fun f member => .inl member⟩
      | ok elen =>
          dsimp only
          split_ifs
          · exact ⟨held.rollback now snapped, fun f member => .inl member⟩
          · have later := @ih { drain with
              frames := drain.frames ++ [f]
              totalSize := drain.totalSize + elen } held
              fun g member => listed g (List.mem_cons_of_mem _ member)
            refine ⟨later.1, fun g member => ?_⟩
            rcases later.2 g member with before | good
            · rcases List.mem_append.mp before with old | new
              · exact .inl old
              · rw [List.mem_singleton.mp new]
                exact .inr (snapped f (listed f List.mem_cons_self))
            · exact .inr good

theorem visit_holds {batchSize : Nat} {now : ℚ} {drain : Drain} {sid : Bytes}
    (held : drain.pool.Holds T R) :
    (drainSession batchSize now drain sid).pool.Holds T R ∧
      ∀ f ∈ (drainSession batchSize now drain sid).frames, f ∈ drain.frames ∨ T sid f := by
  rw [drainSession]
  split_ifs
  · exact ⟨held, fun f member => .inl member⟩
  · have drained := held.drain sid batchSize
    have sameSid : (drain.pool.drainTxLimitedTxn sid batchSize).2.sessionId = sid := by
      rcases drain.pool.drain_cases sid batchSize with ⟨_, same⟩ | ⟨ref, _, _, same⟩ <;> rw [same]
    have snapped : ∀ f ∈ (drain.pool.drainTxLimitedTxn sid batchSize).2.frames,
        T (drain.pool.drainTxLimitedTxn sid batchSize).2.sessionId f := by
      rw [sameSid]
      exact drained.2
    dsimp only
    split_ifs
    · exact ⟨drained.1, fun f member => .inl member⟩
    · have taken := @take_frames_holds T R _ now _
        { drain with pool := (drain.pool.drainTxLimitedTxn sid batchSize).1 } drained.1 snapped
        fun f member => member
      rw [sameSid] at taken
      exact taken

/-- A drain keeps the queues, and each frame it takes satisfies `T` for the id
of a visited session. -/
theorem fold_holds {batchSize : Nat} {now : ℚ} (sids : List Bytes) {drain : Drain}
    (held : drain.pool.Holds T R) :
    (sids.foldl (drainSession batchSize now) drain).pool.Holds T R ∧
      ∀ f ∈ (sids.foldl (drainSession batchSize now) drain).frames,
        f ∈ drain.frames ∨ ∃ sid ∈ sids, T sid f := by
  induction sids generalizing drain with
  | nil => exact ⟨held, fun f member => .inl member⟩
  | cons sid rest ih =>
      have first := @visit_holds T R batchSize now drain sid held
      have later := ih first.1
      refine ⟨later.1, fun f member => ?_⟩
      rcases later.2 f member with before | ⟨other, listed, good⟩
      · rcases first.2 f before with old | good
        · exact .inl old
        · exact .inr ⟨sid, List.mem_cons_self, good⟩
      · exact .inr ⟨other, List.mem_cons_of_mem _ listed, good⟩

theorem drain_all_holds {pool : SessionPool} (held : pool.Holds T R) (batchSize workerId : Nat)
    (now : ℚ) : (drainAll pool batchSize workerId now).pool.Holds T R ∧
      ∀ f ∈ (drainAll pool batchSize workerId now).frames,
        ∃ sid ∈ workerSids pool workerId, T sid f := by
  have folded := @fold_holds T R batchSize now (workerSids pool workerId) (startDrain pool) held
  refine ⟨folded.1, fun f member => ?_⟩
  rcases folded.2 f member with none | good
  · cases none
  · exact good

end Queues

/-- Visits of other sessions leave a session and its part of the batch alone. -/
theorem fold_elsewhere {batchSize : Nat} {now : ℚ} {sid : Bytes} {ref : Nat} {sids : List Bytes}
    {drain : Drain} (own : OwnQueues drain.pool) (budget : drain.totalSize ≤ MaxFramePayload)
    (found : drain.pool.get sid = some ref) (absent : sid ∉ sids)
    (returned : (sids.foldl (drainSession batchSize now) drain).failed = none) :
    (sids.foldl (drainSession batchSize now) drain).pool.objects ref = drain.pool.objects ref ∧
      sessionFrames sid (sids.foldl (drainSession batchSize now) drain).frames =
        sessionFrames sid drain.frames ∧
      (sids.foldl (drainSession batchSize now) drain).totalSize ≤ MaxFramePayload := by
  induction sids generalizing drain with
  | nil => exact ⟨rfl, rfl, budget⟩
  | cons other rest ih =>
      have different : other ≠ sid := fun same => absent (same ▸ List.mem_cons_self)
      have visited := @drain_fold_failed batchSize now rest _ returned
      have first := drain_session_result budget visited
      have stays := (untouched_visit batchSize now drain other).get sid
      obtain ⟨object, frames, bound⟩ := ih (visit_holds own).1 first.1 (stays.trans found)
        (fun member => absent (List.mem_cons_of_mem _ member)) returned
      have elsewhere : drain.pool.get other ≠ some ref := by
        intro same
        have otherId := (SessionPool.get_keyed same).2
        exact different (otherId.symm.trans (SessionPool.get_keyed found).2)
      refine ⟨object.trans (visit_elsewhere budget elsewhere visited), frames.trans ?_, bound⟩
      have foreign : ∀ taken, taken <+: front drain.pool batchSize other →
          sessionFrames sid taken = [] := by
        intro taken part
        apply session_frames_none
        intro f member same
        exact different ((front_own own f (part.subset member)).symm.trans same)
      cases first.2 with
      | unqueued _ same | noFront _ _ _ same => rw [same]
      | taken _ _ _ same =>
          rw [same, session_frames_append, foreign _ (List.prefix_refl _), List.append_nil]
      | putBack _ taken _ _ part same =>
          rw [same, session_frames_append, foreign taken part, List.append_nil]

/-- The drain just before it visits a session. -/
def drainBefore (pool : SessionPool) (batchSize workerId : Nat) (now : ℚ) (sid : Bytes) : Drain :=
  ((workerSids pool workerId).takeWhile fun other => other ≠ sid).foldl
    (drainSession batchSize now) (startDrain pool)

/-- The session's front does not fit what the sessions visited before it have
left of the batch. -/
def LeftBehind (pool : SessionPool) (batchSize workerId : Nat) (now : ℚ) (sid : Bytes) : Prop :=
  Overflows (drainBefore pool batchSize workerId now sid) batchSize sid

instance (pool : SessionPool) (batchSize workerId : Nat) (now : ℚ) (sid : Bytes) :
    Decidable (LeftBehind pool batchSize workerId now sid) :=
  inferInstanceAs (Decidable (Overflows _ batchSize sid))

/-- A whole drain seen from a session it visits: until the visit and after it,
nothing of the session changes. -/
structure VisitedOnce (pool : SessionPool) (batchSize workerId : Nat) (now : ℚ) (sid : Bytes)
    (ref : Nat) (before : Drain) : Prop where
  budget : before.totalSize ≤ MaxFramePayload
  own : OwnQueues before.pool
  found : before.pool.get sid = some ref
  returned : (drainSession batchSize now before sid).failed = none
  unseen : sessionFrames sid before.frames = []
  objectBefore : before.pool.objects ref = pool.objects ref
  objectAfter : (drainAll pool batchSize workerId now).pool.objects ref =
    (drainSession batchSize now before sid).pool.objects ref
  frames : sessionFrames sid (drainAll pool batchSize workerId now).frames =
    sessionFrames sid (drainSession batchSize now before sid).frames

theorem drain_all_visit {pool : SessionPool} {batchSize workerId : Nat} {now : ℚ} {sid : Bytes}
    {ref : Nat} (own : OwnQueues pool) (found : pool.get sid = some ref)
    (visited : sid ∈ workerSids pool workerId)
    (returned : (drainAll pool batchSize workerId now).failed = none) :
    VisitedOnce pool batchSize workerId now sid ref
      (drainBefore pool batchSize workerId now sid) := by
  have empty : (startDrain pool).totalSize ≤ MaxFramePayload := Nat.zero_le _
  obtain ⟨earlier, later, split, notEarlier⟩ := List.eq_append_cons_of_mem visited
  have notLater : sid ∉ later := by
    have distinct := worker_sids_nodup pool workerId
    rw [split] at distinct
    exact (List.nodup_cons.mp (List.nodup_append.mp distinct).2.1).1
  have beforeIs : drainBefore pool batchSize workerId now sid =
      earlier.foldl (drainSession batchSize now) (startDrain pool) := by
    have front : (earlier ++ sid :: later).takeWhile (fun other => decide (other ≠ sid)) =
        earlier := by
      rw [List.takeWhile_append_of_pos, List.takeWhile_cons_of_neg, List.append_nil]
      · simp
      · intro other member
        exact decide_eq_true fun same => notEarlier (same ▸ member)
    rw [drainBefore, split, front]
  have allIs : drainAll pool batchSize workerId now =
      later.foldl (drainSession batchSize now)
        (drainSession batchSize now (drainBefore pool batchSize workerId now sid) sid) := by
    rw [drainAll, split, List.foldl_append, List.foldl_cons, beforeIs]
  rw [allIs] at returned
  have visitReturned := drain_fold_failed returned
  have beforeReturned := drain_session_failed visitReturned
  rw [beforeIs] at beforeReturned
  obtain ⟨object, frames, budget⟩ := @fold_elsewhere batchSize now sid ref _ (startDrain pool)
    own empty found notEarlier beforeReturned
  have heldBefore := (@fold_holds _ _ batchSize now earlier (startDrain pool) own).1
  have foundBefore :=
    ((untouched_fold batchSize now earlier (startDrain pool)).get sid).trans found
  rw [← beforeIs] at object frames budget heldBefore foundBefore
  have bound := (drain_session_result budget visitReturned).1
  have foundAfter := ((untouched_visit batchSize now
    (drainBefore pool batchSize workerId now sid) sid).get sid).trans foundBefore
  obtain ⟨finalObject, finalFrames, _⟩ := fold_elsewhere (visit_holds heldBefore).1 bound
    foundAfter notLater returned
  rw [← allIs] at finalObject finalFrames
  exact ⟨budget, heldBefore, foundBefore, visitReturned, frames, object, finalObject, finalFrames⟩

/-- What a whole drain does to one session: not visited, drained, or put back. -/
theorem drain_all_session {pool : SessionPool} {batchSize workerId : Nat} {now : ℚ} {sid : Bytes}
    {ref : Nat} (own : OwnQueues pool) (found : pool.get sid = some ref)
    (returned : (drainAll pool batchSize workerId now).failed = none) :
    (sid ∉ workerSids pool workerId →
      ((drainAll pool batchSize workerId now).pool.objects ref).txQ = (pool.objects ref).txQ ∧
        sessionFrames sid (drainAll pool batchSize workerId now).frames = []) ∧
    (sid ∈ workerSids pool workerId →
      (¬ LeftBehind pool batchSize workerId now sid →
        ((drainAll pool batchSize workerId now).pool.objects ref).txQ =
            (pool.objects ref).txQ.drop batchSize ∧
          sessionFrames sid (drainAll pool batchSize workerId now).frames =
            (pool.objects ref).txQ.take batchSize) ∧
      (LeftBehind pool batchSize workerId now sid →
        ((drainAll pool batchSize workerId now).pool.objects ref).txQ =
          (pool.objects ref).txQ)) := by
  have empty : (startDrain pool).totalSize ≤ MaxFramePayload := Nat.zero_le _
  constructor
  · intro absent
    obtain ⟨object, frames, _⟩ := @fold_elsewhere batchSize now sid ref _ (startDrain pool) own
      empty found absent returned
    refine ⟨congrArg Session.txQ object, frames⟩
  · intro visited
    have once := drain_all_visit own found visited returned
    have visit := visit_queue once.budget once.found once.returned
    have frontIs : front (drainBefore pool batchSize workerId now sid).pool batchSize sid =
        (pool.objects ref).txQ.take batchSize := by
      rw [front_found once.found, once.objectBefore]
    have frontOwn := @front_own _ once.own batchSize sid
    rw [once.objectAfter, once.frames]
    constructor
    · intro fits
      obtain ⟨queue, taken⟩ := visit.1 fits
      refine ⟨by rw [queue, once.objectBefore], ?_⟩
      rw [taken, session_frames_append, once.unseen, session_frames_all frontOwn, frontIs]
      rfl
    · intro overflow
      rw [(visit.2 overflow).1, once.objectBefore]

end Astrix
