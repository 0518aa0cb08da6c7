import Astrix.OneSession

/-!
# What a batch does to one session of the server

The batch of a client holds SYN, FIN and data frames. If the session has an
object, its frames go to the object's receive queue in order, as long as the
dictionary has the object. Otherwise they are dropped up to the SYN, which makes
the object and at most one worker for it.
-/

namespace Astrix

open PyRuntime SessionPool

set_option autoImplicit false

/-- The flags of the frames that clients send. -/
def ClientFlags (f : Frame) : Prop :=
  f.flags = 0 ∨ f.flags = FlagSYN ∨ f.flags = FlagFIN

theorem uplink_flags {A : Bytes → Bytes → Prop} {sid : Bytes} {f : Frame} (up : Uplink A sid f) :
    ClientFlags f := by
  cases up.2 with
  | chunk flags accepted => exact .inl flags
  | bare flags payload => exact .inr flags

/-- No object was ever made for the session. -/
def Unseen (sid : Bytes) (pool : SessionPool) : Prop :=
  ∀ r < pool.fresh, (pool.objects r).sessionId ≠ sid

instance (sid : Bytes) (pool : SessionPool) : Decidable (Unseen sid pool) :=
  inferInstanceAs (Decidable (∀ r < pool.fresh, (pool.objects r).sessionId ≠ sid))

/-- The session has exactly one object. -/
structure Placed (sid : Bytes) (r : Nat) (pool : SessionPool) : Prop where
  bound : r < pool.fresh
  id : (pool.objects r).sessionId = sid
  only : ∀ other < pool.fresh, (pool.objects other).sessionId = sid → other = r

section Places

variable {sid : Bytes} {r : Nat} {pool later : SessionPool}

theorem unseen_get (unseen : Unseen sid pool) : pool.get sid = none := by
  cases found : pool.get sid with
  | none => rfl
  | some ref => exact absurd (get_keyed found).2 (unseen ref (get_keyed found).1)

theorem Placed.get (placed : Placed sid r pool) :
    pool.get sid = none ∨ pool.get sid = some r := by
  cases found : pool.get sid with
  | none => exact .inl rfl
  | some ref =>
      have keyed := get_keyed found
      rw [placed.only ref keyed.1 keyed.2]
      exact .inr rfl

theorem Placed.listed (placed : Placed sid r pool) :
    ∀ s ∈ pool.snapshotAll, (pool.objects s).sessionId = sid → s = r :=
  fun s member => placed.only s (get_keyed (get_of_snapshot member)).1

theorem Placed.elsewhere (placed : Placed sid r pool) (aside : Elsewhere sid pool later) :
    Placed sid r later where
  bound := placed.bound.trans_le aside.fresh
  id := by
    rw [aside.object r placed.bound placed.id]
    exact placed.id
  only other bound same := by
    have before := aside.only other bound same
    exact placed.only other before.1 before.2

theorem Placed.same_ids (placed : Placed sid r pool) (fresh : later.fresh = pool.fresh)
    (ids : ∀ ref, (later.objects ref).sessionId = (pool.objects ref).sessionId) :
    Placed sid r later where
  bound := fresh ▸ placed.bound
  id := (ids r).trans placed.id
  only other bound same := placed.only other (fresh ▸ bound) ((ids other).symm.trans same)

theorem Unseen.elsewhere (unseen : Unseen sid pool) (aside : Elsewhere sid pool later) :
    Unseen sid later := by
  intro ref bound same
  have before := aside.only ref bound same
  exact unseen ref before.1 before.2

theorem Unseen.same_ids (unseen : Unseen sid pool) (fresh : later.fresh = pool.fresh)
    (ids : ∀ ref, (later.objects ref).sessionId = (pool.objects ref).sessionId) :
    Unseen sid later := by
  intro ref bound same
  rw [ids] at same
  rw [fresh] at bound
  exact unseen ref bound same

end Places

section Dispatch

variable {sid : Bytes} {r : Nat} (locked : Bool) (now : ℚ) {state : Dispatch} {f : Frame}

theorem dispatch_plain (plain : f.flags = 0 ∨ f.flags = FlagFIN) :
    dispatchFrame locked now state f =
      { state with pool := dispatchResponseFrame now state.pool f } := by
  rcases plain with zero | fin
  · have flags : ∀ flag, f.hasFlag flag = false := by
      intro flag
      rw [Frame.hasFlag, zero, Nat.zero_and]
      rfl
    cases found : state.pool.get f.sessionId <;>
      simp only [dispatchFrame, dispatchResponseFrame, flags, zero, found, Bool.false_eq_true,
        if_false, if_true]
  · have notSyn : f.hasFlag FlagSYN = false := by
      rw [Frame.hasFlag, fin]
      rfl
    have isFin : f.hasFlag FlagFIN = true := by
      rw [Frame.hasFlag, fin]
      rfl
    cases found : state.pool.get f.sessionId <;>
      simp only [dispatchFrame, dispatchResponseFrame, notSyn, isFin, found, Bool.false_eq_true,
        if_false, if_true]

/-- The pool after a SYN. -/
def synPool (pool : SessionPool) (f : Frame) (now : ℚ) : SessionPool :=
  (pool.getOrCreate f.sessionId f.flags f.target now).1.setSeq
    (pool.getOrCreate f.sessionId f.flags f.target now).2 (f.seq + 1)

theorem dispatch_syn (syn : f.flags = FlagSYN) :
    (dispatchFrame locked now state f).pool = synPool state.pool f now ∧
      ((dispatchFrame locked now state f).spawned = state.spawned ∨
        (dispatchFrame locked now state f).spawned = state.spawned ++
          [(state.pool.getOrCreate f.sessionId f.flags f.target now).2]) := by
  have isSyn : f.hasFlag FlagSYN = true := by
    rw [Frame.hasFlag, syn]
    rfl
  unfold dispatchFrame
  rw [if_pos isSyn]
  cases locked with
  | true => exact ⟨rfl, .inl rfl⟩
  | false => exact ⟨rfl, .inr rfl⟩

/-- A frame of another session leaves the session alone. -/
theorem dispatch_elsewhere (flags : ClientFlags f) (other : f.sessionId ≠ sid) :
    Elsewhere sid state.pool (dispatchFrame locked now state f).pool := by
  have plain : f.flags = 0 ∨ f.flags = FlagFIN →
      Elsewhere sid state.pool (dispatchFrame locked now state f).pool := by
    intro flags
    rw [dispatch_plain locked now flags]
    exact elsewhere_dispatch_response other
  rcases flags with zero | syn | fin
  · exact plain (.inl zero)
  · rw [(dispatch_syn locked now syn).1]
    have created := get_keyed
      (get_or_create_get state.pool f.sessionId f.flags f.target now)
    refine (elsewhere_get_or_create f.flags f.target now (Ne.symm other)).trans
      (elsewhere_set_seq _ ?_)
    rw [created.2]
    exact other
  · exact plain (.inr fin)

/-- Between two states of the dispatch loop the session got `frames`. -/
structure Received (sid : Bytes) (r : Nat) (before after : Dispatch) (frames : List Frame) :
    Prop where
  placed : Placed sid r after.pool
  get : after.pool.get sid = before.pool.get sid
  rx : (after.pool.objects r).rxQ =
    (before.pool.objects r).rxQ ++ if before.pool.get sid = some r then frames else []
  tx : (after.pool.objects r).txQ = (before.pool.objects r).txQ
  spawned : ∃ more, after.spawned = before.spawned ++ more ∧ r ∉ more

theorem Received.rx_present {before after : Dispatch} {frames : List Frame}
    (received : Received sid r before after frames) (present : before.pool.get sid = some r) :
    (after.pool.objects r).rxQ = (before.pool.objects r).rxQ ++ frames := by
  rw [received.rx, if_pos present]

theorem Received.rx_missing {before after : Dispatch} {frames : List Frame}
    (received : Received sid r before after frames) (missing : before.pool.get sid ≠ some r) :
    (after.pool.objects r).rxQ = (before.pool.objects r).rxQ := by
  rw [received.rx, if_neg missing, List.append_nil]

theorem Received.none (placed : Placed sid r state.pool) : Received sid r state state [] where
  placed := placed
  get := rfl
  rx := by rw [ite_self, List.append_nil]
  tx := rfl
  spawned := ⟨[], (List.append_nil _).symm, List.not_mem_nil⟩

theorem Received.trans {first second third : Dispatch} {frames more : List Frame}
    (one : Received sid r first second frames) (two : Received sid r second third more) :
    Received sid r first third (frames ++ more) where
  placed := two.placed
  get := two.get.trans one.get
  rx := by
    rw [two.rx, one.rx, one.get, List.append_assoc]
    split_ifs <;> rfl
  tx := two.tx.trans one.tx
  spawned := by
    obtain ⟨early, before, notEarly⟩ := one.spawned
    obtain ⟨late, after, notLate⟩ := two.spawned
    refine ⟨early ++ late, by rw [after, before, List.append_assoc], fun member => ?_⟩
    rcases List.mem_append.mp member with old | new
    · exact notEarly old
    · exact notLate new

/-- One frame that is not a SYN of the session. -/
theorem dispatch_received (placed : Placed sid r state.pool) (flags : ClientFlags f)
    (noSyn : f.sessionId = sid → f.flags ≠ FlagSYN) :
    Received sid r state (dispatchFrame locked now state f) (sessionFrames sid [f]) := by
  by_cases own : f.sessionId = sid
  · have plain : f.flags = 0 ∨ f.flags = FlagFIN := by
      rcases flags with zero | syn | fin
      · exact .inl zero
      · exact absurd syn (noSyn own)
      · exact .inr fin
    rw [dispatch_plain locked now plain, session_frames_cons_own own]
    rcases placed.get with missing | found
    · have gone : state.pool.get f.sessionId = none := by
        rw [own]
        exact missing
      rw [dispatch_response_missing gone]
      have nothing := Received.none placed
      refine ⟨nothing.placed, nothing.get, ?_, nothing.tx, nothing.spawned⟩
      rw [missing, if_neg nofun, List.append_nil]
    · rw [dispatch_response_own found own]
      refine ⟨?_, rfl, ?_, ?_, ⟨[], (List.append_nil _).symm, List.not_mem_nil⟩⟩
      · exact placed.same_ids rfl fun ref => enqueue_rx_id _ _ _ _ _
      · rw [if_pos found, enqueue_rx_objects, if_pos rfl]
        rfl
      · rw [enqueue_rx_objects, if_pos rfl]
        rfl
  · rw [session_frames_cons_other own]
    have aside : Elsewhere sid state.pool (dispatchFrame locked now state f).pool :=
      dispatch_elsewhere locked now flags own
    refine ⟨placed.elsewhere aside, aside.get, ?_, ?_, ?_⟩
    · rw [aside.object r placed.bound placed.id]
      exact ((Received.none placed).rx)
    · rw [aside.object r placed.bound placed.id]
    · rcases dispatch_frame_spawned locked now state f with same | ⟨s, more, _, found⟩
      · exact ⟨[], by rw [same, List.append_nil], List.not_mem_nil⟩
      · refine ⟨[s], more, fun member => own ?_⟩
        rw [← List.mem_singleton.mp member] at found
        exact (get_keyed found).2.symm.trans (placed.elsewhere aside).id

theorem dispatch_all_received {frames : List Frame} (flags : ∀ f ∈ frames, ClientFlags f)
    (noSyn : ∀ f ∈ sessionFrames sid frames, f.flags ≠ FlagSYN)
    (placed : Placed sid r state.pool) :
    Received sid r state (frames.foldl (dispatchFrame locked now) state)
      (sessionFrames sid frames) := by
  induction frames generalizing state with
  | nil => exact Received.none placed
  | cons f rest ih =>
      have split : sessionFrames sid (f :: rest) =
          sessionFrames sid [f] ++ sessionFrames sid rest := by
        rw [← session_frames_append]
        rfl
      rw [split] at noSyn ⊢
      have one := dispatch_received locked now placed (flags f List.mem_cons_self) fun own => by
        refine noSyn f (List.mem_append_left _ ?_)
        rw [session_frames_cons_own own]
        exact List.mem_cons_self
      exact one.trans (ih (fun g member => flags g (List.mem_cons_of_mem f member))
        (fun g member => noSyn g (List.mem_append_right _ member)) one.placed)

/-- The session was made by the batch that brought its SYN. -/
structure Made (sid : Bytes) (r : Nat) (before after : Dispatch) (rest : List Frame) : Prop where
  placed : Placed sid r after.pool
  get : after.pool.get sid = some r
  rx : (after.pool.objects r).rxQ = rest
  tx : (after.pool.objects r).txQ = []
  new : before.pool.fresh ≤ r
  spawned : ∃ more, after.spawned = before.spawned ++ more ∧
    more.countP (fun s => s = r) ≤ 1

/-- The SYN itself. -/
theorem dispatch_makes (unseen : Unseen sid state.pool) (own : f.sessionId = sid)
    (syn : f.flags = FlagSYN) :
    Made sid state.pool.fresh state (dispatchFrame locked now state f) [] := by
  have missing := unseen_get unseen
  subst own
  rcases get_or_create_cases state.pool f.sessionId f.flags f.target now with
    ⟨ref, found, _⟩ | ⟨_, created⟩
  · rw [missing] at found
    cases found
  · obtain ⟨pool, spawned⟩ := @dispatch_syn locked now state f syn
    have isPool : (dispatchFrame locked now state f).pool =
        (state.pool.insert f.sessionId f.flags f.target now missing).setSeq state.pool.fresh
          (f.seq + 1) := by
      rw [pool, synPool, created]
    rw [created] at spawned
    have object : (dispatchFrame locked now state f).pool.objects state.pool.fresh =
        (Session.create f.sessionId f.flags f.target now).setSeq (f.seq + 1) := by
      rw [isPool, set_seq_objects, if_pos rfl, insert_objects, if_pos rfl]
    refine ⟨⟨?_, ?_, ?_⟩, ?_, ?_, ?_, Nat.le_refl _, ?_⟩
    · rw [isPool]
      exact Nat.lt_succ_self _
    · rw [object]
      rfl
    · intro other bound same
      by_contra different
      rw [isPool, set_seq_objects, if_neg different, insert_objects, if_neg different] at same
      rw [isPool] at bound
      have limit : other < state.pool.fresh + 1 := bound
      exact unseen other (by omega) same
    · rw [isPool]
      exact OrderedDict.get_insert_new_self _ _ _ (fresh_key missing)
    · rw [object]
      rfl
    · rw [object]
      rfl
    · rcases spawned with same | more
      · exact ⟨[], by rw [same, List.append_nil], Nat.zero_le _⟩
      · refine ⟨[state.pool.fresh], more, ?_⟩
        exact List.countP_le_length

/-- Without an object, a frame of the session that is not its SYN is dropped. -/
theorem dispatch_dropped (unseen : Unseen sid state.pool) (own : f.sessionId = sid)
    (flags : ClientFlags f) (noSyn : f.flags ≠ FlagSYN) :
    dispatchFrame locked now state f = state := by
  have plain : f.flags = 0 ∨ f.flags = FlagFIN := by
    rcases flags with zero | syn | fin
    · exact .inl zero
    · exact absurd syn noSyn
    · exact .inr fin
  have missing : state.pool.get f.sessionId = none := by
    rw [own]
    exact unseen_get unseen
  rw [dispatch_plain locked now plain, dispatch_response_missing missing]

theorem dispatch_all_unseen {frames : List Frame} (flags : ∀ f ∈ frames, ClientFlags f)
    (noSyn : ∀ f ∈ sessionFrames sid frames, f.flags ≠ FlagSYN) (unseen : Unseen sid state.pool) :
    Unseen sid (frames.foldl (dispatchFrame locked now) state).pool := by
  induction frames generalizing state with
  | nil => exact unseen
  | cons f rest ih =>
      have laterFlags := fun g member => flags g (List.mem_cons_of_mem f member)
      rw [List.foldl_cons]
      by_cases own : f.sessionId = sid
      · rw [session_frames_cons_own own] at noSyn
        rw [dispatch_dropped locked now unseen own (flags f List.mem_cons_self)
          (noSyn f List.mem_cons_self)]
        exact ih laterFlags (fun g member => noSyn g (List.mem_cons_of_mem f member)) unseen
      · rw [session_frames_cons_other own] at noSyn
        have aside : Elsewhere sid state.pool (dispatchFrame locked now state f).pool :=
          dispatch_elsewhere locked now (flags f List.mem_cons_self) own
        exact ih laterFlags noSyn (unseen.elsewhere aside)

/-- The first SYN makes the object; what came before it is dropped. -/
theorem dispatch_all_makes {frames early rest : List Frame} {syn : Frame}
    (flags : ∀ f ∈ frames, ClientFlags f)
    (batch : sessionFrames sid frames = early ++ syn :: rest)
    (notYet : ∀ f ∈ early, f.flags ≠ FlagSYN) (isSyn : syn.flags = FlagSYN)
    (others : ∀ f ∈ rest, f.flags ≠ FlagSYN) (unseen : Unseen sid state.pool) :
    ∃ r, Made sid r state (frames.foldl (dispatchFrame locked now) state) rest := by
  induction frames generalizing state early with
  | nil => cases (List.append_eq_nil_iff.mp batch.symm).2
  | cons f frames ih =>
      have laterFlags := fun g member => flags g (List.mem_cons_of_mem f member)
      have grown := dispatch_frame_extends locked now state f
      by_cases own : f.sessionId = sid
      · rw [session_frames_cons_own own] at batch
        cases early with
        | cons g early =>
            rw [List.cons_append, List.cons.injEq] at batch
            obtain ⟨rfl, same⟩ := batch
            rw [List.foldl_cons, dispatch_dropped locked now unseen own
              (flags f List.mem_cons_self) (notYet f List.mem_cons_self)]
            exact ih laterFlags same (fun g member => notYet g (List.mem_cons_of_mem f member))
              unseen
        | nil =>
            rw [List.nil_append, List.cons.injEq] at batch
            obtain ⟨rfl, same⟩ := batch
            have made := dispatch_makes locked now unseen own isSyn
            rw [← same] at others
            have received := dispatch_all_received locked now laterFlags others made.placed
            obtain ⟨first, spawned, once⟩ := made.spawned
            obtain ⟨late, laterSpawned, notLate⟩ := received.spawned
            have none : late.countP (fun s => s = state.pool.fresh) = 0 := by
              rw [List.countP_eq_zero]
              intro s member here
              rw [of_decide_eq_true here] at member
              exact notLate member
            refine ⟨state.pool.fresh, received.placed, received.get.trans made.get, ?_,
              received.tx.trans made.tx, Nat.le_refl _, first ++ late, ?_, ?_⟩
            · exact received.rx.trans (by rw [made.rx, if_pos made.get, same, List.nil_append])
            · exact laterSpawned.trans (by rw [spawned, List.append_assoc])
            · rw [List.countP_append, none]
              exact once
      · rw [session_frames_cons_other own] at batch
        have aside : Elsewhere sid state.pool (dispatchFrame locked now state f).pool :=
          dispatch_elsewhere locked now (flags f List.mem_cons_self) own
        obtain ⟨r, made⟩ := ih laterFlags batch notYet (unseen.elsewhere aside)
        obtain ⟨late, spawned, once⟩ := made.spawned
        have new := grown.fresh.trans made.new
        rcases dispatch_frame_spawned locked now state f with same | ⟨s, more, _, found⟩
        · rw [same] at spawned
          exact ⟨r, made.placed, made.get, made.rx, made.tx, new, late, spawned, once⟩
        · refine ⟨r, made.placed, made.get, made.rx, made.tx, new, s :: late, ?_, ?_⟩
          · exact spawned.trans (by rw [more, List.append_assoc]; rfl)
          · have earlier : s ≠ r := Nat.ne_of_lt ((get_keyed found).1.trans_le made.new)
            rw [List.countP_cons_of_neg (by simp [earlier])]
            exact once

/-- The state in which the dispatch loop starts. -/
def startDispatch (pool : SessionPool) : Dispatch := ⟨pool, [], []⟩

variable {pool : SessionPool} {frames rest : List Frame}

theorem batch_received (flags : ∀ f ∈ frames, ClientFlags f)
    (noSyn : ∀ f ∈ sessionFrames sid frames, f.flags ≠ FlagSYN) (placed : Placed sid r pool) :
    Received sid r (startDispatch pool) (dispatchFrames locked now pool frames)
      (sessionFrames sid frames) :=
  @dispatch_all_received sid r locked now (startDispatch pool) frames flags noSyn placed

theorem batch_unseen (flags : ∀ f ∈ frames, ClientFlags f)
    (noSyn : ∀ f ∈ sessionFrames sid frames, f.flags ≠ FlagSYN) (unseen : Unseen sid pool) :
    Unseen sid (dispatchFrames locked now pool frames).pool :=
  @dispatch_all_unseen sid locked now (startDispatch pool) frames flags noSyn unseen

theorem batch_makes {early : List Frame} {syn : Frame} (flags : ∀ f ∈ frames, ClientFlags f)
    (batch : sessionFrames sid frames = early ++ syn :: rest)
    (notYet : ∀ f ∈ early, f.flags ≠ FlagSYN) (isSyn : syn.flags = FlagSYN)
    (others : ∀ f ∈ rest, f.flags ≠ FlagSYN) (unseen : Unseen sid pool) :
    ∃ r, Made sid r (startDispatch pool) (dispatchFrames locked now pool frames) rest :=
  @dispatch_all_makes sid locked now (startDispatch pool) frames early rest syn flags batch notYet
    isSyn others unseen

end Dispatch

end Astrix
