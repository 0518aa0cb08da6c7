import Astrix.LongPoll

/-!
# What the server's queues can hold

A predicate on the frames of a session's transmit queue and one on those of its
receive queue survive every step of the server, provided the posted frames and
the frames of the upstream workers satisfy them. Responses are made of
transmit-queue frames and busy refusals.
-/

namespace Astrix

open PyRuntime

set_option autoImplicit false

variable {T R : Bytes → Frame → Prop}

theorem SessionPool.Holds.scan {pool : SessionPool} (held : pool.Holds T R)
    (collected : List Frame) : (scanSessions pool collected).pool.Holds T R := by
  constructor
  · intro ref frame member
    rw [scan_objects] at member ⊢
    split_ifs at member ⊢ with present
    · have sameId : (scanned (pool.objects ref)).sessionId = (pool.objects ref).sessionId := by
        rw [scanned]
        split_ifs <;> rfl
      rw [scanned_tx_q] at member
      rw [sameId]
      exact held.tx ref frame (List.mem_of_mem_drop member)
    · exact held.tx ref frame member
  · intro ref frame member
    rw [scan_objects] at member ⊢
    split_ifs at member ⊢ with present
    · rw [scanned] at member ⊢
      split_ifs at member ⊢
      · exact held.rx ref frame member
      · exact held.rx ref frame member
    · exact held.rx ref frame member

/-- Frames put together for a response: each satisfies `T` for its own id. -/
def Answerable (T : Bytes → Frame → Prop) (frames : List Frame) : Prop :=
  ∀ frame ∈ frames, T frame.sessionId frame

theorem scan_answerable {pool : SessionPool} (held : pool.Holds T R)
    (owned : ∀ sid frame, T sid frame → T frame.sessionId frame) {collected : List Frame}
    (before : Answerable T collected) :
    Answerable T (scanSessions pool collected).responseFrames := by
  intro frame member
  rw [scan_response_frames] at member
  rcases List.mem_append.mp member with old | new
  · exact before frame old
  · obtain ⟨s, _, taken⟩ := List.mem_flatMap.mp new
    exact owned _ _ (held.tx s frame (List.mem_of_mem_take taken))

/-- What one dispatched frame needs and keeps. -/
theorem dispatch_frame_holds (locked : Bool) (now : ℚ) {state : Dispatch} {f : Frame}
    (held : state.pool.Holds T R) (collected : Answerable T state.responseFrames)
    (posted : R f.sessionId f)
    (busy : f.hasFlag FlagSYN = true → T f.sessionId (busyFrame f.sessionId)) :
    (dispatchFrame locked now state f).pool.Holds T R ∧
      Answerable T (dispatchFrame locked now state f).responseFrames := by
  have received : ∀ s, state.pool.get f.sessionId = some s →
      (state.pool.enqueueRx s f now).Holds T R := by
    intro s found
    apply held.enqueue_rx
    rw [(SessionPool.get_keyed found).2]
    exact posted
  have created := held.get_or_create f.sessionId f.flags f.target now
  have refused : f.hasFlag FlagSYN = true →
      Answerable T (state.responseFrames ++ [busyFrame f.sessionId]) := by
    intro syn frame member
    rcases List.mem_append.mp member with old | new
    · exact collected frame old
    · rw [List.mem_singleton.mp new]
      exact busy syn
  rw [dispatchFrame]
  split_ifs with syn
  · exact ⟨created.set_seq _ _, refused syn⟩
  · exact ⟨created.set_seq _ _, collected⟩
  · cases found : state.pool.get f.sessionId with
    | some s => exact ⟨received s found, collected⟩
    | none => exact ⟨held, collected⟩
  · cases found : state.pool.get f.sessionId with
    | some s => exact ⟨held.set_seq _ _, collected⟩
    | none => exact ⟨held, collected⟩
  · exact ⟨held.remove _, collected⟩
  · cases found : state.pool.get f.sessionId with
    | some s => exact ⟨received s found, collected⟩
    | none => exact ⟨held, collected⟩
  · exact ⟨held, collected⟩

theorem dispatch_frames_holds (locked : Bool) (now : ℚ) {pool : SessionPool}
    {frames : List Frame} (held : pool.Holds T R)
    (posted : ∀ f ∈ frames, R f.sessionId f)
    (busy : ∀ f ∈ frames, f.hasFlag FlagSYN = true →
      T f.sessionId (busyFrame f.sessionId)) :
    (dispatchFrames locked now pool frames).pool.Holds T R ∧
      Answerable T (dispatchFrames locked now pool frames).responseFrames := by
  have all : ∀ (rest : List Frame) (state : Dispatch), (∀ f ∈ rest, f ∈ frames) →
      state.pool.Holds T R → Answerable T state.responseFrames →
      (rest.foldl (dispatchFrame locked now) state).pool.Holds T R ∧
        Answerable T (rest.foldl (dispatchFrame locked now) state).responseFrames := by
    intro rest
    induction rest with
    | nil => exact fun _ _ heldNow collected => ⟨heldNow, collected⟩
    | cons f rest ih =>
        intro state listed heldNow collected
        have member := listed f List.mem_cons_self
        have step := dispatch_frame_holds locked now heldNow collected (posted f member)
          (busy f member)
        exact ih _ (fun g later => listed g (List.mem_cons_of_mem _ later)) step.1 step.2
  exact all frames _ (fun _ member => member) held nofun

/-- What dispatch puts into a response are refusals. -/
theorem dispatch_refusals (locked : Bool) (now : ℚ) (pool : SessionPool) (frames : List Frame) :
    ∀ f ∈ (dispatchFrames locked now pool frames).responseFrames, ∃ sid, f = busyFrame sid := by
  have all : ∀ (rest : List Frame) (state : Dispatch),
      (∀ f ∈ state.responseFrames, ∃ sid, f = busyFrame sid) →
        ∀ f ∈ (rest.foldl (dispatchFrame locked now) state).responseFrames,
          ∃ sid, f = busyFrame sid := by
    intro rest
    induction rest with
    | nil => exact fun _ before => before
    | cons g rest ih =>
        intro state before
        apply ih
        unfold dispatchFrame
        split_ifs
        · intro f member
          rcases List.mem_append.mp member with old | new
          · exact before f old
          · exact ⟨g.sessionId, List.mem_singleton.mp new⟩
        · exact before
        · cases state.pool.get g.sessionId <;> exact before
        · cases state.pool.get g.sessionId <;> exact before
        · exact before
        · cases state.pool.get g.sessionId <;> exact before
        · exact before
  exact all frames _ nofun

/-- What a worker's effect puts on the queue of a session with id `sid`. -/
def UpstreamEffect.Satisfies (T : Bytes → Frame → Prop) (sid : Bytes) : UpstreamEffect → Prop
  | .enqueueTx frame _ => T sid frame
  | _ => True

theorem SessionPool.Holds.effect {pool : SessionPool} (held : pool.Holds T R) {session : Nat}
    {effect : UpstreamEffect} (allowed : effect.Satisfies T (pool.objects session).sessionId) :
    (effect.apply pool session).Holds T R := by
  cases effect with
  | nothing => exact held
  | enqueueTx frame now => exact held.enqueue_tx allowed
  | clearRxEvent => exact held.clear_rx_event session
  | popRx => exact held.pop_rx session

theorem SessionPool.Holds.garbage {pool : SessionPool} (held : pool.Holds T R) (poll : Poll) :
    (collectGarbage pool poll).1.Holds T R := by
  rw [collectGarbage]
  split_ifs
  · exact held.cleanup _ _
  · exact held

def PollOutcome.frames : PollOutcome → List Frame
  | .answered frames => frames
  | .asleep poll _ => poll.responseFrames

theorem poll_round_holds {pool : SessionPool} (poll : Poll) (atCheck afterScan : ℚ)
    (held : pool.Holds T R) (owned : ∀ sid frame, T sid frame → T frame.sessionId frame)
    (collected : Answerable T poll.responseFrames) :
    (pollRound pool poll atCheck afterScan).1.Holds T R ∧
      Answerable T (pollRound pool poll atCheck afterScan).2.frames := by
  simp only [pollRound]
  split_ifs
  · exact ⟨held, collected⟩
  · exact ⟨held.scan _, scan_answerable held owned collected⟩
  · exact ⟨held.scan _, collected⟩

theorem resume_poll_holds {pool : SessionPool} {poll : Poll} (atCheck afterScan : ℚ)
    (held : pool.Holds T R) (owned : ∀ sid frame, T sid frame → T frame.sessionId frame)
    (collected : Answerable T poll.responseFrames) :
    (resumePoll pool poll atCheck afterScan).1.Holds T R ∧
      Answerable T (resumePoll pool poll atCheck afterScan).2.frames := by
  have kept : Answerable T (collectGarbage pool poll).2.responseFrames := by
    rw [collect_garbage_frames]
    exact collected
  exact poll_round_holds _ atCheck afterScan (held.garbage poll) owned kept

namespace ExitServer

structure Holds (T R : Bytes → Frame → Prop) (server : ExitServer) : Prop where
  pool : server.pool.Holds T R
  polls : ∀ entry ∈ server.polls, Answerable T entry.2.responseFrames

theorem Holds.weaken {laterT laterR : Bytes → Frame → Prop} {server : ExitServer}
    (held : server.Holds T R) (tx : ∀ sid frame, T sid frame → laterT sid frame)
    (rx : ∀ sid frame, R sid frame → laterR sid frame) : server.Holds laterT laterR where
  pool := held.pool.weaken tx rx
  polls entry member frame collected := tx _ _ (held.polls entry member frame collected)

/-- What an action may bring in. -/
def Brings (T R : Bytes → Frame → Prop) (server : ExitServer) : ServerAction → Prop
  | .post _ _ frames _ _ _ =>
      ∀ f ∈ frames, R f.sessionId f ∧
        (f.hasFlag FlagSYN = true → T f.sessionId (busyFrame f.sessionId))
  | .resume _ _ _ => True
  | .worker index act => ∀ w ∈ server.workers[index]?, ∀ w' effect,
      w.act (server.pool.objects w.session) act = some (w', effect) →
        effect.Satisfies T (server.pool.objects w.session).sessionId

theorem settle_holds (request : Nat) (clientId : Bytes) {result : SessionPool × PollOutcome}
    (held : result.1.Holds T R) (collected : Answerable T result.2.frames) (server : ExitServer)
    (polls : ∀ entry ∈ server.polls, Answerable T entry.2.responseFrames) :
    (server.settle request clientId result).1.Holds T R ∧
      ∀ reply ∈ (server.settle request clientId result).2, Answerable T reply.frames := by
  obtain ⟨pool, outcome⟩ := result
  cases outcome with
  | answered frames =>
      refine ⟨⟨held, polls⟩, fun reply replied => ?_⟩
      cases replied
      exact collected
  | asleep poll sleepFor =>
      refine ⟨⟨held, fun entry member => ?_⟩, nofun⟩
      rcases List.mem_append.mp member with old | new
      · exact polls entry old
      · rw [List.mem_singleton.mp new]
        exact collected

/-- One step of the server keeps its queues, and its reply is made of frames
that satisfy `T`. -/
theorem Holds.react {server later : ExitServer} {action : ServerAction} {reply : Option Reply}
    (held : server.Holds T R) (owned : ∀ sid frame, T sid frame → T frame.sessionId frame)
    (brings : server.Brings T R action) (reacted : server.react action = some (later, reply)) :
    later.Holds T R ∧ ∀ answer ∈ reply, Answerable T answer.frames := by
  rcases react_cases reacted with ⟨request, clientId, frames, now, atCheck, afterScan, rfl, same⟩ |
    ⟨index, atCheck, afterScan, request, poll, rfl, found, same⟩ |
    ⟨index, act, w, w', effect, rfl, found, acted, rfl, rfl⟩
  · have dispatched := dispatch_frames_holds server.locked now held.pool
      (fun f member => (brings f member).1) fun f member => (brings f member).2
    have round : (server.firstRound clientId frames now atCheck afterScan).1.Holds T R ∧
        Answerable T (server.firstRound clientId frames now atCheck afterScan).2.frames :=
      poll_round_holds _ atCheck afterScan dispatched.1 owned dispatched.2
    have settled := settle_holds request clientId round.1 round.2 (server.accept frames now).1
      held.polls
    rw [same] at settled
    exact settled
  · have member := List.mem_of_getElem? found
    have resumed := resume_poll_holds atCheck afterScan held.pool owned
      (held.polls _ member)
    have settled := settle_holds request poll.clientId resumed.1 resumed.2
      { server with polls := server.polls.eraseIdx index }
      fun other kept => held.polls other (List.mem_of_mem_eraseIdx kept)
    rw [same] at settled
    exact settled
  · exact ⟨⟨held.pool.effect (brings w found w' effect acted), held.polls⟩, nofun⟩

end ExitServer

section Identity

theorem extends_scan (pool : SessionPool) (collected : List Frame) :
    pool.Extends (scanSessions pool collected).pool where
  fresh := Nat.le_of_eq (scan_fresh pool collected).symm
  ids ref _ := by
    rw [scan_objects]
    split_ifs
    · rw [scanned]
      split_ifs <;> rfl
    · rfl
  targets ref _ := by
    rw [scan_objects]
    split_ifs
    · rw [scanned]
      split_ifs <;> rfl
    · rfl

theorem extends_poll_round (pool : SessionPool) (poll : Poll) (atCheck afterScan : ℚ) :
    pool.Extends (pollRound pool poll atCheck afterScan).1 := by
  simp only [pollRound]
  split_ifs
  · exact SessionPool.Extends.refl pool
  · exact extends_scan pool _
  · exact extends_scan pool _

theorem extends_resume_poll (pool : SessionPool) (poll : Poll) (atCheck afterScan : ℚ) :
    pool.Extends (resumePoll pool poll atCheck afterScan).1 := by
  have garbage : pool.Extends (collectGarbage pool poll).1 := by
    rw [collectGarbage]
    split_ifs
    · exact SessionPool.extends_cleanup _ _ _
    · exact SessionPool.Extends.refl pool
  exact garbage.trans (extends_poll_round _ _ _ _)

theorem extends_effect (pool : SessionPool) (session : Nat) (effect : UpstreamEffect) :
    pool.Extends (effect.apply pool session) := by
  cases effect with
  | nothing => exact SessionPool.Extends.refl pool
  | enqueueTx frame now => exact SessionPool.extends_enqueue_tx _ _ _ _
  | clearRxEvent => exact SessionPool.extends_clear_rx_event _ _
  | popRx => exact SessionPool.extends_pop_rx _ _

/-- Objects given to upstream workers were asked for by a SYN frame. -/
def SpawnedBy (state : Dispatch) (frames : List Frame) : Prop :=
  ∀ s ∈ state.spawned, s < state.pool.fresh ∧
    ∃ f ∈ frames, f.hasFlag FlagSYN = true ∧ (state.pool.objects s).sessionId = f.sessionId

theorem dispatch_frame_extends (locked : Bool) (now : ℚ) (state : Dispatch) (f : Frame) :
    state.pool.Extends (dispatchFrame locked now state f).pool := by
  have syn : state.pool.Extends ((state.pool.getOrCreate f.sessionId f.flags f.target now).1.setSeq
      (state.pool.getOrCreate f.sessionId f.flags f.target now).2 (f.seq + 1)) :=
    (SessionPool.extends_get_or_create _ _ _ _ _).trans (SessionPool.extends_set_seq _ _ _)
  rw [dispatchFrame]
  split_ifs
  · exact syn
  · exact syn
  · cases state.pool.get f.sessionId with
    | some s => exact SessionPool.extends_enqueue_rx _ _ _ _
    | none => exact SessionPool.Extends.refl _
  · cases state.pool.get f.sessionId with
    | some s => exact SessionPool.extends_set_seq _ _ _
    | none => exact SessionPool.Extends.refl _
  · exact SessionPool.extends_remove _ _
  · cases state.pool.get f.sessionId with
    | some s => exact SessionPool.extends_enqueue_rx _ _ _ _
    | none => exact SessionPool.Extends.refl _
  · exact SessionPool.Extends.refl _

/-- A frame adds at most one worker, for the object under the frame's id. -/
theorem dispatch_frame_spawned (locked : Bool) (now : ℚ) (state : Dispatch) (f : Frame) :
    (dispatchFrame locked now state f).spawned = state.spawned ∨
      ∃ s, (dispatchFrame locked now state f).spawned = state.spawned ++ [s] ∧
        f.hasFlag FlagSYN = true ∧
        (dispatchFrame locked now state f).pool.get f.sessionId = some s := by
  rw [dispatchFrame]
  split_ifs with syn
  · exact .inl rfl
  · exact .inr ⟨_, rfl, syn, SessionPool.get_or_create_get _ _ _ _ _⟩
  · exact .inl (by cases state.pool.get f.sessionId <;> rfl)
  · exact .inl (by cases state.pool.get f.sessionId <;> rfl)
  · exact .inl rfl
  · exact .inl (by cases state.pool.get f.sessionId <;> rfl)
  · exact .inl rfl

theorem dispatch_frames_identity (locked : Bool) (now : ℚ) (pool : SessionPool)
    (frames : List Frame) :
    pool.Extends (dispatchFrames locked now pool frames).pool ∧
      SpawnedBy (dispatchFrames locked now pool frames) frames := by
  have all : ∀ (rest : List Frame) (state : Dispatch), (∀ f ∈ rest, f ∈ frames) →
      SpawnedBy state frames →
      state.pool.Extends (rest.foldl (dispatchFrame locked now) state).pool ∧
        SpawnedBy (rest.foldl (dispatchFrame locked now) state) frames := by
    intro rest
    induction rest with
    | nil => exact fun state _ spawned => ⟨SessionPool.Extends.refl _, spawned⟩
    | cons f rest ih =>
        intro state listed spawned
        have grown := dispatch_frame_extends locked now state f
        have old : ∀ s ∈ state.spawned, s < (dispatchFrame locked now state f).pool.fresh ∧
            ∃ g ∈ frames, g.hasFlag FlagSYN = true ∧
              ((dispatchFrame locked now state f).pool.objects s).sessionId = g.sessionId := by
          intro s member
          obtain ⟨bound, g, posted, syn, same⟩ := spawned s member
          exact ⟨bound.trans_le grown.fresh, g, posted, syn, (grown.ids s bound).trans same⟩
        have next : SpawnedBy (dispatchFrame locked now state f) frames := by
          intro s member
          rcases dispatch_frame_spawned locked now state f with same | ⟨t, more, syn, found⟩
          · rw [same] at member
            exact old s member
          · rw [more] at member
            rcases List.mem_append.mp member with before | new
            · exact old s before
            · rw [List.mem_singleton.mp new]
              have keyed := SessionPool.get_keyed found
              exact ⟨keyed.1, f, listed f List.mem_cons_self, syn, keyed.2⟩
        obtain ⟨later, laterSpawned⟩ := ih _
          (fun g member => listed g (List.mem_cons_of_mem _ member)) next
        exact ⟨grown.trans later, laterSpawned⟩
  have none : SpawnedBy { pool := pool, responseFrames := [], spawned := [] } frames := nofun
  exact all frames _ (fun _ member => member) none

theorem accept_workers (server : ExitServer) (frames : List Frame) (now : ℚ) :
    (server.accept frames now).1.workers = server.workers ++
      (dispatchFrames server.locked now server.pool frames).spawned.map spawnWorker := rfl

namespace ExitServer

/-- Every upstream worker holds an allocated object whose id satisfies `A`. -/
def WorkersOwn (A : Bytes → Prop) (server : ExitServer) : Prop :=
  ∀ w ∈ server.workers, w.session < server.pool.fresh ∧
    A (server.pool.objects w.session).sessionId

theorem WorkersOwn.weaken {A later : Bytes → Prop} {server : ExitServer}
    (owns : server.WorkersOwn A) (weaker : ∀ sid, A sid → later sid) :
    server.WorkersOwn later :=
  fun w member => ⟨(owns w member).1, weaker _ (owns w member).2⟩

theorem WorkersOwn.grow {A : Bytes → Prop} {server : ExitServer} (owns : server.WorkersOwn A)
    {pool : SessionPool} (grown : server.pool.Extends pool) :
    ∀ w ∈ server.workers, w.session < pool.fresh ∧ A (pool.objects w.session).sessionId := by
  intro w member
  obtain ⟨bound, good⟩ := owns w member
  refine ⟨bound.trans_le grown.fresh, ?_⟩
  rw [grown.ids _ bound]
  exact good

/-- The workers of a batch come from its SYN frames. -/
theorem WorkersOwn.accept {A : Bytes → Prop} {server : ExitServer} {frames : List Frame}
    (owns : server.WorkersOwn A) (now : ℚ)
    (syn : ∀ f ∈ frames, f.hasFlag FlagSYN = true → A f.sessionId) :
    (server.accept frames now).1.WorkersOwn A := by
  obtain ⟨grown, spawned⟩ := dispatch_frames_identity server.locked now server.pool frames
  intro w member
  rcases List.mem_append.mp member with old | new
  · exact owns.grow grown w old
  · obtain ⟨s, listed, rfl⟩ := List.mem_map.mp new
    obtain ⟨bound, f, posted, isSyn, sameId⟩ := spawned s listed
    refine ⟨bound, ?_⟩
    have good := syn f posted isSyn
    rw [← sameId] at good
    exact good

/-- Workers keep their objects, and new ones come from SYN frames. -/
theorem WorkersOwn.react {A : Bytes → Prop} {server later : ExitServer} {action : ServerAction}
    {reply : Option Reply} (owns : server.WorkersOwn A)
    (syn : ∀ request clientId frames now atCheck afterScan,
      action = .post request clientId frames now atCheck afterScan →
        ∀ f ∈ frames, f.hasFlag FlagSYN = true → A f.sessionId)
    (reacted : server.react action = some (later, reply)) : later.WorkersOwn A := by
  cases react_moved reacted with
  | posted request clientId frames now atCheck afterScan pool workers =>
      have accepted := owns.accept now (syn _ _ _ _ _ _ rfl)
      intro w member
      rw [workers] at member
      rw [pool]
      exact accepted.grow (extends_poll_round _ _ _ _) w member
  | resumed index atCheck afterScan request poll found pool workers =>
      intro w member
      rw [workers] at member
      rw [pool]
      exact owns.grow (extends_resume_poll _ _ _ _) w member
  | acted index act w w' effect found acted pool workers =>
      have grown := owns.grow (extends_effect server.pool w.session effect)
      intro v member
      rw [workers] at member
      rw [pool]
      rcases List.mem_or_eq_of_mem_set member with old | rfl
      · exact grown v old
      · rw [(UpstreamWorker.act_acted acted).1]
        exact grown w (List.mem_of_getElem? found)

end ExitServer

end Identity

end Astrix
