import Astrix.OneSession
import Astrix.OneWorker

/-!
# Workers whose session has left the pool

A connected worker reads into its own `Session` object and closes on a FIN or
RST in that object's receive queue. The dispatch of an RST removes the session
and queues nothing, and the idle cleanup removes it and sets its events: after
either the worker is out of reach. What is proved is which steps do that.
-/

namespace Astrix

open PyRuntime SessionPool

set_option autoImplicit false

/-- The frame on which `write_downstream` closes the connection. -/
def Frame.closing (f : Frame) : Bool := f.hasFlag (FlagRST ||| FlagFIN)

/-- Dispatched in the branch of a FIN. -/
def Frame.isFin (f : Frame) : Bool := !f.hasFlag FlagSYN && f.hasFlag FlagFIN

/-- Dispatched in the branch of an RST. -/
def Frame.isRst (f : Frame) : Bool :=
  !f.hasFlag FlagSYN && !f.hasFlag FlagFIN && !f.hasFlag FlagACK && f.hasFlag FlagRST

def firstClosing (sid : Bytes) (frames : List Frame) : Option Frame :=
  frames.find? fun f => f.sessionId = sid ∧ (f.isFin ∨ f.isRst)

/-- A FIN or RST waits in the receive queue. -/
def Told (s : Session) : Prop := s.rxQ.any Frame.closing = true

/-- The dictionary has this object under its id. -/
def SessionPool.Maps (pool : SessionPool) (r : Nat) : Prop :=
  pool.get (pool.objects r).sessionId = some r

/-- The connection is open: dialled, and `write_downstream` has not returned. -/
def UpstreamWorker.connected (w : UpstreamWorker) : Prop :=
  w.stage = .connected ∧ w.writer ≠ .done

instance (s : Session) : Decidable (Told s) := inferInstanceAs (Decidable (_ = true))

instance (pool : SessionPool) (r : Nat) : Decidable (pool.Maps r) :=
  inferInstanceAs (Decidable (_ = _))

instance (w : UpstreamWorker) : Decidable w.connected := inferInstanceAs (Decidable (_ ∧ _))

/-- What a worker of the object relies on. -/
def SessionPool.Serves (pool : SessionPool) (r : Nat) : Prop :=
  Told (pool.objects r) ∨ pool.Maps r

instance (pool : SessionPool) (r : Nat) : Decidable (pool.Serves r) :=
  inferInstanceAs (Decidable (_ ∨ _))

/-- A garbage collection is due when the handler wakes up. -/
def Poll.gcDue (poll : Poll) : Prop := poll.nowT - poll.lastGc ≥ gcInterval

instance (poll : Poll) : Decidable poll.gcDue := inferInstanceAs (Decidable (_ ≥ _))

namespace ExitServer

def NoOrphan (server : ExitServer) : Prop :=
  ∀ w ∈ server.workers, w.connected → server.pool.Serves w.session

/-- The step does not take the session from a connected worker that was not told
to close: for its session no RST comes before a FIN, and no garbage collection
finds it expired; no dial succeeds after the session is gone; and no worker takes
the last FIN or RST of a session that is gone and that another one serves. -/
def SparesWorkers (server : ExitServer) : ServerAction → Prop
  | .post _ _ frames _ _ _ => ∀ w ∈ server.workers, w.connected →
      ¬ Told (server.pool.objects w.session) →
        ∀ f ∈ firstClosing (server.pool.objects w.session).sessionId frames, f.isFin = true
  | .resume index _ _ => ∀ entry ∈ server.polls[index]?, entry.2.gcDue →
      ∀ w ∈ server.workers, w.connected → ¬ Told (server.pool.objects w.session) →
        server.pool.isExpired idleSessionTimeout entry.2.nowT w.session = false
  | .worker index .dialed => ∀ w ∈ server.workers[index]?, server.pool.Serves w.session
  | .worker index .pop => ∀ w ∈ server.workers[index]?, server.pool.Maps w.session ∨
      Told (server.pool.objects w.session).popRx ∨
        ∀ v ∈ server.workers.eraseIdx index, v.connected → v.session ≠ w.session
  | .worker _ _ => True

instance (server : ExitServer) (action : ServerAction) :
    Decidable (server.SparesWorkers action) :=
  match action with
  | .post _ _ frames _ _ _ => inferInstanceAs (Decidable (∀ w ∈ server.workers, w.connected →
      ¬ Told (server.pool.objects w.session) →
        ∀ f ∈ firstClosing (server.pool.objects w.session).sessionId frames, f.isFin = true))
  | .resume index _ _ => inferInstanceAs (Decidable (∀ entry ∈ server.polls[index]?,
      entry.2.gcDue → ∀ w ∈ server.workers, w.connected →
        ¬ Told (server.pool.objects w.session) →
          server.pool.isExpired idleSessionTimeout entry.2.nowT w.session = false))
  | .worker index .dialed => inferInstanceAs (Decidable
      (∀ w ∈ server.workers[index]?, server.pool.Serves w.session))
  | .worker index .pop => inferInstanceAs (Decidable (∀ w ∈ server.workers[index]?,
      server.pool.Maps w.session ∨ Told (server.pool.objects w.session).popRx ∨
        ∀ v ∈ server.workers.eraseIdx index, v.connected → v.session ≠ w.session))
  | .worker _ .begin | .worker _ (.dialFailed _ _) | .worker _ .dialRaised
  | .worker _ (.read _ _) | .worker _ (.readEnded _) | .worker _ .wake | .worker _ .writeFailed
  | .worker _ .writerCancelled | .worker _ .finish => isTrue trivial

end ExitServer

section Flags

theorem and_or_ne_zero (flags a b : Nat) :
    (flags &&& (a ||| b) != 0) = ((flags &&& a != 0) || (flags &&& b != 0)) := by
  rw [Nat.and_or_distrib_left, Bool.eq_iff_iff]
  simp only [bne_iff_ne, ne_eq, Nat.or_eq_zero_iff, Bool.or_eq_true]
  tauto

theorem fin_closing {f : Frame} (fin : f.hasFlag FlagFIN = true) : f.closing = true := by
  unfold Frame.hasFlag at fin
  rw [Frame.closing, Frame.hasFlag, and_or_ne_zero, fin, Bool.or_true]

theorem plain_not_closing {f : Frame} (plain : f.flags = 0) : f.closing = false := by
  rw [Frame.closing, Frame.hasFlag, plain, Nat.zero_and]
  rfl

theorem told_enqueue (s : Session) (f : Frame) (now : ℚ) :
    Told (s.enqueueRx f now) ↔ Told s ∨ f.closing = true := by
  rw [Told, Told, Session.enqueueRx, List.any_append, Bool.or_eq_true]
  simp

end Flags

section Dispatch

variable (locked : Bool) (now : ℚ) {state : Dispatch} (f : Frame) {r : Nat}

theorem get_or_create_object (pool : SessionPool) (sid : Bytes) (flags : Nat) (target : Text)
    (bound : r < pool.fresh) :
    (pool.getOrCreate sid flags target now).1.objects r = pool.objects r := by
  rcases get_or_create_cases pool sid flags target now with ⟨ref, _, same⟩ | ⟨missing, made⟩
  · rw [same]
  · rw [made, insert_objects, if_neg (Nat.ne_of_lt bound)]

theorem get_or_create_maps (pool : SessionPool) (sid : Bytes) (flags : Nat) (target : Text)
    (bound : r < pool.fresh) :
    (pool.getOrCreate sid flags target now).1.Maps r ↔ pool.Maps r := by
  rw [Maps, Maps, get_or_create_object now pool sid flags target bound]
  rcases get_or_create_cases pool sid flags target now with ⟨ref, _, same⟩ | ⟨missing, made⟩
  · rw [same]
  · rw [made]
    by_cases own : (pool.objects r).sessionId = sid
    · rw [own, missing, SessionPool.get, SessionPool.insert, OrderedDict.get_insert_new_self]
      simp [Nat.ne_of_gt bound]
    · rw [SessionPool.get, SessionPool.insert,
        OrderedDict.get_insert_new_of_ne _ _ _ _ _ own]
      rfl

/-- What `modify` can change of a session's place. -/
theorem modify_maps (pool : SessionPool) (ref : Nat) (change : Session → Session)
    (sameId : ∀ s, (change s).sessionId = s.sessionId) :
    (pool.modify ref change sameId).Maps r ↔ pool.Maps r := by
  rw [Maps, modify_session_id, modify_get, Maps]

theorem set_seq_maps (pool : SessionPool) (ref : Nat) (seq : Int) :
    (pool.setSeq ref seq).Maps r ↔ pool.Maps r := modify_maps _ _ _ _

theorem enqueue_rx_maps (pool : SessionPool) (ref : Nat) :
    (pool.enqueueRx ref f now).Maps r ↔ pool.Maps r := modify_maps _ _ _ _

theorem remove_maps (pool : SessionPool) (sid : Bytes) :
    (pool.remove sid).Maps r ↔ pool.Maps r ∧ (pool.objects r).sessionId ≠ sid := by
  have same : (pool.remove sid).objects r = pool.objects r := rfl
  rw [Maps, same, Maps, SessionPool.get, SessionPool.remove]
  dsimp only
  by_cases own : (pool.objects r).sessionId = sid
  · rw [own, OrderedDict.get_erase_self]
    simp
  · rw [OrderedDict.get_erase_of_ne _ _ _ own]
    simp [own, SessionPool.get]

theorem set_seq_told (pool : SessionPool) (ref : Nat) (seq : Int) :
    Told ((pool.setSeq ref seq).objects r) ↔ Told (pool.objects r) := by
  rw [set_seq_objects]
  split_ifs with same
  · rw [same]
    rfl
  · rfl

/-- A frame for the session under `sid` tells the workers of its object. -/
theorem enqueue_told {pool : SessionPool} {ref : Nat} (found : pool.get f.sessionId = some ref) :
    Told ((pool.enqueueRx ref f now).objects r) ↔ Told (pool.objects r) ∨
      (pool.Maps r ∧ (pool.objects r).sessionId = f.sessionId ∧ f.closing = true) := by
  have keyed := get_keyed found
  rw [enqueue_rx_objects]
  by_cases same : r = ref
  · have maps : pool.Maps r := by
      rw [Maps, same, keyed.2]
      exact found
    rw [if_pos same, same, told_enqueue, keyed.2]
    rw [same] at maps
    simp [maps]
  · rw [if_neg same]
    refine ⟨.inl, fun told => ?_⟩
    rcases told with already | ⟨maps, own, _⟩
    · exact already
    · rw [Maps, own, found] at maps
      exact absurd (Option.some.inj maps).symm same

/-- What the dispatch of one frame does to an object. -/
theorem dispatch_frame_object (bound : r < state.pool.fresh) :
    (Told ((dispatchFrame locked now state f).pool.objects r) ↔
        Told (state.pool.objects r) ∨ (state.pool.Maps r ∧
          (state.pool.objects r).sessionId = f.sessionId ∧ f.isFin = true)) ∧
      ((dispatchFrame locked now state f).pool.Maps r ↔ state.pool.Maps r ∧
        ¬ ((state.pool.objects r).sessionId = f.sessionId ∧ f.isRst = true)) := by
  have syn : (Told (((state.pool.getOrCreate f.sessionId f.flags f.target now).1.setSeq
        (state.pool.getOrCreate f.sessionId f.flags f.target now).2 (f.seq + 1)).objects r) ↔
          Told (state.pool.objects r)) ∧
      (((state.pool.getOrCreate f.sessionId f.flags f.target now).1.setSeq
        (state.pool.getOrCreate f.sessionId f.flags f.target now).2 (f.seq + 1)).Maps r ↔
          state.pool.Maps r) := by
    rw [set_seq_told, get_or_create_object now _ _ _ _ bound, set_seq_maps,
      get_or_create_maps now _ _ _ _ bound]
    exact ⟨Iff.rfl, Iff.rfl⟩
  rw [dispatchFrame]
  split_ifs with isSyn lock isFin isAck isRst isData
  · simpa [Frame.isFin, Frame.isRst, isSyn] using syn
  · simpa [Frame.isFin, Frame.isRst, isSyn] using syn
  · have fin : f.isFin = true := by
      rw [Frame.isFin, isFin, Bool.eq_false_iff.mpr isSyn]
      rfl
    have notRst : f.isRst = false := by
      rw [Frame.isRst, isFin]
      simp
    cases found : state.pool.get f.sessionId with
    | some s =>
        dsimp only
        rw [enqueue_told now f found, fin_closing isFin, fin, notRst, enqueue_rx_maps]
        simp
    | none =>
        have unmapped : ¬ (state.pool.Maps r ∧ (state.pool.objects r).sessionId = f.sessionId ∧
            f.isFin = true) := by
          rintro ⟨maps, own, _⟩
          rw [Maps, own, found] at maps
          cases maps
        rw [or_iff_left unmapped, notRst]
        simp
  · cases found : state.pool.get f.sessionId with
    | some s =>
        dsimp only
        rw [set_seq_told, set_seq_maps]
        simp [Frame.isFin, Frame.isRst, isFin, isAck]
    | none => simp [Frame.isFin, Frame.isRst, isFin, isAck]
  · have rst : f.isRst = true := by
      simp [Frame.isRst, isSyn, isFin, isAck, isRst]
    have same : Told ((state.pool.remove f.sessionId).objects r) ↔ Told (state.pool.objects r) :=
      Iff.rfl
    dsimp only
    rw [same, remove_maps]
    simp [Frame.isFin, isFin, rst]
  · cases found : state.pool.get f.sessionId with
    | some s =>
        dsimp only
        rw [enqueue_told now f found, plain_not_closing isData, enqueue_rx_maps]
        simp [Frame.isFin, Frame.isRst, isFin, isRst]
    | none => simp [Frame.isFin, Frame.isRst, isFin, isRst]
  · simp [Frame.isFin, Frame.isRst, isFin, isRst]

/-- A batch leaves an object served exactly when it was told before, or the
dictionary had it and the first FIN or RST for it is no RST. -/
theorem dispatch_frames_serve (frames : List Frame) (pool : SessionPool) (bound : r < pool.fresh) :
    (dispatchFrames locked now pool frames).pool.Serves r ↔
      Told (pool.objects r) ∨ (pool.Maps r ∧
        ∀ f ∈ firstClosing (pool.objects r).sessionId frames, f.isFin = true) := by
  have all : ∀ (rest : List Frame) (state : Dispatch), r < state.pool.fresh →
      ((rest.foldl (dispatchFrame locked now) state).pool.Serves r ↔
        Told (state.pool.objects r) ∨ (state.pool.Maps r ∧
          ∀ f ∈ firstClosing (state.pool.objects r).sessionId rest, f.isFin = true)) := by
    intro rest
    induction rest with
    | nil =>
        intro state _
        rw [List.foldl_nil, Serves, firstClosing]
        simp
    | cons f rest ih =>
        intro state inside
        obtain ⟨told, maps⟩ := @dispatch_frame_object locked now state f r inside
        have grown := dispatch_frame_extends locked now state f
        rw [List.foldl_cons, ih _ (inside.trans_le grown.fresh), told, maps, grown.ids r inside,
          firstClosing, firstClosing, List.find?_cons]
        by_cases own : (state.pool.objects r).sessionId = f.sessionId
        · cases fin : f.isFin with
          | true =>
              have notRst : f.isRst = false := by
                rw [Frame.isFin, Bool.and_eq_true] at fin
                simp [Frame.isRst, fin.2]
              simp [own, fin, notRst]
              tauto
          | false =>
              cases rst : f.isRst with
              | true => simp [own, fin]
              | false => simp [own]
        · simp [own, Ne.symm own]
  exact all frames _ bound

end Dispatch

section Pools

variable {r : Nat}

theorem serves_congr {before after : SessionPool}
    (rx : (after.objects r).rxQ = (before.objects r).rxQ)
    (id : (after.objects r).sessionId = (before.objects r).sessionId)
    (get : after.get (before.objects r).sessionId = before.get (before.objects r).sessionId) :
    after.Serves r ↔ before.Serves r := by
  rw [Serves, Serves, Told, Told, Maps, Maps, rx, id, get]

theorem poll_round_serves (pool : SessionPool) (poll : Poll) (atCheck afterScan : ℚ) :
    (pollRound pool poll atCheck afterScan).1.Serves r ↔ pool.Serves r := by
  rcases poll_round_cases pool poll atCheck afterScan with ⟨same, _⟩ | ⟨scanned, _⟩
  · rw [same]
  · rw [scanned]
    have kept := kept_scan pool poll.responseFrames
    apply serves_congr (kept.rx r) (kept.ids r)
    rw [SessionPool.get, scan_sessions_dict]
    rfl

theorem purge_all_maps (entries : List (Bytes × Nat)) (pool : SessionPool) :
    (entries.foldl purge pool).Maps r ↔
      pool.Maps r ∧ ∀ entry ∈ entries, (pool.objects r).sessionId ≠ entry.1 := by
  induction entries generalizing pool with
  | nil => simp
  | cons entry rest ih =>
      have first : (pool.purge entry).Maps r ↔
          pool.Maps r ∧ (pool.objects r).sessionId ≠ entry.1 :=
        (modify_maps _ _ _ _).trans (remove_maps pool entry.1)
      rw [List.foldl_cons, ih, first, (kept_purge pool entry).ids r, List.forall_mem_cons,
        and_assoc]

/-- The idle cleanup spares an object exactly when it is not expired. -/
theorem cleanup_maps (pool : SessionPool) (timeout now : ℚ) :
    (pool.cleanupExpired timeout now).1.Maps r ↔
      pool.Maps r ∧ pool.isExpired timeout now r = false := by
  rw [cleanupExpired, purge_all_maps]
  apply and_congr_right
  intro maps
  constructor
  · intro spared
    by_contra isExpired
    have listed : ((pool.objects r).sessionId, r) ∈ pool.expired timeout now :=
      List.mem_filter.mpr ⟨(OrderedDict.get_eq_some_iff _ _ _).mp maps,
        Bool.not_eq_false _ ▸ isExpired⟩
    exact spared _ listed rfl
  · intro current entry listed same
    obtain ⟨member, isExpired⟩ := List.mem_filter.mp listed
    have here : pool.get entry.1 = some entry.2 :=
      (OrderedDict.get_eq_some_iff _ _ _).mpr member
    rw [← same] at here
    have object : r = entry.2 := Option.some.inj (maps.symm.trans here)
    rw [← object, current] at isExpired
    cases isExpired

theorem garbage_serves (pool : SessionPool) (poll : Poll) :
    (collectGarbage pool poll).1.Serves r ↔ Told (pool.objects r) ∨ (pool.Maps r ∧
      (poll.gcDue → pool.isExpired idleSessionTimeout poll.nowT r = false)) := by
  have told : Told ((collectGarbage pool poll).1.objects r) ↔ Told (pool.objects r) := by
    rw [Told, (garbage_kept pool poll).1.rx r]
    rfl
  rw [Serves, told]
  apply or_congr_right
  by_cases due : poll.nowT - poll.lastGc ≥ gcInterval
  · rw [collectGarbage, if_pos due, cleanup_maps]
    exact and_congr_right fun _ => ⟨fun current _ => current, fun current => current due⟩
  · rw [collectGarbage, if_neg due]
    exact ⟨fun maps => ⟨maps, fun now => absurd now due⟩, fun both => both.1⟩

theorem effect_serves {pool : SessionPool} {session : Nat} {effect : UpstreamEffect}
    (aside : effect ≠ .popRx ∨ r ≠ session) :
    (effect.apply pool session).Serves r ↔ pool.Serves r := by
  refine serves_congr ?_ (upstream_effect_id _ _ _ _) (upstream_effect_get _ _ _ _)
  by_cases own : r = session
  · have noPop : effect ≠ .popRx := aside.resolve_right (not_not.mpr own)
    rw [own, upstream_effect_rx, if_neg noPop]
  · rw [upstream_effect_other _ _ _ own]

end Pools

section Acts

variable {s : Session} {w w' : UpstreamWorker} {act : WorkerAct} {effect : UpstreamEffect}

/-- A worker that has not dialled yet has not started to write. -/
def UpstreamWorker.idleWriter (w : UpstreamWorker) : Prop :=
  w.stage = .starting ∨ w.stage = .dialing → w.writer = .waiting

/-- An act that does not open the connection and takes nothing. -/
structure Neutral (w : UpstreamWorker) (act : WorkerAct) (w' : UpstreamWorker)
    (effect : UpstreamEffect) : Prop where
  noDial : act ≠ .dialed
  noPop : act ≠ .pop
  takesNothing : effect ≠ .popRx
  opened : w'.connected → w.connected
  idle : w.idleWriter → w'.idleWriter

theorem idle_of_connected (stage : w.stage = .connected) : w.idleWriter := by
  intro early
  rw [stage] at early
  rcases early with impossible | impossible <;> cases impossible

theorem ended_idle (ended : w.stage = .ended) : ¬ w.connected ∧ w.idleWriter := by
  refine ⟨fun opened => ?_, fun early => ?_⟩
  · rw [UpstreamWorker.connected, ended] at opened
    cases opened.1
  · rw [ended] at early
    rcases early with impossible | impossible <;> cases impossible

theorem neutral_of_ended (noDial : act ≠ .dialed) (noPop : act ≠ .pop)
    (takesNothing : effect ≠ .popRx) (ended : w'.stage = .ended) : Neutral w act w' effect :=
  ⟨noDial, noPop, takesNothing, fun opened => absurd opened (ended_idle ended).1,
    fun _ => (ended_idle ended).2⟩

/-- How an act bears on the connection. -/
theorem act_connection (acted : w.act s act = some (w', effect)) :
    (act = .dialed ∧ effect = .nothing ∧ w.stage = .dialing ∧
        w' = { w with stage := .connected, reading := true }) ∨
      (act = .pop ∧ w.connected ∧ w.pop s = (w', effect)) ∨ Neutral w act w' effect := by
  cases UpstreamWorker.act_cases acted with
  | noTarget | dialFailed | unencodable | dialRaised | finish =>
      exact .inr (.inr (neutral_of_ended (by simp) (by simp) (by simp) rfl))
  | begun starting =>
      refine .inr (.inr ⟨by simp, by simp, by simp, fun opened => ?_, fun idle _ => ?_⟩)
      · cases opened.1
      · exact idle (.inl starting)
  | dialed dialing => exact .inl ⟨rfl, rfl, dialing, rfl⟩
  | read _ _ stage | readEnded _ stage =>
      exact .inr (.inr ⟨by simp, by simp, by simp, id, fun _ => idle_of_connected stage⟩)
  | wake stage waiting =>
      have writing : w.writer ≠ .done := by
        rw [waiting]
        simp
      exact .inr (.inr ⟨by simp, by simp, by simp, fun _ => ⟨stage, writing⟩,
        fun _ => idle_of_connected stage⟩)
  | pop _ _ stage draining popped =>
      refine .inr (.inl ⟨rfl, ⟨stage, ?_⟩, popped⟩)
      rw [draining]
      simp
  | writeFailed stage | writerCancelled stage =>
      exact .inr (.inr ⟨by simp, by simp, by simp, fun opened => absurd rfl opened.2,
        fun _ => idle_of_connected stage⟩)

/-- A worker that is still connected after a pop did not take a FIN or RST. -/
theorem pop_connection {pool : SessionPool}
    (popped : w.pop (pool.objects w.session) = (w', effect)) :
    ((effect.apply pool w.session).Serves w.session ↔
        pool.Maps w.session ∨ Told (pool.objects w.session).popRx) ∧
      (w'.connected → Told (pool.objects w.session) → Told (pool.objects w.session).popRx) ∧
        w'.stage = w.stage := by
  have served : effect = .popRx → ((effect.apply pool w.session).Serves w.session ↔
      pool.Maps w.session ∨ Told (pool.objects w.session).popRx) := by
    intro isPop
    have queue : ((effect.apply pool w.session).objects w.session).rxQ =
        (pool.objects w.session).rxQ.tail := by
      rw [upstream_effect_rx, if_pos isPop]
    rw [Serves, Told, queue, Maps, upstream_effect_id, upstream_effect_get, or_comm]
    rfl
  have first : ∀ f rest, (pool.objects w.session).rxQ = f :: rest →
      (Told (pool.objects w.session) ↔
        f.closing = true ∨ Told (pool.objects w.session).popRx) := by
    intro f rest queue
    rw [Told, Told, Session.popRx, queue, List.any_cons, Bool.or_eq_true, List.tail_cons]
  cases UpstreamWorker.pop_cases popped with
  | emptied queue =>
      have quiet : ¬ Told (pool.objects w.session) := by
        rw [Told, queue]
        simp
      have still : ¬ Told (pool.objects w.session).popRx := by
        rw [Told, Session.popRx, queue]
        simp
      refine ⟨?_, fun _ told => absurd told quiet, rfl⟩
      have same : (UpstreamEffect.nothing.apply pool w.session).Serves w.session ↔
          pool.Serves w.session := Iff.rfl
      rw [same, Serves, or_iff_right quiet, or_iff_left still]
  | closed f rest queue closing =>
      exact ⟨served rfl, fun opened => absurd rfl opened.2, rfl⟩
  | wrote f rest queue plain payload | skipped f rest queue plain payload =>
      refine ⟨served rfl, fun _ told => ((first f rest queue).mp told).resolve_left ?_, rfl⟩
      exact Bool.eq_false_iff.mp plain

end Acts

section Steps

open ExitServer

variable {server later : ExitServer}

theorem mem_set_iff {α : Type} {items : List α} {index : Nat} (bound : index < items.length)
    (item other : α) : other ∈ items.set index item ↔
      other = item ∨ other ∈ items.eraseIdx index := by
  rw [(List.set_perm_cons_eraseIdx bound item).mem_iff, List.mem_cons]

theorem spawned_not_connected (r : Nat) : ¬ (spawnWorker r).connected := by
  intro opened
  cases opened.1

/-- A batch spares the connected workers or takes a session from one. -/
theorem accept_spares (owns : ∀ w ∈ server.workers, w.session < server.pool.fresh)
    (none : server.NoOrphan) (request : Nat) (clientId : Bytes) (frames : List Frame)
    (now atCheck afterScan : ℚ) :
    (∀ w ∈ (server.accept frames now).1.workers, w.connected →
        (server.firstRound clientId frames now atCheck afterScan).1.Serves w.session) ↔
      server.SparesWorkers (.post request clientId frames now atCheck afterScan) := by
  have serves : ∀ w ∈ server.workers,
      ((server.firstRound clientId frames now atCheck afterScan).1.Serves w.session ↔
        Told (server.pool.objects w.session) ∨ (server.pool.Maps w.session ∧
          ∀ f ∈ firstClosing (server.pool.objects w.session).sessionId frames,
            f.isFin = true)) := by
    intro w member
    rw [ExitServer.firstRound, poll_round_serves]
    exact dispatch_frames_serve server.locked now frames server.pool (owns w member)
  constructor
  · intro kept w member opened untold
    have served := kept w (List.mem_append_left _ member) opened
    rw [serves w member] at served
    exact (served.resolve_left untold).2
  · intro spares w member opened
    rw [accept_workers] at member
    rcases List.mem_append.mp member with old | new
    · rw [serves w old]
      by_cases told : Told (server.pool.objects w.session)
      · exact .inl told
      · exact .inr ⟨(none w old opened).resolve_left told, spares w old opened told⟩
    · obtain ⟨r, _, rfl⟩ := List.mem_map.mp new
      exact absurd opened (spawned_not_connected r)

/-- So does a wake-up of a poll, by its garbage collection. -/
theorem resume_spares (none : server.NoOrphan) {index : Nat} {request : Nat} {poll : Poll}
    (found : server.polls[index]? = some (request, poll)) (atCheck afterScan : ℚ) :
    (∀ w ∈ server.workers, w.connected →
        (resumePoll server.pool poll atCheck afterScan).1.Serves w.session) ↔
      server.SparesWorkers (.resume index atCheck afterScan) := by
  have serves : ∀ r, ((resumePoll server.pool poll atCheck afterScan).1.Serves r ↔
      Told (server.pool.objects r) ∨ (server.pool.Maps r ∧
        (poll.gcDue → server.pool.isExpired idleSessionTimeout poll.nowT r = false))) := by
    intro r
    exact (poll_round_serves _ _ _ _).trans (garbage_serves server.pool poll)
  constructor
  · intro kept entry listed due w member opened untold
    rw [found] at listed
    cases listed
    have served := kept w member opened
    rw [serves] at served
    exact (served.resolve_left untold).2 due
  · intro spares w member opened
    rw [serves]
    by_cases told : Told (server.pool.objects w.session)
    · exact .inl told
    · exact .inr ⟨(none w member opened).resolve_left told,
        fun due => spares (request, poll) found due w member opened told⟩

/-- And so does an act of a worker. -/
theorem act_spares (idle : ∀ w ∈ server.workers, w.idleWriter) (none : server.NoOrphan)
    {index : Nat} {act : WorkerAct} {w w' : UpstreamWorker} {effect : UpstreamEffect}
    (found : server.workers[index]? = some w)
    (acted : w.act (server.pool.objects w.session) act = some (w', effect)) :
    (∀ v ∈ server.workers.set index w', v.connected →
        (effect.apply server.pool w.session).Serves v.session) ↔
      server.SparesWorkers (.worker index act) := by
  have present := List.mem_of_getElem? found
  have bound := (List.getElem?_eq_some_iff.mp found).1
  have same := (UpstreamWorker.act_acted acted).1
  have others : ∀ v ∈ server.workers.eraseIdx index, v.connected →
      (effect ≠ .popRx ∨ v.session ≠ w.session) →
        (effect.apply server.pool w.session).Serves v.session := by
    intro v member opened aside
    rw [effect_serves aside]
    exact none v (List.mem_of_mem_eraseIdx member) opened
  rcases act_connection acted with ⟨rfl, rfl, dialing, moved⟩ | ⟨rfl, opened, popped⟩ | neutral
  · have opened : w'.connected := by
      rw [moved, UpstreamWorker.connected]
      dsimp only
      rw [idle w present (.inr dialing)]
      exact ⟨rfl, by simp⟩
    constructor
    · intro kept v listed
      rw [found] at listed
      cases listed
      have served := kept w' ((mem_set_iff bound w' w').mpr (.inl rfl)) opened
      rw [same] at served
      exact served
    · intro spares v member open_
      rcases (mem_set_iff bound w' v).mp member with rfl | old
      · rw [same]
        exact spares w found
      · exact others v old open_ (.inl (by simp))
  · obtain ⟨served, keeps, _⟩ := pop_connection popped
    constructor
    · intro kept v listed
      rw [found] at listed
      cases listed
      by_cases shared : ∃ v ∈ server.workers.eraseIdx index, v.connected ∧ v.session = w.session
      · obtain ⟨v, member, open_, own⟩ := shared
        have after := kept v ((mem_set_iff bound w' v).mpr (.inr member)) open_
        rw [own, served] at after
        exact or_assoc.mp (.inl after)
      · refine .inr (.inr fun v member open_ own => shared ⟨v, member, open_, own⟩)
    · intro spares v member open_
      rcases (mem_set_iff bound w' v).mp member with rfl | old
      · rw [same, served]
        rcases none w present opened with told | maps
        · exact .inr (keeps open_ told)
        · exact .inl maps
      · by_cases own : v.session = w.session
        · rw [own, served]
          rcases spares w found with maps | told | alone
          · exact .inl maps
          · exact .inr told
          · exact absurd own (alone v old open_)
        · exact others v old open_ (.inr own)
  · constructor
    · intro _
      cases act with
      | dialed => exact absurd rfl neutral.noDial
      | pop => exact absurd rfl neutral.noPop
      | begin | dialFailed | dialRaised | read | readEnded | wake | writeFailed | writerCancelled
      | finish => trivial
    · intro _ v member open_
      rcases (mem_set_iff bound w' v).mp member with rfl | old
      · rw [same, effect_serves (.inl neutral.takesNothing)]
        exact none w present (neutral.opened open_)
      · exact others v old open_ (.inl neutral.takesNothing)

/-- One step leaves no orphan exactly when it spares the connected workers. -/
theorem no_orphan_step (owns : ∀ w ∈ server.workers, w.session < server.pool.fresh)
    (idle : ∀ w ∈ server.workers, w.idleWriter) (none : server.NoOrphan) {action : ServerAction}
    {reply : Option Reply} (reacted : server.react action = some (later, reply)) :
    later.NoOrphan ↔ server.SparesWorkers action := by
  cases react_moved reacted with
  | posted request clientId frames now atCheck afterScan pool workers =>
      rw [NoOrphan, pool, workers]
      exact accept_spares owns none request clientId frames now atCheck afterScan
  | resumed index atCheck afterScan request poll found pool workers =>
      rw [NoOrphan, pool, workers]
      exact resume_spares none found atCheck afterScan
  | acted index act w w' effect found acted pool workers =>
      rw [NoOrphan, pool, workers]
      exact act_spares idle none found acted

theorem idle_step (idle : ∀ w ∈ server.workers, w.idleWriter) {action : ServerAction}
    {reply : Option Reply} (reacted : server.react action = some (later, reply)) :
    ∀ w ∈ later.workers, w.idleWriter := by
  cases react_moved reacted with
  | posted request clientId frames now atCheck afterScan pool workers =>
      rw [workers, accept_workers]
      intro w member
      rcases List.mem_append.mp member with old | new
      · exact idle w old
      · obtain ⟨r, _, rfl⟩ := List.mem_map.mp new
        exact fun _ => rfl
  | resumed index atCheck afterScan request poll found pool workers =>
      rw [workers]
      exact idle
  | acted index act w w' effect found acted pool workers =>
      rw [workers]
      intro v member
      rcases List.mem_or_eq_of_mem_set member with old | rfl
      · exact idle v old
      · rcases act_connection acted with ⟨_, _, _, moved⟩ | ⟨_, opened, popped⟩ | neutral
        · exact idle_of_connected (by rw [moved])
        · exact idle_of_connected ((pop_connection popped).2.2.trans opened.1)
        · exact neutral.idle (idle w (List.mem_of_getElem? found))

end Steps

/-- The invariant of the runs below. -/
structure WorkersServed (log : ServerLog) : Prop where
  accounted : Accounted log
  idle : ∀ w ∈ log.server.workers, w.idleWriter
  none : log.server.NoOrphan

theorem WorkersServed.step_iff {log later : ServerLog} {action : ServerAction}
    (served : WorkersServed log) (stepped : log.step action = some later) :
    later.server.NoOrphan ↔ log.server.SparesWorkers action := by
  obtain ⟨⟨server, reply⟩, reacted, rfl⟩ := Option.map_eq_some_iff.mp stepped
  exact no_orphan_step (fun w member => (served.accounted.workers w member).1) served.idle
    served.none reacted

theorem workers_served_step {log later : ServerLog} {action : ServerAction}
    (served : WorkersServed log) (spares : log.server.SparesWorkers action)
    (stepped : log.step action = some later) : WorkersServed later := by
  refine ⟨accounted_step served.accounted stepped, ?_, (served.step_iff stepped).mpr spares⟩
  obtain ⟨⟨server, reply⟩, reacted, rfl⟩ := Option.map_eq_some_iff.mp stepped
  exact idle_step served.idle reacted

/-- As long as every step spares the connected workers, each of them was told to
close or serves a session of the pool; and the first step that does not spare
them leaves an orphan. -/
theorem no_orphan_while_spared {history : List ServerAction} {log : ServerLog}
    (run : serverMachine.Run (fun log action => log.server.SparesWorkers action)
      ServerLog.start history log) :
    log.server.NoOrphan ∧ ∀ action later, log.step action = some later →
      (later.server.NoOrphan ↔ log.server.SparesWorkers action) := by
  have start : WorkersServed ServerLog.start :=
    ⟨accounted_start, List.forall_mem_nil _, List.forall_mem_nil _⟩
  have served : WorkersServed log :=
    run.invariant start fun _ _ _ before spares stepped => workers_served_step before spares stepped
  exact ⟨served.none, fun _ _ stepped => served.step_iff stepped⟩

def closingFrame (flags : Nat) : Frame := { resentSyn with flags := flags, target := [] }

/-- The session is opened, its worker connects, and the FIN comes before the RST. -/
def finThenReset : List ServerAction :=
  [synPosted 0, .worker 0 .begin, .worker 0 .dialed,
    .post 1 zeroId [closingFrame FlagFIN, closingFrame FlagRST] 0 0 0]

theorem fin_then_reset_no_orphan : ∃ log : ServerLog,
    (∃ w ∈ log.server.workers, w.connected ∧ ¬ log.server.pool.Maps w.session) ∧
      log.server.NoOrphan := by
  have passed : ((serverMachine.exec (fun log action => log.server.SparesWorkers action)
      ServerLog.start finThenReset).any fun log =>
        decide (∃ w ∈ log.server.workers, w.connected ∧ ¬ log.server.pool.Maps w.session)) =
          true := by
    decide +kernel
  obtain ⟨log, run, gone⟩ := StepMachine.run_of_exec_any _ passed
  exact ⟨log, of_decide_eq_true gone, (no_orphan_while_spared run).1⟩

/-- Without the FIN the connected worker is left with a session nobody finds. -/
theorem reset_leaves_orphan :
    ¬ ∀ history log, serverMachine.Run StepMachine.anyStep ServerLog.start history log →
      log.server.NoOrphan := by
  intro always
  have passed : ((serverMachine.exec StepMachine.anyStep ServerLog.start
      [synPosted 0, .worker 0 .begin, .worker 0 .dialed,
        .post 1 zeroId [closingFrame FlagRST] 0 0 0]).any fun log =>
          decide (∃ w ∈ log.server.workers, w.connected ∧ ¬ log.server.pool.Serves w.session)) =
            true := by
    decide +kernel
  obtain ⟨log, run, orphan⟩ := StepMachine.run_of_exec_any _ passed
  obtain ⟨w, member, opened, unserved⟩ := of_decide_eq_true orphan
  exact unserved (always _ _ run w member opened)

end Astrix
