import Mathlib.Data.List.Infix
import Astrix.BatchDispatch
import Astrix.CrossTalk
import Astrix.UploadClient

/-!
# One session on the server

The frames of the session that arrived so far, and what became of them: a
worker wrote their payloads or they wait in the receive queue. No step of the
server changes the sum of the two, and a batch adds its frames to it.
-/

namespace Astrix

open PyRuntime SessionPool

set_option autoImplicit false

theorem count_unique {α : Type} {p : α → Bool} {items : List α} (once : items.countP p ≤ 1)
    {i j : Nat} {first second : α} (foundFirst : items[i]? = some first)
    (foundSecond : items[j]? = some second) (isFirst : p first = true)
    (isSecond : p second = true) : i = j := by
  induction items generalizing i j with
  | nil => cases foundFirst
  | cons item rest ih =>
      have later : ∀ {k : Nat} {other : α}, rest[k]? = some other → p other = true →
          p item = true → False := by
        intro k other found isOther isItem
        rw [List.countP_cons_of_pos isItem] at once
        have none : rest.countP p = 0 := by omega
        exact List.countP_eq_zero.mp none other (List.mem_of_getElem? found) isOther
      cases i with
      | zero =>
          cases j with
          | zero => rfl
          | succ j =>
              cases foundFirst
              exact (later foundSecond isSecond isFirst).elim
      | succ i =>
          cases j with
          | zero =>
              cases foundSecond
              exact (later foundFirst isFirst isSecond).elim
          | succ j =>
              have restOnce : rest.countP p ≤ 1 :=
                (List.countP_cons ▸ Nat.le_add_right _ _ :
                  rest.countP p ≤ (item :: rest).countP p).trans once
              exact congrArg Nat.succ (ih restOnce foundFirst foundSecond)

/-- The number of upstream workers of an object. -/
def workersOf (r : Nat) (workers : List UpstreamWorker) : Nat :=
  workers.countP fun w => w.session = r

theorem workers_of_set {r index : Nat} {workers : List UpstreamWorker} {w w' : UpstreamWorker}
    (found : workers[index]? = some w) (session : w'.session = w.session) :
    workersOf r (workers.set index w') = workersOf r workers := by
  obtain ⟨bound, here⟩ := List.getElem?_eq_some_iff.mp found
  unfold workersOf
  rw [List.countP_set bound, here, session]
  split_ifs with own
  · have positive : 0 < workers.countP fun w => w.session = r :=
      List.countP_pos_iff.mpr ⟨w, List.mem_of_getElem? found, own⟩
    omega
  · omega

/-- With one worker for the object, that worker is the one that moved. -/
theorem moved_worker {r index : Nat} {workers : List UpstreamWorker} {w w' v : UpstreamWorker}
    (once : workersOf r workers ≤ 1) (found : workers[index]? = some w)
    (session : w'.session = w.session) (own : w.session = r)
    (member : v ∈ workers.set index w') (isOwn : v.session = r) : v = w' := by
  rw [← workers_of_set found session] at once
  obtain ⟨place, slot⟩ := List.getElem?_of_mem member
  have moved : (workers.set index w')[index]? = some w' :=
    List.getElem?_set_self (List.getElem?_eq_some_iff.mp found).1
  have same := count_unique once slot moved (decide_eq_true isOwn)
    (decide_eq_true (session.trans own))
  subst same
  exact Option.some.inj (slot.symm.trans moved)

/-- The object of the session, its worker, and the frames of the session that
arrived: what was written and what waits add up to them, as long as the
dictionary has the object. -/
structure Serving (sid : Bytes) (r : Nat) (pool : SessionPool) (workers : List UpstreamWorker)
    (arrived : List Frame) : Prop where
  placed : Placed sid r pool
  once : workersOf r workers ≤ 1
  started : arrived ≠ []
  whole : pool.get sid = some r → ∀ w ∈ workers, w.session = r →
    w.written.flatten ++ payloads (pool.objects r).rxQ = payloads arrived
  part : ∀ w ∈ workers, w.session = r →
    w.written.flatten ++ payloads (pool.objects r).rxQ <+: payloads arrived

def Upstreamed (sid : Bytes) (pool : SessionPool) (workers : List UpstreamWorker)
    (arrived : List Frame) : Prop :=
  (Unseen sid pool ∧ arrived = []) ∨ ∃ r, Serving sid r pool workers arrived

section Server

variable {A B : Bytes → Bytes → Prop} {sid : Bytes} {r : Nat} {pool later : SessionPool}
  {workers : List UpstreamWorker} {arrived : List Frame}

theorem Upstreamed.kept (upstreamed : Upstreamed sid pool workers arrived)
    (kept : Kept pool later) : Upstreamed sid later workers arrived := by
  rcases upstreamed with ⟨unseen, none⟩ | ⟨r, serving⟩
  · exact .inl ⟨unseen.same_ids kept.fresh kept.ids, none⟩
  · refine .inr ⟨r, serving.placed.same_ids kept.fresh kept.ids, serving.once, serving.started,
      ?_, ?_⟩
    · intro found
      rw [kept.rx]
      exact serving.whole (kept.get sid r found)
    · rw [kept.rx]
      exact serving.part

theorem uplink_skipped {f : Frame} (up : Uplink A sid f)
    (dropped : f.hasFlag (FlagRST ||| FlagFIN) = true ∨ f.payload = []) : f.payload = [] := by
  cases up.2 with
  | bare flags payload => exact payload
  | chunk flags accepted =>
      rcases dropped with closing | none
      · rw [Frame.hasFlag, flags] at closing
        cases closing
      · exact none

/-- An act of a worker on its session moves bytes from the queue to the writer. -/
theorem acted_conserves {w w' : UpstreamWorker} {effect : UpstreamEffect}
    (held : pool.Holds (Downlink B) (Uplink A))
    (acted : Acted (pool.objects w.session) w w' effect) :
    w'.written.flatten ++ payloads ((effect.apply pool w.session).objects w.session).rxQ =
      w.written.flatten ++ payloads (pool.objects w.session).rxQ := by
  have queue := upstream_effect_rx pool w.session effect
  rw [queue]
  cases acted with
  | silent received written | dialError payload now received written | fin now received written
  | wake received written =>
      rw [written]
      rfl
  | data data now reading received written =>
      rw [written]
      rfl
  | skip f rest waiting empty received written =>
      have member : f ∈ (pool.objects w.session).rxQ := by
        rw [waiting]
        exact List.mem_cons_self
      have none := uplink_skipped (held.rx w.session f member) empty
      rw [written, if_pos rfl, waiting]
      simp [payloads, none]
  | write f rest waiting plain payload received written =>
      rw [written, if_pos rfl, waiting]
      simp [payloads]

theorem upstreamed_act {index : Nat} {w w' : UpstreamWorker} {effect : UpstreamEffect}
    (held : pool.Holds (Downlink B) (Uplink A))
    (upstreamed : Upstreamed sid pool workers arrived) (found : workers[index]? = some w)
    (session : w'.session = w.session) (acted : Acted (pool.objects w.session) w w' effect) :
    Upstreamed sid (effect.apply pool w.session) (workers.set index w') arrived := by
  have fresh := upstream_effect_fresh pool w.session effect
  have ids := upstream_effect_id pool w.session effect
  rcases upstreamed with ⟨unseen, none⟩ | ⟨r, serving⟩
  · exact .inl ⟨unseen.same_ids fresh ids, none⟩
  · have present := List.mem_of_getElem? found
    have sums : ∀ v ∈ workers.set index w', v.session = r → ∃ v₀ ∈ workers, v₀.session = r ∧
        v.written.flatten ++ payloads ((effect.apply pool w.session).objects r).rxQ =
          v₀.written.flatten ++ payloads (pool.objects r).rxQ := by
      intro v member isOwn
      by_cases own : w.session = r
      · have moved := moved_worker serving.once found session own member isOwn
        refine ⟨w, present, own, ?_⟩
        rw [moved, ← own]
        exact acted_conserves held acted
      · rcases List.mem_or_eq_of_mem_set member with old | rfl
        · refine ⟨v, old, isOwn, ?_⟩
          rw [upstream_effect_other pool w.session effect (Ne.symm own)]
        · exact absurd (session.symm.trans isOwn) own
    refine .inr ⟨r, serving.placed.same_ids fresh ids, ?_, serving.started, ?_, ?_⟩
    · rw [workers_of_set found session]
      exact serving.once
    · intro listed v member isOwn
      rw [upstream_effect_get] at listed
      obtain ⟨v₀, old, wasOwn, same⟩ := sums v member isOwn
      rw [same]
      exact serving.whole listed v₀ old wasOwn
    · intro v member isOwn
      obtain ⟨v₀, old, wasOwn, same⟩ := sums v member isOwn
      rw [same]
      exact serving.part v₀ old wasOwn

/-- The batch continues the stream: it starts with the SYN if nothing arrived
before, and has none otherwise. -/
def Continues (arrived batch : List Frame) : Prop :=
  (arrived = [] → batch = [] ∨ OneSyn batch) ∧ (arrived ≠ [] → ∀ f ∈ batch, f.flags ≠ FlagSYN)

theorem continues_of_front {emitted batch : List Frame} (one : OneSyn emitted)
    (front : arrived ++ batch <+: emitted) : Continues arrived batch := by
  obtain ⟨syn, rest, rfl, isSyn, others⟩ := one
  constructor
  · rintro rfl
    cases batch with
    | nil => exact .inl rfl
    | cons f more =>
        obtain ⟨same, tail⟩ := List.cons_prefix_cons.mp front
        refine .inr ⟨f, more, rfl, same ▸ isSyn, fun g member => others g (tail.subset member)⟩
  · intro started f member
    cases arrived with
    | nil => exact absurd rfl started
    | cons first more =>
        obtain ⟨_, tail⟩ := List.cons_prefix_cons.mp front
        exact others f (tail.subset (List.mem_append_right _ member))

theorem syn_payload {f : Frame} (up : Uplink A sid f) (syn : f.flags = FlagSYN) :
    f.payload = [] := by
  cases up.2 with
  | bare flags payload => exact payload
  | chunk flags accepted =>
      rw [flags] at syn
      cases syn

theorem workers_of_spawned (r : Nat) (spawned : List Nat) :
    workersOf r (spawned.map spawnWorker) = spawned.countP fun s => s = r := by
  unfold workersOf
  rw [List.countP_map]
  rfl

section Accept

variable {server : ExitServer} {frames rest batch : List Frame} {now : ℚ}

/-- No worker had the object that a batch made; at most one has it afterwards. -/
theorem workers_of_made (bound : ∀ w ∈ server.workers, w.session < server.pool.fresh)
    (made : Made sid r (startDispatch server.pool)
      (dispatchFrames server.locked now server.pool frames) rest) :
    (∀ w ∈ server.workers, w.session ≠ r) ∧
      workersOf r (server.accept frames now).1.workers ≤ 1 := by
  obtain ⟨more, spawned, single⟩ := made.spawned
  have older : ∀ w ∈ server.workers, w.session ≠ r := fun w member same =>
    absurd made.new (Nat.not_le_of_lt (same ▸ bound w member))
  have oldOnes : workersOf r server.workers = 0 :=
    List.countP_eq_zero.mpr fun w member same => older w member (of_decide_eq_true same)
  have newOnes := workers_of_spawned r more
  refine ⟨older, ?_⟩
  rw [accept_workers, spawned]
  unfold workersOf at oldOnes newOnes ⊢
  rw [List.countP_append, oldOnes, startDispatch, List.nil_append, newOnes, Nat.zero_add]
  exact single

/-- A later batch starts no worker for the object. -/
theorem workers_of_received
    (received : Received sid r (startDispatch server.pool)
      (dispatchFrames server.locked now server.pool frames) batch) :
    (∀ w ∈ (server.accept frames now).1.workers, w.session = r → w ∈ server.workers) ∧
      workersOf r (server.accept frames now).1.workers = workersOf r server.workers := by
  obtain ⟨more, spawned, absent⟩ := received.spawned
  have newOnes : workersOf r (more.map spawnWorker) = 0 := by
    rw [workers_of_spawned, List.countP_eq_zero]
    intro s listed same
    exact absent (of_decide_eq_true same ▸ listed)
  rw [accept_workers, spawned, startDispatch, List.nil_append]
  constructor
  · intro w member own
    rcases List.mem_append.mp member with old | new
    · exact old
    · obtain ⟨s, listed, rfl⟩ := List.mem_map.mp new
      have same : s = r := own
      exact absurd (same ▸ listed) absent
  · unfold workersOf at newOnes ⊢
    rw [List.countP_append, newOnes]
    rfl

/-- The batch that opens the session: its worker has written nothing yet. -/
theorem serving_made {syn : Frame} (bound : ∀ w ∈ server.workers, w.session < server.pool.fresh)
    (carried : ∀ f ∈ frames, Uplink A f.sessionId f)
    (opening : sessionFrames sid frames = syn :: rest) (isSyn : syn.flags = FlagSYN)
    (made : Made sid r (startDispatch server.pool)
      (dispatchFrames server.locked now server.pool frames) rest) :
    Serving sid r (server.accept frames now).1.pool (server.accept frames now).1.workers
      (sessionFrames sid frames) := by
  obtain ⟨older, single⟩ := workers_of_made bound made
  have synMember : syn ∈ frames := by
    have member : syn ∈ sessionFrames sid frames := by
      rw [opening]
      exact List.mem_cons_self
    exact (List.mem_filter.mp member).1
  have noPayload : syn.payload = [] := syn_payload (carried syn synMember) isSyn
  have total : payloads (sessionFrames sid frames) = payloads rest := by
    rw [opening]
    simp [payloads, noPayload]
  have sums : ∀ w ∈ (server.accept frames now).1.workers, w.session = r →
      w.written.flatten ++ payloads ((server.accept frames now).1.pool.objects r).rxQ =
        payloads (sessionFrames sid frames) := by
    intro w member own
    rw [accept_workers] at member
    rcases List.mem_append.mp member with old | new
    · exact absurd own (older w old)
    · obtain ⟨s, _, rfl⟩ := List.mem_map.mp new
      rw [total]
      exact congrArg payloads made.rx
  refine ⟨made.placed, single, ?_, fun _ => sums, fun w member own => ?_⟩
  · rw [opening]
    exact List.cons_ne_nil _ _
  · rw [sums w member own]

/-- A later batch: its frames are queued for the worker if the session is still
in the dictionary, and are dropped otherwise. -/
theorem serving_received (serving : Serving sid r server.pool server.workers arrived)
    (received : Received sid r (startDispatch server.pool)
      (dispatchFrames server.locked now server.pool frames) (sessionFrames sid frames)) :
    Serving sid r (server.accept frames now).1.pool (server.accept frames now).1.workers
      (arrived ++ sessionFrames sid frames) := by
  obtain ⟨known, count⟩ := workers_of_received received
  have present : server.pool.get sid = some r →
      ((server.accept frames now).1.pool.objects r).rxQ =
        (server.pool.objects r).rxQ ++ sessionFrames sid frames := received.rx_present
  have missing : server.pool.get sid ≠ some r →
      ((server.accept frames now).1.pool.objects r).rxQ = (server.pool.objects r).rxQ :=
    received.rx_missing
  refine ⟨received.placed, count.trans_le serving.once,
    List.append_ne_nil_of_left_ne_nil serving.started _, ?_, ?_⟩
  · intro listed w member own
    have before : server.pool.get sid = some r := received.get.symm.trans listed
    rw [present before, payloads_append, ← List.append_assoc,
      serving.whole before w (known w member own) own, payloads_append]
  · intro w member own
    rw [payloads_append]
    by_cases before : server.pool.get sid = some r
    · rw [present before, payloads_append, ← List.append_assoc,
        serving.whole before w (known w member own) own]
    · rw [missing before]
      exact (serving.part w (known w member own) own).trans (List.prefix_append _ _)

/-- Dispatching a batch hands the session its frames. -/
theorem upstreamed_accept (bound : ∀ w ∈ server.workers, w.session < server.pool.fresh)
    (carried : ∀ f ∈ frames, Uplink A f.sessionId f)
    (upstreamed : Upstreamed sid server.pool server.workers arrived)
    (continues : Continues arrived (sessionFrames sid frames)) :
    Upstreamed sid (server.accept frames now).1.pool (server.accept frames now).1.workers
      (arrived ++ sessionFrames sid frames) := by
  have flags : ∀ f ∈ frames, ClientFlags f := fun f member => uplink_flags (carried f member)
  rcases upstreamed with ⟨unseen, none⟩ | ⟨r, serving⟩
  · rw [none, List.nil_append]
    rcases continues.1 none with empty | ⟨syn, rest, opening, isSyn, others⟩
    · exact .inl ⟨batch_unseen server.locked now flags (empty ▸ nofun) unseen, empty⟩
    · obtain ⟨r, made⟩ := @batch_makes sid server.locked now _ _ rest [] syn flags opening
        nofun isSyn others unseen
      exact .inr ⟨r, serving_made bound carried opening isSyn made⟩
  · exact .inr ⟨r, serving_received serving
      (batch_received server.locked now flags (continues.2 serving.started) serving.placed)⟩

end Accept

/-- One step of the server. -/
theorem Upstreamed.react {server after : ExitServer} {action : ServerAction}
    {reply : Option Reply} (upstreamed : Upstreamed sid server.pool server.workers arrived)
    (sound : server.Sound A B) (reacted : server.react action = some (after, reply))
    (carried : ∀ f ∈ action.carried, Uplink A f.sessionId f)
    (continues : Continues arrived (sessionFrames sid action.carried)) :
    Upstreamed sid after.pool after.workers (arrived ++ sessionFrames sid action.carried) := by
  cases ExitServer.react_moved reacted with
  | posted request clientId frames now atCheck afterScan pool workers =>
      rw [pool, workers]
      exact (upstreamed_accept sound.bound carried upstreamed continues).kept
        (kept_poll_round _ _ _ _)
  | resumed index atCheck afterScan request poll found pool workers =>
      rw [pool, workers]
      have nothing : arrived ++ sessionFrames sid
          (ServerAction.resume index atCheck afterScan).carried = arrived := List.append_nil _
      rw [nothing]
      exact upstreamed.kept (kept_resume_poll _ _ _ _)
  | acted index act w w' effect found acted pool workers =>
      obtain ⟨session, how⟩ := UpstreamWorker.act_acted acted
      have nothing : arrived ++ sessionFrames sid (ServerAction.worker index act).carried =
          arrived := List.append_nil _
      rw [pool, workers, nothing]
      exact upstreamed_act sound.held.pool upstreamed found session how

/-- A step without a batch. -/
theorem Upstreamed.react_alone {server after : ExitServer} {action : ServerAction}
    {reply : Option Reply} (upstreamed : Upstreamed sid server.pool server.workers arrived)
    (sound : server.Sound A B) (reacted : server.react action = some (after, reply))
    (alone : action.carried = []) : Upstreamed sid after.pool after.workers arrived := by
  have stepped := upstreamed.react sound reacted (alone ▸ nofun)
    (alone ▸ ⟨fun _ => .inl rfl, fun _ => nofun⟩)
  rw [alone] at stepped
  exact (List.append_nil arrived) ▸ stepped

end Server

end Astrix
