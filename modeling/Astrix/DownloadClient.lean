import Astrix.DownloadServer

/-!
# One session's chunks on the client

The chunks that answers brought to the session, and what became of them: the
read loop passed their payloads to the transport or they wait in the receive
queue. Once the transport is closing, what is read is dropped.
-/

namespace Astrix

open PyRuntime SessionPool

set_option autoImplicit false

/-- The client's session `sid` is its first object, held by its first connection
alone; `dispatched` are the data frames that answers brought to it. -/
structure Downloading (sid : Bytes) (client : Client) (dispatched : List Frame) : Prop where
  found : client.pool.get sid = some 0
  conn : ∃ conn, client.conns[0]? = some conn ∧ conn.session = 0 ∧
    conn.written.flatten <+: payloads dispatched ∧
    (conn.transportClosing = false →
      conn.written.flatten ++ payloads (dataFrames (client.pool.objects 0).rxQ) =
        payloads dispatched)
  single : ∀ (k : Nat) (conn : VirtualConn), client.conns[k]? = some conn → conn.session = 0 → k = 0

section Client

variable {A B : Bytes → Bytes → Prop} {sid : Bytes} {before after : Client}
  {dispatched : List Frame}

theorem downloading_same (downloading : Downloading sid before dispatched)
    (found : after.pool.get sid = some 0) (conns : after.conns = before.conns)
    (queue : (after.pool.objects 0).rxQ = (before.pool.objects 0).rxQ) :
    Downloading sid after dispatched := by
  refine ⟨found, ?_, ?_⟩
  · rw [conns, queue]
    exact downloading.conn
  · rw [conns]
    exact downloading.single

theorem downloading_open {other : Bytes} {target : Text} {now : ℚ}
    (downloading : Downloading sid before dispatched) (different : sid ≠ other)
    (pool : after.pool = (VirtualConn.openSession before.pool other target now).1)
    (conns : after.conns =
      before.conns ++ [(VirtualConn.openSession before.pool other target now).2]) :
    Downloading sid after dispatched := by
  have keyed := get_keyed downloading.found
  obtain ⟨aside, fresh⟩ := open_aside target now downloading.found different
  rw [← pool] at aside
  refine ⟨aside.get.trans downloading.found, ?_, ?_⟩
  · obtain ⟨conn, present, rest⟩ := downloading.conn
    rw [aside.object 0 keyed.1 keyed.2, conns]
    exact ⟨conn, first_append present _, rest⟩
  · rw [conns]
    exact single_append downloading.single fresh

theorem downloading_write {index : Nat} {data : Bytes} {conn conn' : VirtualConn}
    (downloading : Downloading sid before dispatched) (found : before.conns[index]? = some conn)
    (written : conn.write data = some conn') (pool : after.pool = before.pool)
    (conns : after.conns = before.conns.set index conn') :
    Downloading sid after dispatched := by
  have same : conn'.session = conn.session ∧ conn'.written = conn.written ∧
      conn'.transportClosing = conn.transportClosing := by
    rcases write_cases written with rfl | rfl <;> exact ⟨rfl, rfl, rfl⟩
  refine ⟨pool ▸ downloading.found, ?_, ?_⟩
  · obtain ⟨first, present, zero, sums⟩ := downloading.conn
    rw [conns, pool]
    by_cases here : index = 0
    · subst here
      rw [found] at present
      cases present
      refine ⟨conn', List.getElem?_set_self (List.getElem?_eq_some_iff.mp found).1,
        same.1.trans zero, ?_⟩
      rw [same.2.1, same.2.2]
      exact sums
    · exact ⟨first, (List.getElem?_set_ne here).trans present, zero, sums⟩
  · rw [conns]
    exact single_set downloading.single found same.1

theorem data_frames_closing {f : Frame} {rest : List Frame}
    (closing : f.hasFlag (FlagFIN ||| FlagRST) = true) :
    dataFrames (f :: rest) = dataFrames rest := by
  apply List.filter_cons_of_neg
  intro zero
  rw [Frame.hasFlag, of_decide_eq_true zero] at closing
  cases closing

theorem data_frames_chunk {f : Frame} {rest : List Frame} (down : Downlink B sid f)
    (plain : f.hasFlag (FlagFIN ||| FlagRST) = false) :
    dataFrames (f :: rest) = f :: dataFrames rest := by
  apply List.filter_cons_of_pos
  cases down.kind with
  | chunk flags read => exact decide_eq_true flags
  | closing flags =>
      rcases flags with fin | rst
      · rw [Frame.hasFlag, fin] at plain
        cases plain
      · rw [Frame.hasFlag, rst] at plain
        cases plain

/-- An act of the session's connection moves bytes from the queue to the
transport, or drops them when the transport is closing. -/
theorem acted_passes {pool : SessionPool} {conn conn' : VirtualConn} {effect : ConnEffect}
    {total : Bytes} (held : pool.Holds (Uplink A) (Downlink B))
    (owner : VirtualConn.SameOwner conn conn')
    (acted : VirtualConn.Acted (pool.objects conn.session) conn conn' effect)
    (part : conn.written.flatten <+: total)
    (whole : conn.transportClosing = false →
      conn.written.flatten ++ payloads (dataFrames (pool.objects conn.session).rxQ) = total) :
    conn'.written.flatten <+: total ∧ (conn'.transportClosing = false →
      conn'.written.flatten ++
        payloads (dataFrames ((effect.apply pool conn.session).objects conn.session).rxQ) =
          total) := by
  have earlier : conn'.transportClosing = false → conn.transportClosing = false := by
    intro opened
    by_contra closing
    rw [owner.closing (Bool.eq_true_of_not_eq_false closing)] at opened
    cases opened
  have queue := conn_effect_rx pool conn.session effect
  rw [queue]
  cases acted with
  | silent tx written | chunk data rest now head tx written | fin now pending tx written
  | wake tx written =>
      rw [written, if_neg nofun]
      exact ⟨part, fun opened => whole (earlier opened)⟩
  | skip f rest received dropped tx written =>
      rw [written, if_pos rfl, received, List.tail_cons]
      refine ⟨part, fun opened => ?_⟩
      have before := whole (earlier opened)
      rw [received] at before
      rcases dropped with closing | empty | lost
      · rw [data_frames_closing closing] at before
        exact before
      · have same : payloads (dataFrames (f :: rest)) = payloads (dataFrames rest) := by
          simp only [dataFrames, List.filter_cons]
          split_ifs
          · simp [payloads, empty]
          · rfl
        rw [same] at before
        exact before
      · rw [earlier opened] at lost
        cases lost
  | write f rest received plain payload opened tx written =>
      have member : f ∈ (pool.objects conn.session).rxQ := by
        rw [received]
        exact List.mem_cons_self
      have before := whole opened
      rw [received, data_frames_chunk (held.rx conn.session f member) plain] at before
      have sum : conn'.written.flatten ++ payloads (dataFrames rest) = total := by
        rw [← before, written]
        simp [payloads]
      rw [if_pos rfl, received, List.tail_cons]
      exact ⟨⟨_, sum⟩, fun _ => sum⟩

theorem downloading_act {index : Nat} {act : ConnAct} {conn conn' : VirtualConn}
    {effect : ConnEffect} (downloading : Downloading sid before dispatched)
    (held : before.pool.Holds (Uplink A) (Downlink B))
    (found : before.conns[index]? = some conn)
    (acted : conn.act (before.pool.objects conn.session) act = some (conn', effect))
    (pool : after.pool = effect.apply before.pool conn.session)
    (conns : after.conns = before.conns.set index conn') :
    Downloading sid after dispatched := by
  obtain ⟨owner, how⟩ := VirtualConn.act_acted acted
  have single := single_set downloading.single found owner.session
  rw [← conns] at single
  refine ⟨?_, ?_, single⟩
  · rw [pool, conn_effect_get]
    exact downloading.found
  · obtain ⟨first, slot, zero, part, whole⟩ := downloading.conn
    rw [conns, pool]
    by_cases here : conn.session = 0
    · have index0 := downloading.single index conn found here
      subst index0
      rw [found] at slot
      cases slot
      rw [← here] at whole
      obtain ⟨partLater, wholeLater⟩ := acted_passes held owner how part whole
      rw [here] at wholeLater ⊢
      exact ⟨conn', List.getElem?_set_self (List.getElem?_eq_some_iff.mp found).1,
        owner.session.trans zero, partLater, wholeLater⟩
    · have away : index ≠ 0 := by
        rintro rfl
        rw [found] at slot
        cases slot
        exact here zero
      rw [conn_effect_other _ _ _ (Ne.symm here)]
      exact ⟨first, (List.getElem?_set_ne away).trans slot, zero, part, whole⟩

/-- A step of the client brings nothing to the session. -/
theorem Downloading.react {request : Nat} {action : ClientAction} {sent : Option Post}
    (downloading : Downloading sid before dispatched)
    (held : before.pool.Holds (Uplink A) (Downlink B))
    (reacted : Client.Reacted before request after action sent)
    (notAgain : action.opens ≠ some sid) : Downloading sid after dispatched := by
  have drained : ∀ call : Client.DrainCall, after.pool = (call.run before.pool).pool →
      after.conns = before.conns → Downloading sid after dispatched := by
    intro call pool conns
    have same := untouched_drain_all before.pool call.batchSize call.workerId call.now
    rw [← Client.DrainCall.run, ← pool] at same
    exact downloading_same downloading ((same.get sid).trans downloading.found) conns (same.rx 0)
  cases reacted with
  | opened other target now pool conns =>
      refine downloading_open downloading ?_ pool conns
      rintro rfl
      exact notAgain rfl
  | wrote index data conn conn' found written pool conns =>
      exact downloading_write downloading found written pool conns
  | acted index act conn conn' effect found acted pool conns =>
      exact downloading_act downloading held found acted pool conns
  | idle action call called unsent pool conns => exact drained call pool conns
  | posted action call called returned encodes pool conns => exact drained call pool conns
  | still action pool conns =>
      exact downloading_same downloading (pool ▸ downloading.found) conns (pool ▸ rfl)

/-- An answer adds its chunks of the session. -/
theorem Downloading.answered {index : Nat} {answer : Answer} {sent : Nat} {rttMs now : ℚ}
    (downloading : Downloading sid before dispatched) (succeeded : answer.isFailure = false)
    (taken : before.answered index answer sent rttMs now = some after) :
    Downloading sid after (dispatched ++ chunkFrames sid answer.brought) := by
  obtain ⟨conns, found, queue, _⟩ := answered_session downloading.found succeeded taken
  refine ⟨found, ?_, ?_⟩
  · obtain ⟨conn, slot, zero, part, whole⟩ := downloading.conn
    rw [conns, queue, payloads_append]
    refine ⟨conn, slot, zero, part.trans (List.prefix_append _ _), fun opened => ?_⟩
    rw [data_frames_append, payloads_append, ← List.append_assoc, whole opened]
    rfl
  · rw [conns]
    exact downloading.single

end Client

end Astrix
