import Astrix.OneWorker
import Astrix.QueueSteps

/-!
# Sequence numbers

A connection numbers its chunks from `session.seq`, which starts at 0, and its
SYN and its FIN are number 0 too. The server counts the SYN: it expects 1 next.
`read_upstream` numbers its chunks from 0, and the FIN after them is number 0.
The runs below keep the frames of every connection and of every worker in the
order in which they were enqueued.
-/

namespace Astrix

open PyRuntime SessionPool

set_option autoImplicit false

/-- Strictly increasing numbers in queue order. -/
def SeqIncreasing (frames : List Frame) : Prop := frames.Pairwise fun f g => f.seq < g.seq

instance (frames : List Frame) : Decidable (SeqIncreasing frames) :=
  inferInstanceAs (Decidable (frames.Pairwise fun f g => f.seq < g.seq))

/-- Wherever the server dispatches the SYN, its counter then has the number of
the frame after it. -/
def CountsAlike : List Frame → Prop
  | syn :: next :: _ => ∀ locked now state, ∃ s,
      (dispatchFrame locked now state syn).pool.get syn.sessionId = some s ∧
        ((dispatchFrame locked now state syn).pool.objects s).seq = next.seq
  | _ => True

section Frames

theorem seq_increasing_append {frames : List Frame} {f : Frame} :
    SeqIncreasing (frames ++ [f]) ↔ SeqIncreasing frames ∧ ∀ g ∈ frames, g.seq < f.seq := by
  simp [SeqIncreasing, List.pairwise_append]

/-- The server counts the SYN as the first frame of its stream. -/
theorem server_counts_syn (locked : Bool) (now : ℚ) (state : Dispatch) {syn : Frame}
    (flag : syn.hasFlag FlagSYN = true) :
    ∃ s, (dispatchFrame locked now state syn).pool.get syn.sessionId = some s ∧
      ((dispatchFrame locked now state syn).pool.objects s).seq = syn.seq + 1 := by
  have pool : (dispatchFrame locked now state syn).pool =
      (state.pool.getOrCreate syn.sessionId syn.flags syn.target now).1.setSeq
        (state.pool.getOrCreate syn.sessionId syn.flags syn.target now).2 (syn.seq + 1) := by
    rw [dispatchFrame, if_pos flag]
    split_ifs <;> rfl
  refine ⟨(state.pool.getOrCreate syn.sessionId syn.flags syn.target now).2, ?_, ?_⟩
  · rw [pool]
    exact get_or_create_get _ _ _ _ _
  · rw [pool, set_seq_objects, if_pos rfl]
    rfl

theorem counts_alike_iff {syn next : Frame} {rest : List Frame}
    (flag : syn.hasFlag FlagSYN = true) :
    CountsAlike (syn :: next :: rest) ↔ next.seq = syn.seq + 1 := by
  constructor
  · intro alike
    obtain ⟨s, found, counter⟩ := alike false 0 ⟨SessionPool.new, [], []⟩
    obtain ⟨s', found', counter'⟩ := server_counts_syn false 0 ⟨SessionPool.new, [], []⟩ flag
    cases found.symm.trans found'
    exact counter.symm.trans counter'
  · intro same locked now state
    rw [same]
    exact server_counts_syn locked now state flag

end Frames

section Client

structure CountedClient where
  state : RunningClient
  sent : Nat → List Frame

/-- The frame that an action makes a connection enqueue. -/
def Client.emits (client : Client) : ClientAction → Option (Nat × Frame)
  | .openConn sid target _ => some (client.conns.length, synFrame sid target)
  | .conn index act =>
      match client.conns[index]? with
      | some conn =>
          match conn.act (client.pool.objects conn.session) act with
          | some (_, effect) => effect.put index
          | none => none
      | none => none
  | _ => none

def ClientEvent.emits (client : Client) : ClientEvent → Option (Nat × Frame)
  | .act action => client.emits action
  | .answered _ _ _ _ _ => none

namespace CountedClient

def start (clientId : Bytes) (endpoints : Nat) : CountedClient where
  state := RunningClient.start clientId endpoints
  sent := fun _ => []

def step (log : CountedClient) (event : ClientEvent) : Option CountedClient :=
  (log.state.step event).map fun later =>
    { state := later
      sent := fun index =>
        log.sent index ++ valuesAt index (event.emits log.state.client).toList }

/-- Every connection numbers its frames in order, as the server counts them. -/
def InOrder (log : CountedClient) : Prop :=
  ∀ index, SeqIncreasing (log.sent index) ∧ CountsAlike (log.sent index)

end CountedClient

def countedClient : StepMachine CountedClient ClientEvent := ⟨CountedClient.step⟩

/-- The act enqueues a chunk or a FIN. -/
def ConnAct.sends : ConnAct → Bool
  | .drainChunk _ | .finishClose _ => true
  | _ => false

/-- No connection sends a chunk or a FIN. -/
def ClientEvent.SynOnly : ClientEvent → Prop
  | .act (.conn _ move) => move.sends = false
  | _ => True

/-- No connection has numbered a frame yet. -/
def Unnumbered (pool : SessionPool) : Prop := ∀ r, (pool.objects r).seq = 0

/-- The invariant of such runs: a connection has sent its SYN and nothing else. -/
structure OnlySyns (log : CountedClient) : Prop where
  pool : Unnumbered log.state.client.pool
  conns : ∀ index < log.state.client.conns.length, ∃ sid target,
    log.sent index = [synFrame sid target]
  beyond : ∀ index, log.state.client.conns.length ≤ index → log.sent index = []

theorem OnlySyns.in_order {log : CountedClient} (only : OnlySyns log) : log.InOrder := by
  intro index
  by_cases bound : index < log.state.client.conns.length
  · obtain ⟨sid, target, sent⟩ := only.conns index bound
    rw [sent]
    exact ⟨List.pairwise_singleton _ _, trivial⟩
  · rw [only.beyond index (Nat.le_of_not_lt bound)]
    exact ⟨List.Pairwise.nil, trivial⟩

theorem unnumbered_modify {pool : SessionPool} (zero : Unnumbered pool) {ref : Nat}
    {change : Session → Session} {sameId : ∀ s, (change s).sessionId = s.sessionId}
    (kept : ∀ s, (change s).seq = s.seq) : Unnumbered (pool.modify ref change sameId) := by
  intro r
  rw [modify_objects]
  split_ifs
  · rw [kept, zero ref]
  · exact zero r

theorem unnumbered_open {pool : SessionPool} (zero : Unnumbered pool) (sid : Bytes)
    (target : Text) (now : ℚ) : Unnumbered (VirtualConn.openSession pool sid target now).1 := by
  have made : Unnumbered (pool.getOrCreate sid FlagSYN target now).1 := by
    rcases get_or_create_cases pool sid FlagSYN target now with ⟨ref, _, same⟩ | ⟨missing, new⟩
    · rw [same]
      exact zero
    · rw [new]
      intro r
      rw [insert_objects]
      split_ifs
      · rfl
      · exact zero r
  have queued : Unnumbered ((pool.getOrCreate sid FlagSYN target now).1.enqueueTx
      (pool.getOrCreate sid FlagSYN target now).2 (synFrame sid target) now) :=
    unnumbered_modify made fun _ => rfl
  exact queued

theorem unnumbered_drain_all {pool : SessionPool} (zero : Unnumbered pool)
    (batchSize workerId : Nat) (now : ℚ) :
    Unnumbered (drainAll pool batchSize workerId now).pool :=
  drain_all_preserves (P := Unnumbered) (fun _ _ _ kept => unnumbered_modify kept fun _ => rfl)
    (fun _ _ _ _ kept => unnumbered_modify kept fun _ => rfl) batchSize workerId now zero

theorem unnumbered_answered {before after : Client} {index : Nat} {answer : Answer} {sent : Nat}
    {rttMs now : ℚ} (zero : Unnumbered before.pool)
    (taken : before.answered index answer sent rttMs now = some after) :
    Unnumbered after.pool ∧ after.conns = before.conns := by
  obtain ⟨w, request, frames, ep, _, _, rfl⟩ := Client.answered_cases taken
  refine ⟨?_, rfl⟩
  rcases Client.take_answer_pool before.pool (ep.recordPost sent rttMs) frames now answer with
    ⟨respFrames, _, _, same⟩ | ⟨_, same | same⟩
  · dsimp only
    rw [same]
    apply List.foldlRecOn (motive := Unnumbered) _ _ zero
    intro start kept f _
    unfold dispatchResponseFrame
    cases start.get f.sessionId with
    | none => exact kept
    | some ref => exact unnumbered_modify kept fun _ => rfl
  · dsimp only
    rw [same]
    exact zero
  · dsimp only
    rw [same]
    exact List.foldlRecOn (motive := Unnumbered) _ _ zero fun _ kept _ _ => kept

theorem unnumbered_effect {pool : SessionPool} (zero : Unnumbered pool) (session : Nat)
    {effect : ConnEffect} (silent : effect.frames = []) :
    Unnumbered (effect.apply pool session) := by
  cases effect with
  | nothing => exact zero
  | sendData frame nextSeq now => cases silent
  | sendFin frame now => cases silent
  | clearRxEvent =>
      have cleared : Unnumbered (pool.clearRxEvent session) := unnumbered_modify zero fun _ => rfl
      exact cleared
  | popRx =>
      have popped : Unnumbered (pool.popRx session) := unnumbered_modify zero fun _ => rfl
      exact popped

/-- What sends a frame at all sends one that is number 0, as the SYN was. -/
theorem act_sends {s : Session} {conn conn' : VirtualConn} {act : ConnAct} {effect : ConnEffect}
    (acted : conn.act s act = some (conn', effect)) (zero : s.seq = 0) :
    act.sends = false ∧ effect.frames = [] ∨
      act.sends = true ∧ ∃ f, effect.frames = [f] ∧ f.seq = 0 := by
  cases VirtualConn.act_cases acted with
  | drainChunk now data rest => exact .inr ⟨rfl, _, rfl, zero⟩
  | finishClose now => exact .inr ⟨rfl, _, rfl, rfl⟩
  | wakeClosed | wake | transportLost => exact .inl ⟨rfl, rfl⟩
  | pop _ _ draining popped =>
      cases VirtualConn.pop_cases popped with
      | stopped | emptied | ended | wrote | skipped => exact .inl ⟨rfl, rfl⟩

/-- Nothing was enqueued, and no connection came. -/
theorem OnlySyns.quiet {log : CountedClient} (only : OnlySyns log) {later : RunningClient}
    {event : ClientEvent} (silent : event.emits log.state.client = none)
    (pool : Unnumbered later.client.pool)
    (conns : later.client.conns.length = log.state.client.conns.length) :
    OnlySyns { state := later
               sent := fun index =>
                 log.sent index ++ valuesAt index (event.emits log.state.client).toList } := by
  rw [silent]
  have same : ∀ index, log.sent index ++ valuesAt index (none : Option (Nat × Frame)).toList =
      log.sent index := fun index => List.append_nil _
  simp only [same]
  refine ⟨pool, ?_, ?_⟩
  · rw [conns]
    exact only.conns
  · rw [conns]
    exact only.beyond

theorem OnlySyns.opened {log : CountedClient} (only : OnlySyns log) {later : RunningClient}
    {sid : Bytes} {target : Text} {now : ℚ}
    (pool : later.client.pool =
      (VirtualConn.openSession log.state.client.pool sid target now).1)
    (conns : later.client.conns.length = log.state.client.conns.length + 1) :
    OnlySyns { state := later
               sent := fun index => log.sent index ++
                 valuesAt index [(log.state.client.conns.length, synFrame sid target)] } := by
  have other : ∀ index, index ≠ log.state.client.conns.length →
      valuesAt index [(log.state.client.conns.length, synFrame sid target)] = [] := by
    intro index differs
    simp [valuesAt, Ne.symm differs]
  refine ⟨?_, ?_, ?_⟩
  · rw [pool]
    exact unnumbered_open only.pool sid target now
  · intro index bound
    rw [conns] at bound
    dsimp only
    rcases Nat.lt_succ_iff_lt_or_eq.mp bound with old | rfl
    · rw [other index (Nat.ne_of_lt old), List.append_nil]
      exact only.conns index old
    · rw [only.beyond _ (Nat.le_refl _)]
      exact ⟨sid, target, by simp [valuesAt]⟩
  · intro index bound
    rw [conns] at bound
    dsimp only
    rw [other index (by omega), List.append_nil]
    exact only.beyond index (by omega)

theorem react_open {before after : Client} {request : Nat} {sid : Bytes} {target : Text} {now : ℚ}
    {sent : Option Post}
    (reacted : before.react request (.openConn sid target now) = some (after, sent)) :
    after.pool = (VirtualConn.openSession before.pool sid target now).1 ∧
      after.conns.length = before.conns.length + 1 := by
  cases reacted
  exact ⟨rfl, List.length_append⟩

theorem react_conn {before after : Client} {request index : Nat} {act : ConnAct}
    {sent : Option Post} (reacted : before.react request (.conn index act) = some (after, sent)) :
    ∃ conn conn' effect, before.conns[index]? = some conn ∧
      conn.act (before.pool.objects conn.session) act = some (conn', effect) ∧
      before.emits (.conn index act) = effect.put index ∧
      after.pool = effect.apply before.pool conn.session ∧
      after.conns.length = before.conns.length := by
  cases Client.react_cases reacted with
  | conn _ _ conn conn' effect found acted =>
      refine ⟨conn, conn', effect, found, acted, ?_, rfl, List.length_set⟩
      rw [Client.emits, found]
      dsimp only
      rw [acted]

/-- An action that is not of a connection. -/
theorem reacted_unnumbered {before after : Client} {request : Nat} {action : ClientAction}
    {sent : Option Post} (zero : Unnumbered before.pool)
    (reacted : Client.Reacted before request after action sent)
    (other : before.emits action = none) (notConn : ∀ index act, action ≠ .conn index act) :
    Unnumbered after.pool ∧ after.conns.length = before.conns.length := by
  cases reacted with
  | opened sid target now pool conns => cases other
  | acted index act conn conn' effect found acted pool conns => exact absurd rfl (notConn _ _)
  | wrote index data conn conn' found written pool conns =>
      rw [pool, conns]
      exact ⟨zero, List.length_set⟩
  | idle action call called unsent pool conns
  | posted action call called returned encodes pool conns =>
      rw [pool, conns]
      exact ⟨unnumbered_drain_all zero _ _ _, rfl⟩
  | still action pool conns =>
      rw [pool, conns]
      exact ⟨zero, rfl⟩

/-- One step keeps the order exactly when it sends no chunk and no FIN. -/
theorem only_syns_step {log later : CountedClient} (only : OnlySyns log) {event : ClientEvent}
    (stepped : log.step event = some later) :
    event.SynOnly ∧ OnlySyns later ∨ ¬ event.SynOnly ∧ ¬ later.InOrder := by
  obtain ⟨next, taken, rfl⟩ := Option.map_eq_some_iff.mp stepped
  rcases client_step_cases taken with ⟨action, sent, rfl, reacted⟩ |
    ⟨index, answer, sent, rttMs, now, rfl, answered⟩
  · cases action with
    | openConn sid target now =>
        obtain ⟨pool, conns⟩ := react_open reacted
        exact .inl ⟨trivial, only.opened pool conns⟩
    | conn index act =>
        obtain ⟨conn, conn', effect, found, acted, emits, pool, conns⟩ := react_conn reacted
        rcases act_sends acted (only.pool _) with ⟨quiet, silent⟩ | ⟨sends, f, frames, number⟩
        · refine .inl ⟨quiet, only.quiet ?_ ?_ conns⟩
          · rw [ClientEvent.emits, emits, ConnEffect.put, silent]
            rfl
          · rw [pool]
            exact unnumbered_effect only.pool conn.session silent
        · refine .inr ⟨fun quiet => ?_, fun ordered => ?_⟩
          · rw [ClientEvent.SynOnly, sends] at quiet
            cases quiet
          · obtain ⟨bound, _⟩ := List.getElem?_eq_some_iff.mp found
            obtain ⟨sid, target, syn⟩ := only.conns index bound
            have numbered := (ordered index).1
            dsimp only at numbered
            have one : valuesAt index (some (index, f)).toList = [f] := by simp [valuesAt]
            rw [syn, ClientEvent.emits, emits, ConnEffect.put, frames, List.head?_cons,
              Option.map_some, one] at numbered
            have less := (seq_increasing_append.mp numbered).2 _ (List.mem_singleton_self _)
            rw [number] at less
            exact absurd less (Int.lt_irrefl 0)
    | write index data | work index now | heard index activity now | cooled index
    | health index event | stop =>
        obtain ⟨pool, conns⟩ := reacted_unnumbered only.pool (Client.react_reacted reacted) rfl
          (by simp)
        exact .inl ⟨trivial, only.quiet rfl pool conns⟩
  · obtain ⟨pool, conns⟩ := unnumbered_answered only.pool answered
    exact .inl ⟨trivial, only.quiet rfl pool (congrArg List.length conns)⟩

theorem only_syns_run {clientId : Bytes} {endpoints : Nat} {history : List ClientEvent}
    {log : CountedClient}
    (run : countedClient.Run (fun _ event => event.SynOnly)
      (CountedClient.start clientId endpoints) history log) : OnlySyns log := by
  refine run.invariant ⟨fun _ => rfl, by simp [CountedClient.start, RunningClient.start,
    Client.start], fun _ _ => rfl⟩ fun state event later only quiet stepped => ?_
  rcases only_syns_step only stepped with ⟨_, still⟩ | ⟨sends, _⟩
  · exact still
  · exact absurd quiet sends

end Client

section Server

structure CountedServer where
  server : ExitServer
  sent : Nat → List Frame

/-- The frame that an action makes an upstream worker enqueue. -/
def ExitServer.emits (server : ExitServer) : ServerAction → Option (Nat × Frame)
  | .worker index act =>
      match server.workers[index]? with
      | some w =>
          match w.act (server.pool.objects w.session) act with
          | some (_, effect) => effect.put index
          | none => none
      | none => none
  | _ => none

namespace CountedServer

def start : CountedServer where
  server := ExitServer.new
  sent := fun _ => []

def step (log : CountedServer) (action : ServerAction) : Option CountedServer :=
  (log.server.react action).map fun (later, _) =>
    { server := later
      sent := fun index => log.sent index ++ valuesAt index (log.server.emits action).toList }

/-- Every worker numbers its frames in order. -/
def InOrder (log : CountedServer) : Prop := ∀ index, SeqIncreasing (log.sent index)

/-- A reader ends before it has numbered a chunk. -/
def EndsUnnumbered (log : CountedServer) : ServerAction → Prop
  | .worker index (.readEnded _) => ∀ w ∈ log.server.workers[index]?, w.seq = 0
  | _ => True

instance (log : CountedServer) (action : ServerAction) : Decidable (log.EndsUnnumbered action) :=
  match action with
  | .worker index (.readEnded _) =>
      inferInstanceAs (Decidable (∀ w ∈ log.server.workers[index]?, w.seq = 0))
  | .worker _ .begin | .worker _ .dialed | .worker _ (.dialFailed _ _) | .worker _ .dialRaised
  | .worker _ (.read _ _) | .worker _ .wake | .worker _ .pop | .worker _ .writeFailed
  | .worker _ .writerCancelled | .worker _ .finish | .post _ _ _ _ _ _
  | .resume _ _ _ => isTrue trivial

end CountedServer

def countedServer : StepMachine CountedServer ServerAction := ⟨CountedServer.step⟩

/-- The worker has not come to its FIN or RST. -/
def UpstreamWorker.Sending (w : UpstreamWorker) : Prop :=
  w.stage = .starting ∨ w.stage = .dialing ∨ w.stage = .connected ∧ w.reading = true

/-- Until its FIN or RST a worker has sent chunks with numbers from 0 on. -/
structure SeqNumbered (w : UpstreamWorker) (sent : List Frame) : Prop where
  increasing : SeqIncreasing sent
  chunks : w.Sending → ∃ n : Nat, w.seq = n ∧ sent.map Frame.seq = (List.range n).map Nat.cast
  early : w.stage = .starting ∨ w.stage = .dialing → sent = []

variable {s : Session} {w w' : UpstreamWorker} {sent : List Frame}

theorem seqs_of_range {n : Nat} (numbers : sent.map Frame.seq = (List.range n).map Nat.cast)
    {f : Frame} (member : f ∈ sent) : 0 ≤ f.seq ∧ f.seq < n := by
  have listed : f.seq ∈ (List.range n).map Nat.cast := by
    rw [← numbers]
    exact List.mem_map_of_mem member
  obtain ⟨k, bound, same⟩ := List.mem_map.mp listed
  have less := List.mem_range.mp bound
  omega

/-- The worker enqueues nothing. -/
theorem numbered_silent (numbered : SeqNumbered w sent)
    (sending : w'.Sending → w.Sending ∧ w'.seq = w.seq)
    (early : w'.stage = .starting ∨ w'.stage = .dialing →
      w.stage = .starting ∨ w.stage = .dialing) :
    SeqNumbered w' sent where
  increasing := numbered.increasing
  chunks still := by
    obtain ⟨was, same⟩ := sending still
    rw [same]
    exact numbered.chunks was
  early stage := numbered.early (early stage)

theorem numbered_read (numbered : SeqNumbered w sent) (sending : w.Sending)
    (connected : w'.stage = .connected) (next : w'.seq = w.seq + 1) {f : Frame}
    (number : f.seq = w.seq) : SeqNumbered w' (sent ++ [f]) := by
  obtain ⟨n, seq, numbers⟩ := numbered.chunks sending
  refine ⟨seq_increasing_append.mpr ⟨numbered.increasing, fun g member => ?_⟩,
    fun _ => ⟨n + 1, ?_, ?_⟩, ?_⟩
  · rw [number, seq]
    exact (seqs_of_range numbers member).2
  · rw [next, seq]
    rfl
  · rw [List.map_append, numbers, List.range_succ, List.map_append]
    simp [number, seq]
  · rw [connected]
    simp

/-- What an act of the worker at `index` enqueues. -/
inductive Emitted (index : Nat) (w w' : UpstreamWorker) (act : WorkerAct) :
    Option (Nat × Frame) → Prop where
  | silent (sending : w'.Sending → w.Sending ∧ w'.seq = w.seq)
      (early : w'.stage = .starting ∨ w'.stage = .dialing →
        w.stage = .starting ∨ w.stage = .dialing)
      (reads : ∀ now, act ≠ .readEnded now) : Emitted index w w' act none
  | reset (f : Frame) (dialing : w.stage = .dialing) (ended : w'.stage = .ended)
      (reads : ∀ now, act ≠ .readEnded now) : Emitted index w w' act (some (index, f))
  | chunk (f : Frame) (sending : w.Sending) (connected : w'.stage = .connected)
      (next : w'.seq = w.seq + 1) (number : f.seq = w.seq)
      (reads : ∀ now, act ≠ .readEnded now) : Emitted index w w' act (some (index, f))
  | fin (f : Frame) (sending : w.Sending) (connected : w'.stage = .connected)
      (closed : w'.reading = false) (number : f.seq = 0)
      (ended : ∃ now, act = .readEnded now) : Emitted index w w' act (some (index, f))

theorem act_emitted {act : WorkerAct} {effect : UpstreamEffect} (index : Nat)
    (acted : w.act s act = some (w', effect)) : Emitted index w w' act (effect.put index) := by
  cases UpstreamWorker.act_cases acted with
  | noTarget | unencodable | dialRaised | finish =>
      exact .silent (by simp [UpstreamWorker.Sending]) (by simp) (by simp)
  | begun starting =>
      exact .silent (fun _ => ⟨.inl starting, rfl⟩) (fun _ => .inl starting) (by simp)
  | dialed dialing =>
      exact .silent (fun _ => ⟨.inr (.inl dialing), rfl⟩) (by simp) (by simp)
  | dialFailed message now payload dialing => exact .reset _ dialing rfl (by simp)
  | read data now connected reading =>
      exact .chunk _ (.inr (.inr ⟨connected, reading⟩)) connected rfl rfl (by simp)
  | readEnded now connected reading =>
      exact .fin _ (.inr (.inr ⟨connected, reading⟩)) connected rfl rfl ⟨now, rfl⟩
  | wake | writeFailed | writerCancelled =>
      exact .silent (fun still => ⟨still, rfl⟩) id (by simp)
  | pop _ _ connected draining popped =>
      cases UpstreamWorker.pop_cases popped with
      | emptied | closed | wrote | skipped =>
          exact .silent (fun still => ⟨still, rfl⟩) id (by simp)

/-- An act keeps the numbers in order unless it is the end of a reader that has
sent a chunk. -/
theorem numbered_emitted (numbered : SeqNumbered w sent) {index : Nat} {act : WorkerAct}
    {put : Option (Nat × Frame)} (emitted : Emitted index w w' act put) :
    ((∀ now, act = .readEnded now → w.seq = 0) ∧
        SeqNumbered w' (sent ++ valuesAt index put.toList)) ∨
      (∃ now, act = .readEnded now) ∧ w.seq ≠ 0 ∧
        ¬ SeqIncreasing (sent ++ valuesAt index put.toList) := by
  have one : ∀ f : Frame, valuesAt index (some (index, f)).toList = [f] :=
    fun f => by simp [valuesAt]
  cases emitted with
  | silent sending early reads =>
      have same : sent ++ valuesAt index (none : Option (Nat × Frame)).toList = sent :=
        List.append_nil sent
      rw [same]
      exact .inl ⟨fun now ended => absurd ended (reads now), numbered_silent numbered sending early⟩
  | reset f dialing ended reads =>
      rw [one, numbered.early (.inr dialing)]
      refine .inl ⟨fun now ended => absurd ended (reads now), ⟨List.pairwise_singleton _ _, ?_, ?_⟩⟩
      · simp [UpstreamWorker.Sending, ended]
      · simp [ended]
  | chunk f sending connected next number reads =>
      rw [one]
      exact .inl ⟨fun now ended => absurd ended (reads now),
        numbered_read numbered sending connected next number⟩
  | fin f sending connected closed number ended =>
      rw [one]
      obtain ⟨n, seq, numbers⟩ := numbered.chunks sending
      cases n with
      | zero =>
          have none : sent = [] := List.map_eq_nil_iff.mp numbers
          rw [none]
          refine .inl ⟨fun _ _ => seq, List.pairwise_singleton _ _, ?_, ?_⟩
          · simp [UpstreamWorker.Sending, connected, closed]
          · simp [connected]
      | succ n =>
          refine .inr ⟨ended, by omega, fun increasing => ?_⟩
          have first : (0 : Int) ∈ sent.map Frame.seq := by
            rw [numbers]
            exact List.mem_map.mpr ⟨0, List.mem_range.mpr (Nat.succ_pos n), rfl⟩
          obtain ⟨g, member, zero⟩ := List.mem_map.mp first
          have less := (seq_increasing_append.mp increasing).2 g member
          omega

/-- The invariant of the runs of a server. -/
structure WorkersNumbered (log : CountedServer) : Prop where
  each : ∀ index, ∀ w ∈ log.server.workers[index]?, SeqNumbered w (log.sent index)
  beyond : ∀ index, log.server.workers.length ≤ index → log.sent index = []

theorem WorkersNumbered.in_order {log : CountedServer} (numbered : WorkersNumbered log) :
    log.InOrder := by
  intro index
  cases found : log.server.workers[index]? with
  | some w => exact (numbered.each index w found).increasing
  | none =>
      rw [numbered.beyond index (List.getElem?_eq_none_iff.mp found)]
      exact List.Pairwise.nil

theorem numbered_spawned (session : Nat) : SeqNumbered (spawnWorker session) [] where
  increasing := List.Pairwise.nil
  chunks _ := ⟨0, rfl, rfl⟩
  early _ := rfl

/-- Requests only bring new workers, which have sent nothing. -/
theorem WorkersNumbered.grow {log : CountedServer} (numbered : WorkersNumbered log)
    {later : ExitServer} {spawned : List Nat}
    (workers : later.workers = log.server.workers ++ spawned.map spawnWorker) :
    WorkersNumbered { server := later, sent := log.sent } := by
  constructor
  · intro index w found
    dsimp only at found ⊢
    rw [workers] at found
    rcases Nat.lt_or_ge index log.server.workers.length with old | new
    · rw [List.getElem?_append_left old] at found
      exact numbered.each index w found
    · rw [List.getElem?_append_right new] at found
      obtain ⟨session, _, rfl⟩ := List.mem_map.mp (List.mem_of_getElem? found)
      rw [numbered.beyond index new]
      exact numbered_spawned session
  · intro index bound
    refine numbered.beyond index (le_trans ?_ bound)
    rw [workers, List.length_append]
    exact Nat.le_add_right _ _

theorem workers_numbered_step {log later : CountedServer} (numbered : WorkersNumbered log)
    {action : ServerAction} (stepped : log.step action = some later) :
    log.EndsUnnumbered action ∧ WorkersNumbered later ∨
      ¬ log.EndsUnnumbered action ∧ ¬ later.InOrder := by
  obtain ⟨⟨server, reply⟩, reacted, rfl⟩ := Option.map_eq_some_iff.mp stepped
  have same : ∀ index, log.sent index ++ valuesAt index (none : Option (Nat × Frame)).toList =
      log.sent index := fun index => List.append_nil _
  cases ExitServer.react_moved reacted with
  | posted request clientId frames now atCheck afterScan pool workers =>
      simp only [ExitServer.emits, same]
      exact .inl ⟨trivial, numbered.grow workers⟩
  | resumed index atCheck afterScan request poll found pool workers =>
      simp only [ExitServer.emits, same]
      have grown : server.workers = log.server.workers ++ ([] : List Nat).map spawnWorker := by
        rw [workers]
        exact (List.append_nil _).symm
      exact .inl ⟨trivial, numbered.grow grown⟩
  | acted index act w w' effect found acted pool workers =>
      have emits : log.server.emits (.worker index act) = effect.put index := by
        rw [ExitServer.emits, found]
        dsimp only
        rw [acted]
      obtain ⟨bound, _⟩ := List.getElem?_eq_some_iff.mp found
      have elsewhere : ∀ other, other ≠ index →
          log.sent other ++ valuesAt other (effect.put index).toList = log.sent other := by
        intro other differs
        cases effect <;> simp [UpstreamEffect.put, valuesAt, Ne.symm differs]
      rw [emits]
      rcases numbered_emitted (numbered.each index w found) (act_emitted index acted) with
        ⟨unread, still⟩ | ⟨⟨now, rfl⟩, read, broken⟩
      · refine .inl ⟨?_, ?_, ?_⟩
        · cases act with
          | readEnded now =>
              intro u same
              cases found.symm.trans same
              exact unread now rfl
          | _ => trivial
        · intro other u present
          dsimp only at present ⊢
          rw [workers, List.getElem?_set] at present
          by_cases here : other = index
          · subst here
            rw [if_pos rfl, if_pos bound] at present
            cases present
            exact still
          · rw [if_neg (Ne.symm here)] at present
            rw [elsewhere other here]
            exact numbered.each other u present
        · intro other outside
          dsimp only at outside ⊢
          rw [workers, List.length_set] at outside
          rw [elsewhere other (by omega)]
          exact numbered.beyond other outside
      · exact .inr ⟨fun unread => read (unread w found), fun ordered => broken (ordered index)⟩

theorem workers_numbered_run {history : List ServerAction} {log : CountedServer}
    (run : countedServer.Run CountedServer.EndsUnnumbered CountedServer.start history log) :
    WorkersNumbered log := by
  have start : WorkersNumbered CountedServer.start := by
    refine ⟨fun index w found => ?_, fun _ _ => rfl⟩
    cases found
  apply run.invariant start
  intro state action later numbered unread stepped
  rcases workers_numbered_step numbered stepped with ⟨_, still⟩ | ⟨read, _⟩
  · exact still
  · exact absurd unread read

end Server

/-- As long as connections send nothing after the SYN and readers end before
their first chunk, all streams are numbered in order; the first other frame
breaks the order. -/
theorem streams_numbered_iff {clientId : Bytes} {endpoints : Nat}
    {clientHistory : List ClientEvent} {client : CountedClient}
    (clientRun : countedClient.Run (fun _ event => event.SynOnly)
      (CountedClient.start clientId endpoints) clientHistory client)
    {serverHistory : List ServerAction} {server : CountedServer}
    (serverRun : countedServer.Run CountedServer.EndsUnnumbered CountedServer.start
      serverHistory server) :
    (client.InOrder ∧ ∀ event later, client.step event = some later →
      (later.InOrder ↔ event.SynOnly)) ∧
    server.InOrder ∧ ∀ action later, server.step action = some later →
      (later.InOrder ↔ server.EndsUnnumbered action) := by
  have only := only_syns_run clientRun
  have numbered := workers_numbered_run serverRun
  refine ⟨⟨only.in_order, fun event later stepped => ?_⟩, numbered.in_order,
    fun action later stepped => ?_⟩
  · rcases only_syns_step only stepped with ⟨quiet, still⟩ | ⟨sends, broken⟩
    · exact iff_of_true still.in_order quiet
    · exact iff_of_false broken sends
  · rcases workers_numbered_step numbered stepped with ⟨unread, still⟩ | ⟨read, broken⟩
    · exact iff_of_true still.in_order unread
    · exact iff_of_false broken read

section Runs

def openSyn : ClientEvent := .act (.openConn resentSyn.sessionId resentSyn.target 0)

/-- A connection to an upstream that sends `chunks` and ends. -/
def servedChunks (chunks : List Bytes) : List ServerAction :=
  [synPosted 0, .worker 0 .begin, .worker 0 .dialed] ++
    chunks.map (fun chunk => .worker 0 (.read chunk 1)) ++ [.worker 0 (.readEnded 2)]

theorem empty_streams_in_order : ∃ (client : CountedClient) (server : CountedServer),
    client.sent 0 = [synFrame resentSyn.sessionId resentSyn.target] ∧
      server.sent 0 = [upstreamFinFrame resentSyn.sessionId] ∧
      client.InOrder ∧ server.InOrder := by
  obtain ⟨client, stepped, syn⟩ : ∃ log, (CountedClient.start zeroId 1).step openSyn = some log ∧
      log.sent 0 = [synFrame resentSyn.sessionId resentSyn.target] := ⟨_, rfl, rfl⟩
  have clientRun : countedClient.Run (fun _ event => event.SynOnly)
      (CountedClient.start zeroId 1) [openSyn] client := .single trivial stepped
  have passed : ((countedServer.exec CountedServer.EndsUnnumbered CountedServer.start
      (servedChunks [])).any fun log =>
        decide (log.sent 0 = [upstreamFinFrame resentSyn.sessionId])) = true := by
    decide +kernel
  obtain ⟨server, serverRun, fin⟩ := StepMachine.run_of_exec_any _ passed
  have ordered := streams_numbered_iff clientRun serverRun
  exact ⟨client, server, syn, of_decide_eq_true fin, ordered.1.1, ordered.2.1⟩

/-- The first chunk has the number of the SYN, where the server waits for 1; the
FIN has the number of the first chunk. -/
theorem first_chunk_repeats_number :
    (∃ history log, countedClient.Run StepMachine.anyStep (CountedClient.start zeroId 1)
      history log ∧ ¬ SeqIncreasing (log.sent 0) ∧ ¬ CountsAlike (log.sent 0)) ∧
    ∃ history log, countedServer.Run StepMachine.anyStep CountedServer.start history log ∧
      ¬ SeqIncreasing (log.sent 0) := by
  constructor
  · have passed : ((countedClient.exec StepMachine.anyStep (CountedClient.start zeroId 1)
        [openSyn, .act (.write 0 [7]), .act (.conn 0 (.drainChunk 0))]).any fun log =>
          decide (log.sent 0 = [synFrame resentSyn.sessionId resentSyn.target,
            dataFrame resentSyn.sessionId 0 [7]])) = true := by
      decide +kernel
    obtain ⟨log, run, sent⟩ := StepMachine.run_of_exec_any _ passed
    refine ⟨_, log, run, ?_, ?_⟩
    · rw [of_decide_eq_true sent]
      decide
    · rw [of_decide_eq_true sent, counts_alike_iff (by decide)]
      decide
  · have passed : ((countedServer.exec StepMachine.anyStep CountedServer.start
        (servedChunks [[7]])).any fun log =>
          decide (log.sent 0 = [upstreamDataFrame resentSyn.sessionId 0 [7],
            upstreamFinFrame resentSyn.sessionId])) = true := by
      decide +kernel
    obtain ⟨log, run, sent⟩ := StepMachine.run_of_exec_any _ passed
    refine ⟨_, log, run, ?_⟩
    rw [of_decide_eq_true sent]
    decide

end Runs

end Astrix
