import Astrix.ReceiveLoops

/-!
# Closing a connection with chunks to send

`write` leaves a chunk in `_tx_queue`, and the task of `_tx_drain_loop` turns it
into a data frame; `close` puts the FIN on the session itself, behind whatever
that task has sent by then. The task runs from one suspension to the next with
no other coroutine in between. A task that is created looks at `_closed` before
it takes its first chunk; one that waits in `get` takes one more.
-/

namespace Astrix

open PyRuntime SessionPool

set_option autoImplicit false

inductive TxTask where
  | created
  | running
  | getting
  | ended
  deriving DecidableEq, Repr

/-- `finishing` is the one call of `close` that awaits the read task; later
calls return at once. `accepted` are the chunks whose `write` returned before
the first call, `put` the frames put on the session, and `left` the chunks in
`_tx_queue` when the FIN was put. -/
structure ClosingConn where
  pool : SessionPool
  session : Nat
  closed : Bool
  finishing : Bool
  task : TxTask
  txQueue : List Bytes
  accepted : List Bytes
  put : List Frame
  left : Option (List Bytes)

inductive CloseEvent where
  | write (data : Bytes)
  | started
  | got (now : ℚ)
  | round (now : ℚ)
  | close
  | finish (now : ℚ)
  deriving DecidableEq

namespace ClosingConn

/-- A connection just opened. -/
def opened (pool : SessionPool) (sid : Bytes) (target : Text) (now : ℚ) : ClosingConn where
  pool := (VirtualConn.openSession pool sid target now).1
  session := (VirtualConn.openSession pool sid target now).2.session
  closed := false
  finishing := false
  task := .created
  txQueue := []
  accepted := []
  put := [synFrame sid target]
  left := none

def sessionId (conn : ClosingConn) : Bytes := (conn.pool.objects conn.session).sessionId

/-- The body of `_tx_drain_loop` behind `get`. -/
def sendChunk (conn : ClosingConn) (data : Bytes) (rest : List Bytes) (now : ℚ) : ClosingConn :=
  let seq := (conn.pool.objects conn.session).seq
  let frame := dataFrame conn.sessionId seq data
  { conn with
    pool := (ConnEffect.sendData frame (seq + 1) now).apply conn.pool conn.session
    task := .running
    txQueue := rest
    put := conn.put ++ [frame] }

/-- The end of `close`, behind the await of the read task. -/
def finishClose (conn : ClosingConn) (now : ℚ) : ClosingConn :=
  let fin := finFrame conn.sessionId
  { conn with
    pool := (ConnEffect.sendFin fin now).apply conn.pool conn.session
    finishing := false
    put := conn.put ++ [fin]
    left := some conn.txQueue }

/-- Nobody else runs while the drain task does. -/
def step (conn : ClosingConn) : CloseEvent → Option ClosingConn
  | .write data =>
      if conn.task = .running then none
      else if conn.closed then some conn
      else some { conn with
        txQueue := conn.txQueue ++ [data]
        accepted := conn.accepted ++ [data] }
  | .started => if conn.task = .created then some { conn with task := .running } else none
  | .got now =>
      match conn.task, conn.txQueue with
      | .getting, data :: rest => some (conn.sendChunk data rest now)
      | _, _ => none
  | .round now =>
      if conn.task = .running then
        if conn.closed then some { conn with task := .ended }
        else
          match conn.txQueue with
          | [] => some { conn with task := .getting }
          | data :: rest => some (conn.sendChunk data rest now)
      else none
  | .close =>
      if conn.task = .running then none
      else if conn.closed then some conn
      else some { conn with closed := true, finishing := true }
  | .finish now =>
      if conn.task ≠ .running ∧ conn.finishing then some (conn.finishClose now) else none

/-- `close` has completed and no task can run any further. -/
def Settled (conn : ClosingConn) : Prop :=
  conn.left.isSome ∧ (conn.task = .ended ∨ conn.task = .getting ∧ conn.txQueue = [])

/-- One SYN, data frames for all that was written before, one FIN and nothing
behind it. -/
def Flushed (sid : Bytes) (target : Text) (conn : ClosingConn) : Prop :=
  ∃ data, conn.put = synFrame sid target :: data ++ [finFrame sid] ∧
    (∀ f ∈ data, f.flags = 0) ∧ data.map Frame.payload = conn.accepted

end ClosingConn

def closeMachine : StepMachine ClosingConn CloseEvent := ⟨ClosingConn.step⟩

/-- Everything an event can do, with what its branch has checked. -/
inductive ClosingConn.Steps (conn : ClosingConn) : CloseEvent → ClosingConn → Prop where
  | ignored (event : CloseEvent) (closed : conn.closed = true) : Steps conn event conn
  | wrote (data : Bytes) (opened : conn.closed = false) :
      Steps conn (.write data) { conn with
        txQueue := conn.txQueue ++ [data]
        accepted := conn.accepted ++ [data] }
  | task (event : CloseEvent) (task : TxTask) : Steps conn event { conn with task := task }
  | sent (event : CloseEvent) (data : Bytes) (rest : List Bytes) (now : ℚ)
      (head : conn.txQueue = data :: rest) : Steps conn event (conn.sendChunk data rest now)
  | closed (opened : conn.closed = false) :
      Steps conn .close { conn with closed := true, finishing := true }
  | finished (now : ℚ) (pending : conn.finishing = true) :
      Steps conn (.finish now) (conn.finishClose now)

theorem ClosingConn.step_cases {conn later : ClosingConn} {event : CloseEvent}
    (stepped : conn.step event = some later) : conn.Steps event later := by
  cases event with
  | write data =>
      simp only [step] at stepped
      split_ifs at stepped with running closed
      · cases stepped
        exact .ignored _ closed
      · cases stepped
        exact .wrote data (Bool.eq_false_iff.mpr closed)
  | started =>
      simp only [step] at stepped
      split_ifs at stepped
      cases stepped
      exact .task _ .running
  | got now =>
      simp only [step] at stepped
      split at stepped
      · next data rest _ head =>
          cases stepped
          exact .sent _ data rest now head
      · cases stepped
  | round now =>
      simp only [step] at stepped
      split_ifs at stepped
      · cases stepped
        exact .task _ .ended
      · split at stepped
        · cases stepped
          exact .task _ .getting
        · next data rest head =>
            cases stepped
            exact .sent _ data rest now head
  | close =>
      simp only [step] at stepped
      split_ifs at stepped with running closed
      · cases stepped
        exact .ignored _ closed
      · cases stepped
        exact .closed (Bool.eq_false_iff.mpr closed)
  | finish now =>
      simp only [step] at stepped
      split_ifs at stepped with ready
      cases stepped
      exact .finished now ready.2

/-- What a connection has put, before and after its FIN: the chunks accepted are
those sent before the FIN and those left waiting then, and what is put behind
the FIN are the first of those. -/
inductive ClosingConn.Sent (sid : Bytes) (target : Text) (conn : ClosingConn) : Prop where
  | before (left : conn.left = none) (pending : conn.finishing = true → conn.closed = true)
      (data : List Frame) (put : conn.put = synFrame sid target :: data)
      (plain : ∀ f ∈ data, f.flags = 0)
      (chunks : data.map Frame.payload ++ conn.txQueue = conn.accepted)
  | after (waiting : List Bytes) (left : conn.left = some waiting) (closed : conn.closed = true)
      (done : conn.finishing = false) (data late : List Frame)
      (put : conn.put = synFrame sid target :: data ++ finFrame sid :: late)
      (plain : ∀ f ∈ data, f.flags = 0)
      (chunks : data.map Frame.payload ++ waiting = conn.accepted)
      (rest : late.map Frame.payload ++ conn.txQueue = waiting)

section Sent

variable {sid : Bytes} {target : Text} {conn later : ClosingConn}

theorem sent_chunk (sent : conn.Sent sid target) (data : Bytes)
    (rest : List Bytes) (now : ℚ) (head : conn.txQueue = data :: rest) :
    (conn.sendChunk data rest now).Sent sid target := by
  let frame := dataFrame conn.sessionId (conn.pool.objects conn.session).seq data
  cases sent with
  | before left pending frames put plain chunks =>
      refine .before left pending (frames ++ [frame]) ?_ ?_ ?_
      · simp [ClosingConn.sendChunk, put, frame]
      · intro f member
        rcases List.mem_append.mp member with old | new
        · exact plain f old
        · rw [List.mem_singleton.mp new]
          rfl
      · rw [head] at chunks
        simpa [ClosingConn.sendChunk, frame, dataFrame] using chunks
  | after waiting left closed done frames late put plain chunks remaining =>
      refine .after waiting left closed done frames (late ++ [frame]) ?_ plain chunks ?_
      · simp [ClosingConn.sendChunk, put, frame]
      · rw [head] at remaining
        simpa [ClosingConn.sendChunk, frame, dataFrame] using remaining

theorem step_sent {event : CloseEvent} (id : conn.sessionId = sid) (sent : conn.Sent sid target)
    (stepped : conn.step event = some later) : later.Sent sid target := by
  cases ClosingConn.step_cases stepped with
  | ignored => exact sent
  | wrote data opened =>
      cases sent with
      | before left pending frames put plain chunks =>
          refine .before left pending frames put plain ?_
          rw [← List.append_assoc, chunks]
      | after _ _ closed => cases opened.symm.trans closed
  | task _ task =>
      cases sent with
      | before left pending frames put plain chunks =>
          exact .before left pending frames put plain chunks
      | after waiting left closed done frames late put plain chunks rest =>
          exact .after waiting left closed done frames late put plain chunks rest
  | sent _ data rest now head => exact sent_chunk sent data rest now head
  | closed opened =>
      cases sent with
      | before left _ frames put plain chunks =>
          exact .before left (fun _ => rfl) frames put plain chunks
      | after _ _ closed => cases opened.symm.trans closed
  | finished now pending =>
      cases sent with
      | before left closed frames put plain chunks =>
          refine .after conn.txQueue rfl (closed pending) rfl frames [] ?_ plain chunks rfl
          simp [ClosingConn.finishClose, put, id]
      | after _ _ _ done => cases pending.symm.trans done

/-- No event changes the id of the session. -/
theorem step_session_id {event : CloseEvent} (stepped : conn.step event = some later) :
    later.sessionId = conn.sessionId := by
  cases ClosingConn.step_cases stepped with
  | ignored | wrote | task | closed => rfl
  | sent event data rest now =>
      have object := conn_effect_object conn.pool conn.session (.sendData (dataFrame conn.sessionId
        (conn.pool.objects conn.session).seq data) ((conn.pool.objects conn.session).seq + 1) now)
      have id := congrArg Session.sessionId object
      exact id
  | finished now =>
      have object := conn_effect_object conn.pool conn.session
        (.sendFin (finFrame conn.sessionId) now)
      have id := congrArg Session.sessionId object
      exact id

end Sent

theorem run_sent {pool : SessionPool} {sid : Bytes} {target : Text} {now : ℚ}
    {history : List CloseEvent} {conn : ClosingConn}
    (run : closeMachine.Run StepMachine.anyStep (.opened pool sid target now) history conn) :
    conn.Sent sid target := by
  have both : conn.sessionId = sid ∧ conn.Sent sid target := by
    apply run.invariant
    · constructor
      · have created := get_keyed (get_or_create_get pool sid FlagSYN target now)
        have queued := modify_session_id (pool.getOrCreate sid FlagSYN target now).1
          (pool.getOrCreate sid FlagSYN target now).2 (pool.getOrCreate sid FlagSYN target now).2
          (fun s => (s.enqueueTx (synFrame sid target) now).1) fun _ => rfl
        exact queued.trans created.2
      · refine .before rfl (fun pending => ?_) [] rfl ?_ rfl
        · cases pending
        · intro f member
          cases member
    · rintro before event later ⟨id, sent⟩ _ stepped
      exact ⟨(step_session_id stepped).trans id, step_sent id sent stepped⟩
  exact both.2

/-- A list splits in one way at its first frame that is not a data frame. -/
theorem first_closing_unique {first other late rest : List Frame} {fin : Frame}
    (plain : ∀ f ∈ first, f.flags = 0) (plainOther : ∀ f ∈ other, f.flags = 0)
    (closing : fin.flags ≠ 0) (same : first ++ fin :: late = other ++ fin :: rest) :
    first = other ∧ late = rest := by
  induction first generalizing other with
  | nil =>
      cases other with
      | nil => exact ⟨rfl, List.tail_eq_of_cons_eq same⟩
      | cons f other =>
          have head : fin = f := List.head_eq_of_cons_eq same
          exact absurd (plainOther f List.mem_cons_self) (head ▸ closing)
  | cons f first ih =>
      cases other with
      | nil =>
          have head : f = fin := List.head_eq_of_cons_eq same
          exact absurd (plain f List.mem_cons_self) (head ▸ closing)
      | cons g other =>
          obtain ⟨head, tail⟩ := List.cons.inj same
          obtain ⟨sameFirst, sameLate⟩ :=
            ih (fun x member => plain x (List.mem_cons_of_mem _ member))
              (fun x member => plainOther x (List.mem_cons_of_mem _ member)) tail
          exact ⟨by rw [head, sameFirst], sameLate⟩

/-- Once the FIN is put, all that was written is flushed exactly if no chunk was
waiting for the drain task at that moment. -/
theorem close_flushes_iff (pool : SessionPool) (sid : Bytes) (target : Text) (now : ℚ)
    (history : List CloseEvent) (conn : ClosingConn)
    (run : closeMachine.Run StepMachine.anyStep (.opened pool sid target now) history conn)
    (waiting : List Bytes) (finished : conn.left = some waiting) :
    conn.Flushed sid target ↔ waiting = [] := by
  cases run_sent run with
  | before left => cases left.symm.trans finished
  | after queued left closed done data late put plain chunks rest =>
      cases left.symm.trans finished
      constructor
      · rintro ⟨frames, whole, plainFrames, payloads⟩
        rw [put] at whole
        have closing : (finFrame sid).flags ≠ 0 := Nat.ne_of_beq_eq_false rfl
        obtain ⟨same, _⟩ := first_closing_unique plain plainFrames closing
          (List.tail_eq_of_cons_eq whole)
        rw [same, payloads] at chunks
        exact List.append_right_eq_self.mp chunks
      · intro empty
        rw [empty] at chunks rest
        have nothing : late = [] := List.map_eq_nil_iff.mp (List.append_eq_nil_iff.mp rest).1
        refine ⟨data, ?_, plain, ?_⟩
        · rw [put, nothing]
        · rw [← chunks, List.append_nil]

/-- A chunk that the drain task has taken before the connection closes. -/
theorem sent_chunk_flushed : ∃ conn : ClosingConn,
    conn.Settled ∧ conn.accepted = [[7]] ∧ conn.Flushed zeroId [97, 58, 49] := by
  have passed : ((closeMachine.exec StepMachine.anyStep
      (.opened SessionPool.new zeroId [97, 58, 49] 0) [.write [7], .started, .round 1,
        .round 1, .close, .close, .finish 2]).any fun conn =>
          decide (conn.task = .getting ∧ conn.txQueue = [] ∧ conn.accepted = [[7]] ∧
            conn.left = some [])) = true := by
    decide +kernel
  obtain ⟨conn, run, seen⟩ := StepMachine.run_of_exec_any _ passed
  obtain ⟨getting, empty, accepted, left⟩ := of_decide_eq_true seen
  refine ⟨conn, ⟨by rw [left]; rfl, .inr ⟨getting, empty⟩⟩, accepted, ?_⟩
  exact (close_flushes_iff _ _ _ _ _ conn run [] left).mpr rfl

/-- Two chunks are written while the drain task waits, and the connection closes
before it runs: it sends the first and ends. -/
theorem second_chunk_lost :
    ¬ ∀ (pool : SessionPool) (sid : Bytes) (target : Text) (now : ℚ) (history : List CloseEvent)
      (conn : ClosingConn),
      closeMachine.Run StepMachine.anyStep (.opened pool sid target now) history conn →
      conn.Settled → conn.Flushed sid target := by
  intro always
  have passed : ((closeMachine.exec StepMachine.anyStep
      (.opened SessionPool.new zeroId [97, 58, 49] 0) [.started, .round 1, .write [7],
        .write [8], .close, .got 2, .round 2, .finish 3]).any fun conn =>
          decide (conn.task = .ended ∧ conn.left = some [[8]] ∧ conn.put.length = 3 ∧
            conn.accepted.length = 2)) = true := by
    decide +kernel
  obtain ⟨conn, run, seen⟩ := StepMachine.run_of_exec_any _ passed
  obtain ⟨ended, left, three, two⟩ := of_decide_eq_true seen
  obtain ⟨data, put, _, chunks⟩ := always _ _ _ _ _ conn run ⟨by rw [left]; rfl, .inl ended⟩
  rw [put] at three
  rw [← chunks] at two
  simp only [List.cons_append, List.length_cons, List.length_append, List.length_nil] at three
  rw [List.length_map] at two
  omega

end Astrix
