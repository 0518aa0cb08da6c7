import Astrix.FrameGrammar

/-!
# Calls of `marshal`

`marshal` with and without a caller's buffer, over the buffers it reuses. The
bytes of the frame go into `view`, a slice of the `bytearray` and so a copy of
it, and the result is cut from the buffer, which only ever got zeros.
-/

namespace Astrix

open PyRuntime

set_option autoImplicit false

/-- The buffers a call can reach: the shared pool, and the callers' own by name. -/
structure MarshalState where
  pool : List Bytes
  buffers : Nat → Bytes

structure MarshalCall where
  frame : Frame
  buffer : Option Nat

/-- The buffer a call starts with, emptied when it is a caller's. -/
def takeBuffer (state : MarshalState) (buffer : Option Nat) (size : Nat) :
    Bytes × MarshalState :=
  match buffer with
  | none =>
      let (buf, pool) := getMarshalBuf state.pool size
      (buf, { state with pool := pool })
  | some name => ([], { state with buffers := Function.update state.buffers name [] })

/-- A caller sees what has been appended to the buffer. -/
def keepBuffer (state : MarshalState) (buffer : Option Nat) (buf : Bytes) : MarshalState :=
  match buffer with
  | none => state
  | some name => { state with buffers := Function.update state.buffers name buf }

def returnBuffer (state : MarshalState) (buffer : Option Nat) : MarshalState :=
  match buffer with
  | none => { state with pool := putMarshalBuf state.pool }
  | some _ => state

/-- The writes of `marshal`, all of them to `view`. -/
def writeView (view : Bytes) (frame : Frame) (targetBytes : Bytes) : Except PyError Bytes := do
  let tlen := targetBytes.length
  let plen := frame.payload.length
  let view := assignSlice view 0 SessionIDLen frame.sessionId
  let off := SessionIDLen
  let view ← packInto 8 view off frame.seq
  let off := off + 8
  let view ← assignByte view off (frame.flags &&& 0xFF)
  let off := off + 1
  let view ← assignByte view off tlen
  let off := off + 1
  let view := if tlen ≠ 0 then assignSlice view off (off + tlen) targetBytes else view
  let off := off + tlen
  let view ← packInto 4 view off plen
  let off := off + 4
  return if plen ≠ 0 then assignSlice view off (off + plen) frame.payload else view

/-- One call with what it leaves behind; a call that raises after it took its
buffer does not give it back. -/
def marshalCall (state : MarshalState) (call : MarshalCall) :
    Except PyError Bytes × MarshalState :=
  match encodeUtf8 call.frame.target with
  | .error error => (.error error, state)
  | .ok targetBytes =>
      let tlen := targetBytes.length
      let plen := call.frame.payload.length
      if tlen > maxTargetLen then
        (.error (.valueError s!"target too long: {tlen} > {maxTargetLen}"), state)
      else if plen > maxPayloadSize then
        (.error (.valueError s!"payload too large: {plen}"), state)
      else
        let size := SessionIDLen + 8 + 1 + 1 + tlen + 4 + plen
        let (buf, state) := takeBuffer state call.buffer size
        let offset := buf.length
        let buf := buf ++ List.replicate size 0
        let state := keepBuffer state call.buffer buf
        let view := buf.drop offset
        match writeView view call.frame targetBytes with
        | .error error => (.error error, state)
        | .ok _ => (.ok (slice buf offset (offset + size)), returnBuffer state call.buffer)

/-- What the calls of a sequence return, each on the buffers the others left. -/
def marshalCalls : MarshalState → List MarshalCall → List (Except PyError Bytes)
  | _, [] => []
  | state, call :: rest =>
      (marshalCall state call).1 :: marshalCalls (marshalCall state call).2 rest

/-- `marshal` writes this frame: whatever the buffers hold, the result is the
encoding `marshal_batch` writes, `unmarshal` reads it back, and other calls
before and after make no difference. -/
def MarshalsFrame (frame : Frame) : Prop :=
  (∀ state buffer, ∃ result encoding size,
    (marshalCall state ⟨frame, buffer⟩).1 = .ok result ∧
      marshalBatch [frame] = .ok encoding ∧ result = encoding.drop 4 ∧
      frame.encodedLen = .ok size ∧ unmarshal result = .ok (frame, size)) ∧
  ∀ state alone buffer before after,
    (marshalCalls state (before ++ ⟨frame, buffer⟩ :: after))[before.length]? =
      some (marshalCall alone ⟨frame, buffer⟩).1

/-- `Frame()`, every field at its default. -/
def defaultFrame : Frame where
  sessionId := List.replicate SessionIDLen 0
  seq := 0
  flags := 0
  target := []
  payload := []

section Result

/-- The room behind the start of the buffer is `size` zeros, whatever it held. -/
theorem fresh_room (buf : Bytes) (size : Nat) :
    (buf ++ List.replicate size (0 : UInt8)).drop buf.length = List.replicate size 0 ∧
      slice (buf ++ List.replicate size 0) buf.length (buf.length + size) =
        List.replicate size 0 := by
  constructor
  · exact List.drop_left
  · rw [slice, ← List.take_drop, List.drop_left, List.take_replicate, Nat.min_self]

/-- What a call returns is decided by its frame. -/
def marshalResult (frame : Frame) : Except PyError Bytes :=
  match encodeUtf8 frame.target with
  | .error error => .error error
  | .ok targetBytes =>
      let tlen := targetBytes.length
      let plen := frame.payload.length
      if tlen > maxTargetLen then
        .error (.valueError s!"target too long: {tlen} > {maxTargetLen}")
      else if plen > maxPayloadSize then .error (.valueError s!"payload too large: {plen}")
      else
        let size := SessionIDLen + 8 + 1 + 1 + tlen + 4 + plen
        (writeView (List.replicate size 0) frame targetBytes).map fun _ => List.replicate size 0

theorem marshal_call_result (state : MarshalState) (call : MarshalCall) :
    (marshalCall state call).1 = marshalResult call.frame := by
  unfold marshalCall marshalResult
  cases encodeUtf8 call.frame.target with
  | error error => rfl
  | ok targetBytes =>
      dsimp only
      split_ifs
      · rfl
      · rfl
      · rw [(fresh_room _ _).1, (fresh_room _ _).2]
        cases writeView _ call.frame targetBytes <;> rfl

theorem marshal_calls_result (state : MarshalState) (calls : List MarshalCall) :
    marshalCalls state calls = calls.map fun call => marshalResult call.frame := by
  induction calls generalizing state with
  | nil => rfl
  | cons call rest ih => rw [marshalCalls, marshal_call_result, ih, List.map_cons]

theorem map_bind_congr {α β γ δ : Type} {first : Except PyError α} {left : α → Except PyError β}
    {right : α → Except PyError γ} {fromLeft : β → δ} {fromRight : γ → δ}
    (same : ∀ value, (left value).map fromLeft = (right value).map fromRight) :
    (first >>= left).map fromLeft = (first >>= right).map fromRight := by
  cases first with
  | error error => rfl
  | ok value => exact same value

/-- A call on a pooled buffer returns what `marshal` returns. -/
theorem marshal_pooled (pool : List Bytes) (buffers : Nat → Bytes) (frame : Frame) :
    (marshalCall ⟨pool, buffers⟩ ⟨frame, none⟩).1 = (marshal pool frame).map Prod.fst := by
  rw [marshal_call_result, marshalResult, marshal]
  cases encodeUtf8 frame.target with
  | error error => rfl
  | ok targetBytes =>
      rw [bind_ok rfl]
      dsimp only
      by_cases long : targetBytes.length > maxTargetLen
      · rw [if_pos long, raiseIf, if_pos long]
        rfl
      by_cases large : frame.payload.length > maxPayloadSize
      · rw [if_neg long, if_pos large, bind_ok (raise_if_not long), raiseIf, if_pos large]
        rfl
      rw [if_neg long, if_neg large, bind_ok (raise_if_not long), bind_ok (raise_if_not large),
        (fresh_room _ _).1, (fresh_room _ _).2, writeView]
      refine map_bind_congr fun _ => map_bind_congr fun _ => map_bind_congr fun _ => ?_
      exact map_bind_congr fun _ => rfl

end Result

theorem default_frame_limits : WithinLimits defaultFrame := by
  refine ⟨rfl, by decide, by decide, by decide, by decide, by decide, by decide⟩

section WithinLimits

variable {frame : Frame}

/-- The writes of `marshal` are those of `marshal_into`, and then the payload. -/
theorem write_view_eq (target : encodeUtf8 frame.target = .ok frame.targetBytes) (view : Bytes) :
    writeView view frame frame.targetBytes = (do
      let (view, off) ← marshalInto view 0 frame
      return if frame.payload.length ≠ 0 then
        assignSlice view off (off + frame.payload.length) frame.payload else view) := by
  simp only [writeView, marshalInto, target, bind_ok rfl, bind_assoc, pure_bind, Nat.zero_add,
    Nat.sub_zero]

/-- Within the limits a call succeeds, with nothing but zeros. -/
theorem marshal_result_zeros (limits : WithinLimits frame) :
    marshalResult frame = .ok (List.replicate (encodedSize frame) 0) := by
  have size := encoded_size_eq limits.target
  have headerLength := frame_header_length frame limits.idLength
  have sum : SessionIDLen + 8 + 1 + 1 + frame.targetBytes.length + 4 + frame.payload.length =
      encodedSize frame := by omega
  have written := @marshal_into_at_cursor [] (List.replicate (encodedSize frame) 0) frame 0 rfl
    limits.idLength limits.marshallable (by rw [List.length_replicate]; omega)
  rw [List.nil_append] at written
  rw [marshalResult, limits.target]
  dsimp only
  rw [if_neg (Nat.not_lt.mpr limits.targetLength), if_neg (Nat.not_lt.mpr limits.payloadLength),
    sum, write_view_eq limits.target, bind_ok written]
  rfl

/-- Only the default frame is all zeros on the wire. -/
theorem zeros_default_frame (limits : WithinLimits frame)
    (zeros : frameHeader frame ++ frame.payload = List.replicate (encodedSize frame) 0) :
    frame = defaultFrame := by
  have size := encoded_size_eq limits.target
  have split : List.replicate (encodedSize frame) (0 : UInt8) =
      frameHeader defaultFrame ++ defaultFrame.payload ++
        List.replicate (encodedSize frame - 30) 0 := by
    have front : frameHeader defaultFrame ++ defaultFrame.payload = List.replicate 30 0 := by
      decide
    rw [front, List.replicate_append_replicate]
    congr 1
    simp only [SessionIDLen] at size
    omega
  have own := unmarshal_at_front limits []
  rw [List.append_nil, zeros, split, unmarshal_at_front default_frame_limits] at own
  exact (Prod.mk.inj (Except.ok.inj own)).1.symm

/-- Within the limits, `marshal` writes the frame exactly when every field has
its default; any other frame comes out as zeros all the same. -/
theorem marshal_writes_frame_iff (frame : Frame) (limits : WithinLimits frame) :
    MarshalsFrame frame ↔ frame = defaultFrame := by
  constructor
  · rintro ⟨writes, -⟩
    obtain ⟨result, encoding, size, returned, batch, same, -, -⟩ := writes ⟨[], fun _ => []⟩ none
    rw [marshal_call_result, marshal_result_zeros limits] at returned
    rw [marshal_batch_singleton limits] at batch
    cases returned
    cases batch
    rw [List.drop_left' (big_endian_length 4 _)] at same
    exact zeros_default_frame limits same.symm
  · rintro rfl
    constructor
    · intro state buffer
      have zeros : frameHeader defaultFrame ++ defaultFrame.payload =
          List.replicate (encodedSize defaultFrame) 0 := by decide
      have read := unmarshal_at_front limits []
      rw [List.append_nil, zeros] at read
      refine ⟨_, _, _, (marshal_call_result state _).trans (marshal_result_zeros limits),
        marshal_batch_singleton limits, ?_, encoded_len_ok limits.target, read⟩
      rw [List.drop_left' (big_endian_length 4 _), zeros]
    · intro state alone buffer before after
      rw [marshal_calls_result, marshal_call_result, List.map_append, List.map_cons,
        List.getElem?_append_right (by simp)]
      simp

theorem marshal_writes_default : WithinLimits defaultFrame ∧ MarshalsFrame defaultFrame :=
  ⟨default_frame_limits, (marshal_writes_frame_iff defaultFrame default_frame_limits).mpr rfl⟩

/-- The opening frame of a connection to `a:1`. -/
def synToA : Frame where
  sessionId := List.replicate SessionIDLen 7
  seq := 0
  flags := FlagSYN
  target := [97, 58, 49]
  payload := []

theorem marshal_loses_syn : ¬ ∀ frame, WithinLimits frame → MarshalsFrame frame := by
  intro writes
  have limits : WithinLimits synToA := by
    refine ⟨rfl, by decide, by decide, by decide, by decide, by decide, by decide⟩
  have zeros : (marshalCall ⟨[], fun _ => []⟩ ⟨synToA, none⟩).1 = .ok (List.replicate 33 0) := by
    decide
  have other : unmarshal (List.replicate 33 0) = .ok (defaultFrame, 30) := by decide
  obtain ⟨result, _, size, returned, _, _, _, read⟩ :=
    (writes synToA limits).1 ⟨[], fun _ => []⟩ none
  rw [zeros] at returned
  cases returned
  rw [other] at read
  cases read

end WithinLimits

end Astrix
