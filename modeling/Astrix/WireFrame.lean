import Astrix.Library.TextCodec

/-!
# Frames and their in-place marshalling

Both programs carry the same `frame.py`. `_marshal_size` counts the characters
of the target while `marshal_into` writes its UTF-8 bytes, so the two agree
only on ASCII targets; nothing here repairs that.
-/

namespace Astrix

open PyRuntime

set_option autoImplicit false

def SessionIDLen : Nat := 16
def ClientIDLen : Nat := 16
def maxTargetLen : Nat := 255
def maxPayloadSize : Nat := 10 * 1024 * 1024

def FlagSYN : Nat := 1
def FlagFIN : Nat := 2
def FlagACK : Nat := 4
def FlagRST : Nat := 8

structure Frame where
  sessionId : Bytes
  seq : Int
  flags : Nat
  target : Text
  payload : Bytes
  deriving DecidableEq, Repr

/-- `f.flags & flag` as a truth value. -/
def Frame.hasFlag (frame : Frame) (flag : Nat) : Bool := frame.flags &&& flag != 0

def Frame.encodedLen (frame : Frame) : Except PyError Nat := do
  let targetBytes ← encodeUtf8 frame.target
  return SessionIDLen + 8 + 1 + 1 + targetBytes.length + 4 + frame.payload.length

/-- The encoded length of a frame whose target encodes. -/
def encodedSize (f : Frame) : Nat := f.encodedLen.toOption.getD 0

/-- The size used to allocate a batch: target length in characters. -/
def marshalSize (frame : Frame) : Nat :=
  SessionIDLen + 8 + 1 + 1 + frame.target.length + 4 + frame.payload.length

/-- Writes everything but the payload at `offset`; returns the buffer and the
number of bytes written. -/
def marshalInto (buf : Bytes) (offset : Nat) (frame : Frame) :
    Except PyError (Bytes × Nat) := do
  let targetBytes ← encodeUtf8 frame.target
  let tlen := targetBytes.length
  let plen := frame.payload.length
  let buf := assignSlice buf offset (offset + SessionIDLen) frame.sessionId
  let off := offset + SessionIDLen
  let buf ← packInto 8 buf off frame.seq
  let off := off + 8
  let buf ← assignByte buf off (frame.flags &&& 0xFF)
  let off := off + 1
  let buf ← assignByte buf off tlen
  let off := off + 1
  let buf := if tlen ≠ 0 then assignSlice buf off (off + tlen) targetBytes else buf
  let off := off + tlen
  let buf ← packInto 4 buf off plen
  let off := off + 4
  return (buf, off - offset)

/-- `_get_marshal_buf`: a pooled buffer is emptied before use, a new one comes
filled with zeros. -/
def getMarshalBuf (pool : List Bytes) (capacity : Nat) : Bytes × List Bytes :=
  match pool.getLast? with
  | some buf => (if capacity ≤ buf.length then [] else List.replicate capacity 0, pool.dropLast)
  | none => (List.replicate capacity 0, [])

def putMarshalBuf (pool : List Bytes) : List Bytes :=
  if pool.length < 64 then pool ++ [[]] else pool

/-- `marshal` without a caller's buffer. The header and payload are written to
`view`, a slice and therefore a copy of the buffer; the result is read from the
buffer itself. -/
def marshal (pool : List Bytes) (frame : Frame) : Except PyError (Bytes × List Bytes) := do
  let targetBytes ← encodeUtf8 frame.target
  let tlen := targetBytes.length
  let plen := frame.payload.length
  raiseIf (tlen > maxTargetLen) (.valueError s!"target too long: {tlen} > {maxTargetLen}")
  raiseIf (plen > maxPayloadSize) (.valueError s!"payload too large: {plen}")
  let size := SessionIDLen + 8 + 1 + 1 + tlen + 4 + plen
  let (buf, pool) := getMarshalBuf pool size
  let offset := buf.length
  let buf := buf ++ List.replicate size 0
  let view := buf.drop offset
  let view := assignSlice view 0 SessionIDLen frame.sessionId
  let off := SessionIDLen
  let view ← packInto 8 view off frame.seq
  let off := off + 8
  let view ← assignByte view off (frame.flags &&& 0xFF)
  let off := off + 1
  let view ← assignByte view off tlen
  let off := off + 1
  let view := if tlen ≠ 0 then assignSlice view off (off + tlen) targetBytes else view
  let off := off + tlen
  let _view ← packInto 4 view off plen
  return (slice buf offset (offset + size), putMarshalBuf pool)

/-- The target as the writer emits it; meaningful when the target encodes. -/
def Frame.targetBytes (frame : Frame) : Bytes := (encodeUtf8 frame.target).toOption.getD []

/-- The header bytes of a frame, as they stand on the wire. -/
def frameHeader (frame : Frame) : Bytes :=
  frame.sessionId ++ bigEndian 8 frame.seq.toNat ++ [UInt8.ofNat (frame.flags &&& 0xFF)] ++
    [UInt8.ofNat frame.targetBytes.length] ++ frame.targetBytes ++
      bigEndian 4 frame.payload.length

theorem frame_header_length (frame : Frame)
    (idLength : frame.sessionId.length = SessionIDLen) :
    (frameHeader frame).length = SessionIDLen + 14 + frame.targetBytes.length := by
  simp only [frameHeader, List.length_append, big_endian_length, List.length_cons,
    List.length_nil, idLength]
  omega

/-- The ranges every field must have for `marshal_into` to write it. -/
structure Marshallable (frame : Frame) : Prop where
  target : encodeUtf8 frame.target = .ok frame.targetBytes
  targetLength : frame.targetBytes.length < 256
  seqLower : 0 ≤ frame.seq
  seqUpper : frame.seq < 256 ^ 8
  payloadLength : frame.payload.length < 256 ^ 4

theorem target_bytes_of_ok {frame : Frame} {data : Bytes}
    (encoded : encodeUtf8 frame.target = .ok data) : frame.targetBytes = data := by
  simp [Frame.targetBytes, encoded, Except.toOption]

theorem encoded_size_eq {frame : Frame}
    (target : encodeUtf8 frame.target = .ok frame.targetBytes) :
    encodedSize frame = SessionIDLen + 14 + frame.targetBytes.length + frame.payload.length := by
  rw [encodedSize, Frame.encodedLen, bind_ok target]
  simp +arith [pure, Except.pure, Except.toOption]

theorem encoded_len_ok {frame : Frame}
    (target : encodeUtf8 frame.target = .ok frame.targetBytes) :
    frame.encodedLen = .ok (encodedSize frame) := by
  rw [encodedSize, Frame.encodedLen, bind_ok target]
  rfl

theorem Marshallable.characters_le {frame : Frame} (fits : Marshallable frame) :
    frame.target.length ≤ frame.targetBytes.length :=
  encode_utf8_length frame.target frame.targetBytes fits.target

theorem flags_masked_lt (frame : Frame) : frame.flags &&& 0xFF < 256 :=
  Nat.lt_of_le_of_lt Nat.and_le_right (by decide)

theorem assign_target {written rest targetBytes : Bytes} {offset : Nat}
    (position : offset = written.length) :
    (if targetBytes.length ≠ 0 then
      assignSlice (written ++ rest) offset (offset + targetBytes.length) targetBytes
      else written ++ rest) = written ++ targetBytes ++ rest.drop targetBytes.length := by
  split_ifs with nonempty
  · exact assign_slice_at_cursor position
  · have empty : targetBytes = [] := List.length_eq_zero_iff.mp (by omega)
    simp [empty]

theorem assign_session_id {written rest : Bytes} {frame : Frame}
    (idLength : frame.sessionId.length = SessionIDLen) :
    assignSlice (written ++ rest) written.length (written.length + SessionIDLen)
        frame.sessionId = written ++ frame.sessionId ++ rest.drop SessionIDLen := by
  rw [← idLength]
  exact assign_slice_at_cursor rfl

/-- With the write position at the split of the buffer, a successful
`marshal_into` overwrites exactly one header's worth of what followed, and
what followed was long enough for it. -/
theorem marshal_into_at_cursor_ok {written rest : Bytes} {frame : Frame} {offset : Nat}
    {result : Bytes} {count : Nat}
    (done : marshalInto (written ++ rest) offset frame = .ok (result, count))
    (position : offset = written.length)
    (idLength : frame.sessionId.length = SessionIDLen) :
    Marshallable frame ∧ (frameHeader frame).length ≤ rest.length ∧
      count = (frameHeader frame).length ∧
      result = written ++ frameHeader frame ++ rest.drop (frameHeader frame).length := by
  subst position
  obtain ⟨targetBytes, target, done⟩ := (bind_ok_iff _ _ _).mp done
  obtain rfl := target_bytes_of_ok target
  simp only [assign_session_id idLength] at done
  obtain ⟨_, packed, done⟩ := (bind_ok_iff _ _ _).mp done
  obtain ⟨seqLower, seqUpper, _, rfl⟩ := pack_into_at_cursor_ok packed (by simp +arith [idLength])
  obtain ⟨_, flagged, done⟩ := (bind_ok_iff _ _ _).mp done
  obtain ⟨_, _, rfl⟩ := assign_byte_at_cursor_ok flagged (by simp +arith [idLength])
  obtain ⟨_, sized, done⟩ := (bind_ok_iff _ _ _).mp done
  obtain ⟨_, targetLength, rfl⟩ := assign_byte_at_cursor_ok sized (by simp +arith [idLength])
  rw [assign_target (by simp +arith [idLength])] at done
  obtain ⟨_, closed, done⟩ := (bind_ok_iff _ _ _).mp done
  obtain ⟨_, payloadUpper, payloadRoom, rfl⟩ :=
    pack_into_at_cursor_ok closed (by simp +arith [idLength])
  simp only [pure, Except.pure, Except.ok.injEq, Prod.mk.injEq] at done
  obtain ⟨rfl, rfl⟩ := done
  have headerLength := frame_header_length frame idLength
  refine ⟨⟨target, targetLength, seqLower, seqUpper, by omega⟩, ?_, ?_, ?_⟩
  · simp only [List.drop_drop, List.length_drop] at payloadRoom
    omega
  · omega
  · rw [headerLength]
    simp only [frameHeader, List.append_assoc, List.drop_drop, Int.toNat_natCast,
      List.append_cancel_left_eq]
    exact congrArg (fun start => rest.drop start) (by omega)

/-- Within the field ranges and with room for the header, `marshal_into`
succeeds. -/
theorem marshal_into_at_cursor {written rest : Bytes} {frame : Frame} {offset : Nat}
    (position : offset = written.length)
    (idLength : frame.sessionId.length = SessionIDLen) (fits : Marshallable frame)
    (room : (frameHeader frame).length ≤ rest.length) :
    marshalInto (written ++ rest) offset frame =
      .ok (written ++ frameHeader frame ++ rest.drop (frameHeader frame).length,
        (frameHeader frame).length) := by
  subst position
  have headerLength := frame_header_length frame idLength
  rw [headerLength] at room ⊢
  rw [marshalInto, bind_ok fits.target]
  simp only [assign_session_id idLength]
  rw [bind_ok (pack_into_at_cursor (by simp +arith [idLength]) fits.seqLower fits.seqUpper
      (by simp only [List.length_drop]; omega)),
    bind_ok (assign_byte_at_cursor (by simp +arith [idLength])
      (by simp only [List.length_drop]; omega) (flags_masked_lt frame)),
    bind_ok (assign_byte_at_cursor (by simp +arith [idLength])
      (by simp only [List.length_drop]; omega) fits.targetLength),
    assign_target (by simp +arith [idLength]),
    bind_ok (pack_into_at_cursor (by simp +arith [idLength]) (by omega)
      (by have bound := fits.payloadLength; omega) (by simp only [List.length_drop]; omega))]
  simp only [pure, Except.pure, Except.ok.injEq, Prod.mk.injEq, frameHeader,
    List.append_assoc, List.drop_drop, Int.toNat_natCast, List.append_cancel_left_eq]
  constructor
  · exact congrArg (fun start => rest.drop start) (by omega)
  · omega

end Astrix
