import Astrix.BatchEnvelopeSoundness

/-!
# The plain batch codec

`marshal_batch` and `unmarshal` of `frame.py`, which no request uses: the
encoder and the decoder of `crypto.py` write and read the frames themselves.
`marshal_batch` sizes every frame from the encoded target; within the limits of
the format it writes each frame with the length of its real encoding in front.
-/

namespace Astrix

open PyRuntime

set_option autoImplicit false

/-- What the first loop of `marshal_batch` keeps of a frame. -/
def batchEntry (f : Frame) : Except PyError (Nat × Bytes × Bytes) := do
  let tb ← encodeUtf8 f.target
  let flen := SessionIDLen + 8 + 1 + 1 + tb.length + 4 + f.payload.length
  return (flen, tb, f.payload)

/-- One round of the second loop. -/
def placeEntry (state : Bytes × Nat) (item : (Nat × Bytes × Bytes) × Frame) :
    Except PyError (Bytes × Nat) := do
  let (buf, off) := state
  let ((flen, tb, _), f) := item
  let buf ← packInto 4 buf off flen
  let off := off + 4
  let buf := assignSlice buf off (off + SessionIDLen) f.sessionId
  let off := off + SessionIDLen
  let buf ← packInto 8 buf off f.seq
  let off := off + 8
  let buf ← assignByte buf off (f.flags &&& 0xFF)
  let off := off + 1
  let buf ← assignByte buf off tb.length
  let off := off + 1
  let buf := if tb.length ≠ 0 then assignSlice buf off (off + tb.length) tb else buf
  let off := off + tb.length
  let buf ← packInto 4 buf off f.payload.length
  let off := off + 4
  if f.payload ≠ [] then
    return (assignSlice buf off (off + f.payload.length) f.payload, off + f.payload.length)
  else return (buf, off)

def marshalBatch (frames : List Frame) : Except PyError Bytes := do
  let entries ← frames.mapM batchEntry
  let total := (entries.map fun entry => 4 + entry.1).sum
  let buf := List.replicate total 0
  let (buf, _) ← (entries.zip frames).foldlM placeEntry (buf, 0)
  return buf

/-- The target of a frame; an empty one is not decoded. -/
def unmarshalTarget (data : Bytes) (off tlen : Nat) : Except PyError Text :=
  if tlen ≠ 0 then decodeStrict (slice data off (off + tlen)) else .ok []

def unmarshal (data : Bytes) : Except PyError (Frame × Nat) := do
  raiseIf (data.length < SessionIDLen + 8 + 1 + 1 + 4) (.valueError "frame: short header")
  let off := 0
  let sid := slice data off (off + SessionIDLen)
  let off := off + SessionIDLen
  let seq ← unpackFrom 8 data off
  let off := off + 8
  let flags ← byteAt data off
  let off := off + 1
  let tlen ← byteAt data off
  let off := off + 1
  raiseIf (data.length < off + tlen + 4) (.valueError "frame: short target/len")
  let target ← unmarshalTarget data off tlen
  let off := off + tlen
  let plen ← unpackFrom 4 data off
  let off := off + 4
  raiseIf (plen > maxPayloadSize) (.valueError s!"frame: payload too large: {plen}")
  raiseIf (data.length < off + plen) (.valueError "frame: short payload")
  let payload := slice data off (off + plen)
  let off := off + plen
  return ({ sessionId := sid, seq := seq, flags := flags, target := target,
            payload := payload }, off)

/-- The limits of the wire format, as `marshal` checks or needs them. -/
structure WithinLimits (frame : Frame) : Prop where
  idLength : frame.sessionId.length = SessionIDLen
  seqLower : 0 ≤ frame.seq
  seqUpper : frame.seq < 2 ^ 64
  flags : frame.flags ≤ 0xFF
  target : encodeUtf8 frame.target = .ok frame.targetBytes
  targetLength : frame.targetBytes.length ≤ maxTargetLen
  payloadLength : frame.payload.length ≤ maxPayloadSize

theorem WithinLimits.marshallable {frame : Frame} (limits : WithinLimits frame) :
    Marshallable frame where
  target := limits.target
  targetLength := Nat.lt_succ_of_le limits.targetLength
  seqLower := limits.seqLower
  seqUpper := limits.seqUpper
  payloadLength := by
    have bound := limits.payloadLength
    simp only [maxPayloadSize] at bound
    omega

/-- A frame as `marshal_batch` writes it. -/
def plainWire (frame : Frame) : Bytes :=
  bigEndian 4 (encodedSize frame) ++ frameHeader frame ++ frame.payload

def plainWires (frames : List Frame) : Bytes := (frames.map plainWire).flatten

theorem plain_wire_length {frame : Frame} (limits : WithinLimits frame) :
    (plainWire frame).length = 4 + encodedSize frame := by
  simp only [plainWire, List.length_append, big_endian_length,
    frame_header_length frame limits.idLength, encoded_size_eq limits.target]
  omega

theorem encoded_size_bound {frame : Frame} (limits : WithinLimits frame) :
    encodedSize frame < 256 ^ 4 := by
  have targetBound := limits.targetLength
  have payloadBound := limits.payloadLength
  rw [encoded_size_eq limits.target]
  simp only [maxTargetLen, maxPayloadSize, SessionIDLen] at *
  omega

/-- The entry `marshal_batch` keeps for a frame within the limits. -/
def entryOf (frame : Frame) : Nat × Bytes × Bytes :=
  (encodedSize frame, frame.targetBytes, frame.payload)

theorem batch_entry_ok {frame : Frame} (limits : WithinLimits frame) :
    batchEntry frame = .ok (entryOf frame) := by
  rw [batchEntry, bind_ok limits.target, entryOf, encoded_size_eq limits.target]
  simp +arith [pure, Except.pure]

theorem batch_entries_ok {frames : List Frame} (limits : ∀ frame ∈ frames, WithinLimits frame) :
    frames.mapM batchEntry = .ok (frames.map entryOf) := by
  induction frames with
  | nil => rfl
  | cons frame rest ih =>
      have others := ih fun other member => limits other (List.mem_cons_of_mem _ member)
      rw [List.mapM_cons, bind_ok (batch_entry_ok (limits frame List.mem_cons_self)),
        bind_ok others]
      rfl

/-- A round writes the size and then, like the inline encoder, a header and
the payload. -/
theorem place_entry_eq {frame : Frame} (limits : WithinLimits frame) (buf : Bytes)
    (off : Nat) :
    placeEntry (buf, off) (entryOf frame, frame) = (do
      let buf ← packInto 4 buf off (encodedSize frame)
      let (buf, written) ← marshalInto buf (off + 4) frame
      let off := off + 4 + written
      if frame.payload ≠ [] then
        return (assignSlice buf off (off + frame.payload.length) frame.payload,
          off + frame.payload.length)
      else return (buf, off)) := by
  have shift : ∀ tlen, off + 4 + (off + 4 + SessionIDLen + 8 + 1 + 1 + tlen + 4 - (off + 4)) =
      off + 4 + SessionIDLen + 8 + 1 + 1 + tlen + 4 := by
    intro tlen
    omega
  simp only [placeEntry, entryOf, marshalInto, limits.target, bind_ok rfl, bind_assoc, pure_bind,
    shift]
  rfl

theorem place_entry_at_cursor {written rest : Bytes} {frame : Frame} {offset : Nat}
    (position : offset = written.length) (limits : WithinLimits frame)
    (room : (plainWire frame).length ≤ rest.length) :
    placeEntry (written ++ rest, offset) (entryOf frame, frame) =
      .ok (written ++ plainWire frame ++ rest.drop (plainWire frame).length,
        (written ++ plainWire frame).length) := by
  have bound := encoded_size_bound limits
  have size := encoded_size_eq limits.target
  have headerLength := frame_header_length frame limits.idLength
  rw [plain_wire_length limits, size] at room
  have prefixed : packInto 4 (written ++ rest) offset (encodedSize frame) =
      .ok (written ++ bigEndian 4 (encodedSize frame) ++ rest.drop 4) :=
    pack_into_at_cursor position (by omega) (by omega) (by omega)
  have stop : offset + 4 + (frameHeader frame).length =
      (written ++ bigEndian 4 (encodedSize frame) ++ frameHeader frame).length := by
    simp +arith [position]
  rw [place_entry_eq limits, bind_ok prefixed,
    bind_ok (marshal_into_at_cursor (by simp [position]) limits.idLength limits.marshallable
      (by simp only [List.length_drop]; omega))]
  dsimp only
  rw [stop]
  split_ifs with payload
  · rw [assign_slice_at_cursor rfl]
    simp [plainWire, List.drop_drop, Nat.add_assoc, pure, Except.pure]
  · have empty : frame.payload = [] := by simpa using payload
    simp [plainWire, empty, List.drop_drop, pure, Except.pure]

theorem place_entries_at_cursor {frames : List Frame} {written rest : Bytes} {offset : Nat}
    (position : offset = written.length) (limits : ∀ frame ∈ frames, WithinLimits frame)
    (room : (plainWires frames).length ≤ rest.length) :
    ∃ stop, ((frames.map entryOf).zip frames).foldlM placeEntry (written ++ rest, offset) =
      .ok (written ++ plainWires frames ++ rest.drop (plainWires frames).length, stop) := by
  induction frames generalizing written rest offset with
  | nil => exact ⟨offset, by simp [plainWires, pure, Except.pure]⟩
  | cons frame frames ih =>
      have total : (plainWires (frame :: frames)).length =
          (plainWire frame).length + (plainWires frames).length := by
        simp [plainWires]
      rw [total] at room
      have others : ∀ other ∈ frames, WithinLimits other :=
        fun other member => limits other (List.mem_cons_of_mem _ member)
      obtain ⟨stop, placed⟩ := @ih (written ++ plainWire frame)
        (rest.drop (plainWire frame).length) _ rfl others
        (by simp only [List.length_drop]; omega)
      refine ⟨stop, ?_⟩
      rw [List.map_cons, List.zip_cons_cons, List.foldlM_cons,
        bind_ok (place_entry_at_cursor position (limits frame List.mem_cons_self) (by omega)),
        placed, total]
      simp [plainWires, List.drop_drop]

/-- Within the limits `marshal_batch` returns the frames, each behind the
length of its encoding. -/
theorem marshal_batch_ok {frames : List Frame} (limits : ∀ frame ∈ frames, WithinLimits frame) :
    marshalBatch frames = .ok (plainWires frames) := by
  have total : ((frames.map entryOf).map fun entry => 4 + entry.1).sum =
      (plainWires frames).length := by
    rw [plainWires, List.length_flatten, List.map_map, List.map_map]
    congr 1
    apply List.map_congr_left
    intro frame member
    exact (plain_wire_length (limits frame member)).symm
  obtain ⟨stop, placed⟩ := @place_entries_at_cursor frames []
    (List.replicate (plainWires frames).length 0) 0 rfl limits (by simp)
  rw [marshalBatch, bind_ok (batch_entries_ok limits), total]
  simp only [List.nil_append] at placed
  rw [bind_ok placed]
  simp [pure, Except.pure]

end Astrix
