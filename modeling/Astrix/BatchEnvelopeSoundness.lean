import Astrix.BatchEnvelope

/-!
# What an encoded batch decodes to

The buffer is allocated from character counts. Every fixed-size field fails
past the end of the buffer, so a run of the encoder that returns has written
every field at its place, and only the last payload can have grown the buffer.
The length prefixes it wrote may be too small; the decoder checks them only as
lower bounds and walks by the real field lengths.
-/

namespace Astrix

open PyRuntime

set_option autoImplicit false

/-- A frame in a batch: the declared length, the header and the payload. -/
def wire (frame : Frame) : Bytes :=
  bigEndian 4 (marshalSize frame) ++ frameHeader frame ++ frame.payload

def wires (frames : List Frame) : Bytes := (frames.map wire).flatten

theorem wire_length (frame : Frame) (idLength : frame.sessionId.length = SessionIDLen) :
    (wire frame).length =
      4 + (SessionIDLen + 14 + frame.targetBytes.length) + frame.payload.length := by
  simp only [wire, List.length_append, big_endian_length, frame_header_length frame idLength]

theorem marshal_size_le_wire {frame : Frame} (fits : Marshallable frame)
    (idLength : frame.sessionId.length = SessionIDLen) :
    4 + marshalSize frame ≤ (wire frame).length := by
  have characters := fits.characters_le
  rw [wire_length frame idLength, marshalSize]
  omega

/-- What one round of the writer's loop needs and does. -/
theorem write_frame_ok {written rest : Bytes} {frame : Frame} {offset : Nat}
    {result : Bytes × Nat}
    (done : writeFrame (written ++ rest, offset) frame = .ok result)
    (position : offset = written.length)
    (idLength : frame.sessionId.length = SessionIDLen) :
    Marshallable frame ∧ marshalSize frame < 256 ^ 4 ∧
      4 + (frameHeader frame).length ≤ rest.length ∧
      result = (written ++ wire frame ++ rest.drop (wire frame).length,
        (written ++ wire frame).length) := by
  obtain ⟨_, prefixed, done⟩ := (bind_ok_iff _ _ _).mp done
  obtain ⟨_, sizeBound, prefixRoom, rfl⟩ := pack_into_at_cursor_ok prefixed position
  obtain ⟨⟨buffer, count⟩, marshalled, done⟩ := (bind_ok_iff _ _ _).mp done
  obtain ⟨fits, headerRoom, rfl, rfl⟩ :=
    marshal_into_at_cursor_ok marshalled (by simp +arith [position]) idLength
  simp only [List.length_drop] at headerRoom
  refine ⟨fits, by omega, by omega, ?_⟩
  have stop : offset + 4 + (frameHeader frame).length =
      (written ++ bigEndian 4 (marshalSize frame) ++ frameHeader frame).length := by
    simp +arith [position]
  simp only [Int.toNat_natCast, stop] at done
  split_ifs at done with payload
  · rw [assign_slice_at_cursor rfl] at done
    cases done
    simp [wire, List.drop_drop, Nat.add_assoc]
  · cases done
    have empty : frame.payload = [] := by simpa using payload
    simp [wire, empty, List.drop_drop]

theorem write_frame_at_cursor {written rest : Bytes} {frame : Frame} {offset : Nat}
    (position : offset = written.length)
    (idLength : frame.sessionId.length = SessionIDLen) (fits : Marshallable frame)
    (sizeBound : marshalSize frame < 256 ^ 4)
    (room : 4 + (frameHeader frame).length ≤ rest.length) :
    ∃ result, writeFrame (written ++ rest, offset) frame = .ok result := by
  rw [writeFrame]
  dsimp only
  rw [bind_ok (pack_into_at_cursor position (by omega) (by omega) (by omega)),
    bind_ok (marshal_into_at_cursor (by simp [position]) idLength fits
      (by simp only [List.length_drop]; omega))]
  split_ifs <;> exact ⟨_, rfl⟩

/-- The room each header needs in what is left of the buffer. -/
def HeadersFit : Nat → List Frame → Prop
  | _, [] => True
  | room, frame :: rest =>
      4 + (frameHeader frame).length ≤ room ∧ HeadersFit (room - (wire frame).length) rest

/-- Ranges of the fields of a frame that can stand in a batch. -/
structure Batchable (frame : Frame) : Prop where
  fields : Marshallable frame
  size : marshalSize frame < 256 ^ 4

theorem write_frames_ok {frames : List Frame} {written rest : Bytes} {offset : Nat}
    {result : Bytes × Nat}
    (done : frames.foldlM writeFrame (written ++ rest, offset) = .ok result)
    (position : offset = written.length)
    (ids : ∀ frame ∈ frames, frame.sessionId.length = SessionIDLen) :
    (∀ frame ∈ frames, Batchable frame) ∧ HeadersFit rest.length frames ∧
      result.1 = written ++ wires frames ++ rest.drop (wires frames).length := by
  induction frames generalizing written rest offset with
  | nil =>
      cases done
      simp [wires, HeadersFit]
  | cons frame frames ih =>
      rw [List.foldlM_cons] at done
      obtain ⟨_, first, done⟩ := (bind_ok_iff _ _ _).mp done
      obtain ⟨fits, size, room, rfl⟩ := write_frame_ok first position (ids frame (by simp))
      obtain ⟨others, headers, final⟩ := ih done rfl fun other member =>
        ids other (List.mem_cons_of_mem _ member)
      rw [List.length_drop] at headers
      refine ⟨?_, ⟨room, headers⟩, ?_⟩
      · intro other member
        rcases List.mem_cons.mp member with rfl | later
        · exact ⟨fits, size⟩
        · exact others other later
      · simp [final, wires, List.drop_drop]

theorem write_frames_at_cursor {frames : List Frame} {written rest : Bytes} {offset : Nat}
    (position : offset = written.length)
    (ids : ∀ frame ∈ frames, frame.sessionId.length = SessionIDLen)
    (fields : ∀ frame ∈ frames, Batchable frame)
    (room : HeadersFit rest.length frames) :
    ∃ result, frames.foldlM writeFrame (written ++ rest, offset) = .ok result := by
  induction frames generalizing written rest offset with
  | nil => exact ⟨_, rfl⟩
  | cons frame frames ih =>
      have fits := fields frame (by simp)
      obtain ⟨result, first⟩ := write_frame_at_cursor position (ids frame (by simp))
        fits.fields fits.size room.1
      obtain ⟨_, _, _, rfl⟩ := write_frame_ok first position (ids frame (by simp))
      rw [List.foldlM_cons, bind_ok first]
      apply ih rfl
      · exact fun other member => ids other (List.mem_cons_of_mem _ member)
      · exact fun other member => fields other (List.mem_cons_of_mem _ member)
      · rw [List.length_drop]
        exact room.2

theorem frames_size_le_wires {frames : List Frame}
    (ids : ∀ frame ∈ frames, frame.sessionId.length = SessionIDLen)
    (fields : ∀ frame ∈ frames, Batchable frame) :
    framesSize frames ≤ (wires frames).length := by
  induction frames with
  | nil => simp [framesSize, wires]
  | cons frame frames ih =>
      have first := marshal_size_le_wire (fields frame (by simp)).fields (ids frame (by simp))
      have others := ih (fun other member => ids other (List.mem_cons_of_mem _ member))
        (fun other member => fields other (List.mem_cons_of_mem _ member))
      simp only [framesSize, wires, List.map_cons, List.sum_cons, List.flatten_cons,
        List.length_append] at others ⊢
      omega

/-- The bytes of a batch before sealing, by field. -/
def batchForm (clientId : Bytes) (frames : List Frame) : Bytes :=
  batchFlagRaw :: (clientId ++ (bigEndian 2 frames.length ++ wires frames))

theorem place_client_id {clientId : Bytes} {size : Nat}
    (idLength : clientId.length = ClientIDLen) :
    assignSlice ([] ++ [UInt8.ofNat 0] ++
        (List.replicate (1 + ClientIDLen + 2 + size) (0 : UInt8)).drop 1)
        (0 + 1) (0 + 1 + ClientIDLen) clientId =
      [UInt8.ofNat 0] ++ clientId ++ List.replicate (2 + size) (0 : UInt8) := by
  have zeros : ((List.replicate (1 + ClientIDLen + 2 + size) (0 : UInt8)).drop 1).drop
      ClientIDLen = List.replicate (2 + size) (0 : UInt8) := by
    rw [List.drop_drop, List.drop_replicate]
    exact congrArg (fun count => List.replicate count (0 : UInt8)) (by omega)
  have assigned := @assign_slice_at_cursor ([] ++ [UInt8.ofNat 0])
    ((List.replicate (1 + ClientIDLen + 2 + size) (0 : UInt8)).drop 1) clientId (0 + 1) rfl
  rw [idLength, zeros] at assigned
  simpa using assigned

/-- A run of the plaintext writer that returns has written exactly the batch
form: the buffer grew, if at all, to the real length. -/
theorem batch_plaintext_ok {clientId : Bytes} {frames : List Frame} {plaintext : Bytes}
    (done : batchPlaintext clientId frames = .ok plaintext)
    (ids : ∀ frame ∈ frames, frame.sessionId.length = SessionIDLen) :
    frames.length ≤ 0xFFFF ∧ clientId.length = ClientIDLen ∧
      (∀ frame ∈ frames, Batchable frame) ∧ HeadersFit (framesSize frames) frames ∧
      plaintext = batchForm clientId frames := by
  obtain ⟨_, notTooMany, done⟩ := (bind_ok_iff _ _ _).mp done
  obtain ⟨_, rightId, done⟩ := (bind_ok_iff _ _ _).mp done
  rw [raise_if_ok_iff] at notTooMany rightId
  have idLength : clientId.length = ClientIDLen := not_not.mp rightId
  obtain ⟨_, flagged, done⟩ := (bind_ok_iff _ _ _).mp done
  rw [← List.nil_append (List.replicate _ _)] at flagged
  obtain ⟨_, _, rfl⟩ := assign_byte_at_cursor_ok flagged rfl
  dsimp only at done
  rw [place_client_id idLength] at done
  obtain ⟨_, counted, done⟩ := (bind_ok_iff _ _ _).mp done
  obtain ⟨_, _, _, rfl⟩ := pack_into_at_cursor_ok counted (by simp +arith [idLength])
  obtain ⟨⟨buffer, offset⟩, written, done⟩ := (bind_ok_iff _ _ _).mp done
  obtain ⟨fields, headers, final⟩ :=
    write_frames_ok written (by simp +arith [idLength]) ids
  have room : (List.drop 2 (List.replicate (2 + framesSize frames) (0 : UInt8))).length =
      framesSize frames := by
    simp
  rw [room] at headers
  refine ⟨by omega, idLength, fields, headers, ?_⟩
  have spent := frames_size_le_wires ids fields
  have nothingLeft : (List.drop 2 (List.replicate (2 + framesSize frames) (0 : UInt8))).drop
      (wires frames).length = [] :=
    List.drop_eq_nil_of_le (by rw [room]; exact spent)
  cases done
  dsimp only at final
  rw [final, nothingLeft]
  simp [batchForm, batchFlagRaw]

theorem batch_plaintext_of_fits {clientId : Bytes} {frames : List Frame}
    (count : frames.length ≤ 0xFFFF) (idLength : clientId.length = ClientIDLen)
    (ids : ∀ frame ∈ frames, frame.sessionId.length = SessionIDLen)
    (fields : ∀ frame ∈ frames, Batchable frame)
    (headers : HeadersFit (framesSize frames) frames) :
    ∃ plaintext, batchPlaintext clientId frames = .ok plaintext := by
  have room : (List.drop 2 (List.replicate (2 + framesSize frames) (0 : UInt8))).length =
      framesSize frames := by
    simp
  obtain ⟨result, written⟩ := @write_frames_at_cursor frames
    ([UInt8.ofNat 0] ++ clientId ++ bigEndian 2 frames.length)
    (List.drop 2 (List.replicate (2 + framesSize frames) (0 : UInt8)))
    (0 + 1 + ClientIDLen + 2) (by simp +arith [idLength]) ids fields
    (by rw [room]; exact headers)
  refine ⟨result.1, ?_⟩
  rw [batchPlaintext]
  dsimp only
  rw [bind_ok (raise_if_not (by omega)), bind_ok (raise_if_not (by simpa using idLength)),
    ← List.nil_append (List.replicate (1 + ClientIDLen + 2 + framesSize frames) (0 : UInt8)),
    bind_ok (@assign_byte_at_cursor [] _ 0 _ rfl
      (by simp only [List.length_replicate]; omega) (by omega)), place_client_id idLength,
    bind_ok (pack_into_at_cursor (by simp +arith [idLength]) (by omega) (by omega)
      (by simp))]
  rw [Int.toNat_natCast, bind_ok written]
  rfl

/-- When every target is as long in bytes as in characters, the buffer is exact. -/
theorem headers_fit_exact {frames : List Frame}
    (ids : ∀ frame ∈ frames, frame.sessionId.length = SessionIDLen)
    (exact : ∀ frame ∈ frames, frame.targetBytes.length = frame.target.length) :
    HeadersFit (framesSize frames) frames := by
  induction frames with
  | nil => trivial
  | cons frame frames ih =>
      have idLength := ids frame (by simp)
      have characters := exact frame (by simp)
      have size : 4 + marshalSize frame = (wire frame).length := by
        rw [wire_length frame idLength, marshalSize, characters]
        omega
      have header : 4 + (frameHeader frame).length ≤ (wire frame).length := by
        rw [wire_length frame idLength, frame_header_length frame idLength]
        omega
      have total : framesSize (frame :: frames) = (wire frame).length + framesSize frames := by
        rw [← size]
        rfl
      refine ⟨by omega, ?_⟩
      rw [total, Nat.add_sub_cancel_left]
      exact ih (fun other member => ids other (List.mem_cons_of_mem _ member))
        fun other member => exact other (List.mem_cons_of_mem _ member)

theorem target_bytes_decode {frame : Frame} (fits : Marshallable frame) :
    decodeReplace frame.targetBytes = frame.target :=
  decode_encode_utf8 frame.target frame.targetBytes fits.target

/-- The decoder's loop body, placed at the start of an encoded frame, returns
that frame and stops right behind it. -/
theorem decode_frame_at_wire {before after : Bytes} {frame : Frame} {offset : Nat}
    (position : offset = before.length)
    (idLength : frame.sessionId.length = SessionIDLen) (fits : Batchable frame)
    (flagsByte : frame.flags < 256) :
    decodeFrame (before ++ (wire frame ++ after)) offset =
      .ok (frame, offset + (wire frame).length) := by
  have total := wire_length frame idLength
  have declared := marshal_size_le_wire fits.fields idLength
  have seqBound : frame.seq.toNat < 256 ^ 8 := by
    have upper := fits.fields.seqUpper
    omega
  have flagsMasked : frame.flags &&& 0xFF = frame.flags :=
    (Nat.and_two_pow_sub_one_eq_mod frame.flags 8).trans (Nat.mod_eq_of_lt flagsByte)
  have flagsRead : (UInt8.ofNat (frame.flags &&& 0xFF)).toNat = frame.flags := by
    rw [flagsMasked]
    exact byte_of_small flagsByte
  have lengthRead : (UInt8.ofNat frame.targetBytes.length).toNat = frame.targetBytes.length :=
    byte_of_small (by have bound := fits.fields.targetLength; omega)
  generalize whole : before ++ (wire frame ++ after) = plaintext
  have length : plaintext.length = offset + (wire frame).length + after.length := by
    rw [← whole, position]
    simp only [List.length_append, Nat.add_assoc]
  -- the cursor moves over the eight parts of the wire form
  have atSize : FieldAt plaintext offset (bigEndian 4 (marshalSize frame))
      (frame.sessionId ++ (bigEndian 8 frame.seq.toNat ++
        ([UInt8.ofNat (frame.flags &&& 0xFF)] ++ ([UInt8.ofNat frame.targetBytes.length] ++
          (frame.targetBytes ++ (bigEndian 4 frame.payload.length ++
            (frame.payload ++ after))))))) := by
    refine ⟨before, position, ?_⟩
    simp only [← whole, wire, frameHeader, List.append_assoc]
  have atSid := atSize.advance (big_endian_length 4 _)
  have atSeq := atSid.advance idLength
  have atFlags := atSeq.advance (big_endian_length 8 _)
  have atLength := atFlags.advance List.length_singleton
  have atTarget := atLength.advance List.length_singleton
  have atPlen := atTarget.advance rfl
  have atPayload := atPlen.advance (big_endian_length 4 _)
  have readSize := atSize.unpack fits.size
  have readSeq := atSeq.unpack seqBound
  have readFlags := atFlags.byte.trans (congrArg Except.ok flagsRead)
  have readLength := atLength.byte.trans (congrArg Except.ok lengthRead)
  have readPlen := atPlen.unpack fits.fields.payloadLength
  rw [decodeFrame, bind_ok (raise_if_not (by omega)), bind_ok readSize]
  dsimp only
  rw [bind_ok (raise_if_not (by omega)), bind_ok readSeq, bind_ok readFlags, bind_ok readLength,
    bind_ok readPlen, atSid.slice idLength, atTarget.slice rfl, atPayload.slice rfl,
    target_bytes_decode fits.fields,
    Int.toNat_of_nonneg fits.fields.seqLower, total]
  simp only [pure, Except.pure, Except.ok.injEq, Prod.mk.injEq, true_and]
  omega

theorem decode_frames_at_wires {frames : List Frame} {before : Bytes} {offset : Nat}
    (position : offset = before.length)
    (ids : ∀ frame ∈ frames, frame.sessionId.length = SessionIDLen)
    (fields : ∀ frame ∈ frames, Batchable frame)
    (flags : ∀ frame ∈ frames, frame.flags < 256) :
    decodeFrames (before ++ wires frames) frames.length offset = .ok frames := by
  induction frames generalizing before offset with
  | nil => rfl
  | cons frame frames ih =>
      have cons : wires (frame :: frames) = wire frame ++ wires frames := rfl
      rw [List.length_cons, decodeFrames, cons,
        bind_ok (decode_frame_at_wire position (ids frame (by simp)) (fields frame (by simp))
          (flags frame (by simp)))]
      have rest := @ih (before ++ wire frame) (offset + (wire frame).length)
        (by rw [List.length_append, position])
        (fun other member => ids other (List.mem_cons_of_mem _ member))
        (fun other member => fields other (List.mem_cons_of_mem _ member))
        (fun other member => flags other (List.mem_cons_of_mem _ member))
      rw [List.append_assoc] at rest
      dsimp only
      rw [bind_ok rest]
      rfl

/-- What stands behind the flags byte decodes to the batch it was built from. -/
theorem decode_batch_form {clientId : Bytes} {frames : List Frame}
    (count : frames.length ≤ 0xFFFF) (idLength : clientId.length = ClientIDLen)
    (ids : ∀ frame ∈ frames, frame.sessionId.length = SessionIDLen)
    (fields : ∀ frame ∈ frames, Batchable frame)
    (flags : ∀ frame ∈ frames, frame.flags < 256) :
    decodePlaintext (clientId ++ (bigEndian 2 frames.length ++ wires frames)) =
      .ok (clientId, frames) := by
  have long : ¬ (clientId ++ (bigEndian 2 frames.length ++ wires frames)).length <
      ClientIDLen + 2 := by
    simp only [List.length_append, big_endian_length, idLength]
    omega
  have readId : slice (clientId ++ (bigEndian 2 frames.length ++ wires frames)) 0
      ClientIDLen = clientId := by
    have atStart := @slice_at_cursor [] (bigEndian 2 frames.length ++ wires frames) clientId 0
      ClientIDLen rfl
      (by rw [idLength, Nat.zero_add])
    simpa using atStart
  have readFrames := @decode_frames_at_wires frames (clientId ++ bigEndian 2 frames.length)
    (ClientIDLen + 2) (by simp [idLength]) ids fields flags
  rw [List.append_assoc] at readFrames
  rw [decodePlaintext, bind_ok (raise_if_not long),
    bind_ok (unpack_from_at_cursor (by rw [idLength]) (by omega)), bind_ok readFrames, readId]
  rfl

theorem unpack_from_ok {width offset value : Nat} {buf : Bytes}
    (done : unpackFrom width buf offset = .ok value) : offset + width ≤ buf.length := by
  rw [unpackFrom] at done
  split_ifs at done with inside
  exact inside

/-- Whatever the decoder accepts has a full session id and one byte of flags. -/
theorem decode_frame_fields {plaintext : Bytes} {off next : Nat} {frame : Frame}
    (done : decodeFrame plaintext off = .ok (frame, next)) :
    frame.sessionId.length = SessionIDLen ∧ frame.flags < 256 := by
  obtain ⟨_, _, done⟩ := (bind_ok_iff _ _ _).mp done
  obtain ⟨flen, _, done⟩ := (bind_ok_iff _ _ _).mp done
  obtain ⟨_, _, done⟩ := (bind_ok_iff _ _ _).mp done
  obtain ⟨seq, readSeq, done⟩ := (bind_ok_iff _ _ _).mp done
  obtain ⟨flags, readFlags, done⟩ := (bind_ok_iff _ _ _).mp done
  obtain ⟨tlen, _, done⟩ := (bind_ok_iff _ _ _).mp done
  obtain ⟨plen, _, done⟩ := (bind_ok_iff _ _ _).mp done
  cases done
  have room := unpack_from_ok readSeq
  constructor
  · exact slice_length (by omega)
  · rw [byteAt] at readFlags
    split at readFlags
    · cases readFlags
      exact UInt8.toNat_lt _
    · cases readFlags

theorem decode_frames_fields {plaintext : Bytes} {count off : Nat} {frames : List Frame}
    (done : decodeFrames plaintext count off = .ok frames) :
    ∀ frame ∈ frames, frame.sessionId.length = SessionIDLen ∧ frame.flags < 256 := by
  induction count generalizing off frames with
  | zero =>
      cases done
      exact nofun
  | succ count ih =>
      obtain ⟨⟨first, next⟩, read, done⟩ := (bind_ok_iff _ _ _).mp done
      obtain ⟨others, readOthers, done⟩ := (bind_ok_iff _ _ _).mp done
      cases done
      intro frame member
      rcases List.mem_cons.mp member with rfl | later
      · exact decode_frame_fields read
      · exact ih readOthers frame later

theorem decode_batch_fields {prims : Primitives} {body clientId : Bytes} {frames : List Frame}
    (accepted : decodeBatch prims body = .ok (clientId, frames)) :
    clientId.length = ClientIDLen ∧
      ∀ frame ∈ frames, frame.sessionId.length = SessionIDLen ∧ frame.flags < 256 := by
  rw [decodeBatch] at accepted
  split_ifs at accepted
  · cases accepted
    exact ⟨rfl, List.forall_mem_nil _⟩
  · obtain ⟨rawPlain, _, accepted⟩ := (bind_ok_iff _ _ _).mp accepted
    obtain ⟨plaintext, _, accepted⟩ := (bind_ok_iff _ _ _).mp accepted
    obtain ⟨_, long, accepted⟩ := (bind_ok_iff _ _ _).mp accepted
    obtain ⟨count, _, accepted⟩ := (bind_ok_iff _ _ _).mp accepted
    obtain ⟨others, readFrames, accepted⟩ := (bind_ok_iff _ _ _).mp accepted
    cases accepted
    rw [raise_if_ok_iff] at long
    refine ⟨?_, decode_frames_fields readFrames⟩
    have whole := @slice_length plaintext 0 ClientIDLen (by omega)
    rwa [Nat.zero_add] at whole

theorem client_raw_form (clientId : Bytes) (frames : List Frame) :
    clientRawForm (batchForm clientId frames) = batchForm clientId frames := rfl

theorem server_raw_form (clientId : Bytes) (frames : List Frame) :
    serverRawForm (batchForm clientId frames) = batchForm clientId frames := rfl

/-- Whatever the adaptive state, what is sealed opens to the bytes behind the
flags byte and is no longer than the uncompressed form. -/
theorem choose_seal_input_opens {prims : Primitives} (lawful : prims.Lawful)
    (adaptive : Adaptive) (body : Bytes) :
    let plaintext := batchFlagRaw :: body
    let sealInput := (chooseSealInput prims adaptive plaintext plaintext).1
    openPlaintext prims sealInput = .ok body ∧ sealInput.length ≤ plaintext.length := by
  intro plaintext sealInput
  have raw : openPlaintext prims plaintext = .ok body := rfl
  have compressed : openPlaintext prims (batchFlagZstd :: prims.compress body) = .ok body := by
    have notRaw : batchFlagZstd ≠ batchFlagRaw := by decide
    have notFlate : batchFlagZstd ≠ batchFlagFlate := by decide
    simp only [openPlaintext, notRaw, notFlate, if_false, if_true, lawful.decompress_compress]
  simp only [sealInput, chooseSealInput, plaintext, List.drop_one, List.tail_cons]
  split_ifs with compress shorter
  · exact ⟨compressed, Nat.le_of_lt shorter⟩
  all_goals exact ⟨raw, Nat.le_refl _⟩

theorem encode_batch_with_decodes {prims : Primitives} (lawful : prims.Lawful)
    {rawForm : Bytes → Bytes} {nonce : Nonce} {adaptive later : Adaptive} {clientId body : Bytes}
    {frames : List Frame}
    (rawSame : rawForm (batchForm clientId frames) = batchForm clientId frames)
    (ids : ∀ frame ∈ frames, frame.sessionId.length = SessionIDLen)
    (flags : ∀ frame ∈ frames, frame.flags ≤ 0xFF)
    (encoded : encodeBatchWith rawForm prims nonce adaptive clientId frames = .ok (body, later)) :
    decodeBatch prims body = .ok (clientId, frames) ∧
      ∃ plaintext, batchPlaintext clientId frames = .ok plaintext ∧
        body = encodeBase64 (sealedUnder prims nonce
          (chooseSealInput prims adaptive plaintext plaintext).1) ∧
        (chooseSealInput prims adaptive plaintext plaintext).1.length ≤ plaintext.length := by
  obtain ⟨plaintext, written, encoded⟩ := (bind_ok_iff _ _ _).mp encoded
  obtain ⟨count, idLength, fields, _, rfl⟩ := batch_plaintext_ok written ids
  rw [rawSame] at encoded
  obtain ⟨opens, shorter⟩ := choose_seal_input_opens lawful adaptive
    (clientId ++ (bigEndian 2 frames.length ++ wires frames))
  simp only [seal_returned, bind, Except.bind, pure, Except.pure, Except.ok.injEq,
    Prod.mk.injEq] at encoded
  obtain ⟨sealed, _⟩ := encoded
  refine ⟨?_, batchForm clientId frames, written, sealed.symm, shorter⟩
  have nonempty : body ≠ [] := by
    rw [← sealed]
    apply encode_base64_nonempty
    intro empty
    have nonceLength := nonce.property
    simp only [sealedUnder, List.append_eq_nil_iff] at empty
    simp [empty.1] at nonceLength
  rw [decodeBatch, if_neg nonempty, ← sealed]
  rw [bind_ok (open_body_encoded lawful nonce _)]
  have opened : openPlaintext prims (chooseSealInput prims adaptive (batchForm clientId frames)
      (batchForm clientId frames)).1 =
        .ok (clientId ++ (bigEndian 2 frames.length ++ wires frames)) := opens
  rw [bind_ok opened]
  exact decode_batch_form count idLength ids fields fun frame member =>
    Nat.lt_succ_of_le (flags frame member)

/-- Both directions of the tunnel: a body returned by either encoder decodes to
the client id and the frames it was made from, and compression never makes the
sealed plaintext longer. -/
theorem encoded_batch_decodes {prims : Primitives} (lawful : prims.Lawful) {nonce : Nonce}
    {adaptive later : Adaptive} {clientId body : Bytes} {frames : List Frame}
    (ids : ∀ frame ∈ frames, frame.sessionId.length = SessionIDLen)
    (flags : ∀ frame ∈ frames, frame.flags ≤ 0xFF)
    (encoded : clientEncodeBatch prims nonce adaptive clientId frames = .ok (body, later) ∨
      serverEncodeBatch prims nonce adaptive clientId frames = .ok (body, later)) :
    decodeBatch prims body = .ok (clientId, frames) ∧
      ∃ plaintext, batchPlaintext clientId frames = .ok plaintext ∧
        body = encodeBase64 (sealedUnder prims nonce
          (chooseSealInput prims adaptive plaintext plaintext).1) ∧
        (chooseSealInput prims adaptive plaintext plaintext).1.length ≤ plaintext.length := by
  rcases encoded with client | server
  · exact encode_batch_with_decodes lawful (client_raw_form clientId frames) ids flags client
  · exact encode_batch_with_decodes lawful (server_raw_form clientId frames) ids flags server

/-- A dial target with a two-byte character, as `encode_batch` receives it. -/
def accentedFrame : Frame where
  sessionId := List.replicate SessionIDLen 9
  seq := 0
  flags := FlagSYN
  target := [0xE9, 58, 56]
  payload := [1, 2, 3]

def accentedBody : Bytes :=
  match clientEncodeBatch tagPrimitives zeroNonce ⟨0, false⟩ (List.replicate ClientIDLen 7)
      [accentedFrame] with
  | .ok (body, _) => body
  | .error _ => []

theorem accented_batch_decodes :
    decodeBatch tagPrimitives accentedBody =
      .ok (List.replicate ClientIDLen 7, [accentedFrame]) ∧
      ∃ plaintext, batchPlaintext (List.replicate ClientIDLen 7) [accentedFrame] =
          .ok plaintext ∧
        accentedBody = encodeBase64 (sealedUnder tagPrimitives zeroNonce
          (chooseSealInput tagPrimitives ⟨0, false⟩ plaintext plaintext).1) ∧
        (chooseSealInput tagPrimitives ⟨0, false⟩ plaintext plaintext).1.length ≤
          plaintext.length :=
  have encoded : clientEncodeBatch tagPrimitives zeroNonce ⟨0, false⟩
      (List.replicate ClientIDLen 7) [accentedFrame] = .ok (accentedBody, ⟨0, false⟩) := by
    decide +kernel
  encoded_batch_decodes tag_primitives_lawful (by decide) (by decide) (.inl encoded)

end Astrix
