import Astrix.InlineDecoder

/-!
# The grammar of one frame

What `unmarshal` accepts: seven fields in a row, two of them announcing the
length of a later one, and anything behind. A sentence of the grammar is a
record of its fields with their lengths.
-/

namespace Astrix

open PyRuntime

set_option autoImplicit false

structure FrameSentence where
  sid : Bytes
  seq : Bytes
  flags : UInt8
  tlen : UInt8
  target : Bytes
  plen : Bytes
  payload : Bytes
  sidLength : sid.length = SessionIDLen
  seqLength : seq.length = 8
  targetLength : target.length = tlen.toNat
  targetUtf8 : ∃ text, encodeUtf8 text = .ok target
  plenLength : plen.length = 4
  payloadBound : readBigEndian plen ≤ maxPayloadSize
  payloadLength : payload.length = readBigEndian plen

namespace FrameSentence

def bytes (sentence : FrameSentence) : Bytes :=
  sentence.sid ++ (sentence.seq ++ ([sentence.flags] ++ ([sentence.tlen] ++
    (sentence.target ++ (sentence.plen ++ sentence.payload)))))

/-- The frame a sentence stands for. -/
def frame (sentence : FrameSentence) : Frame where
  sessionId := sentence.sid
  seq := readBigEndian sentence.seq
  flags := sentence.flags.toNat
  target := decodeReplace sentence.target
  payload := sentence.payload

end FrameSentence

/-- `data` begins with a sentence of the grammar. -/
def StartsWithFrame (data : Bytes) : Prop :=
  ∃ (sentence : FrameSentence) (rest : Bytes), data = sentence.bytes ++ rest

section Sentence

variable (sentence : FrameSentence)

theorem sentence_target :
    encodeUtf8 sentence.frame.target = .ok sentence.target ∧
      sentence.frame.targetBytes = sentence.target := by
  obtain ⟨text, encoded⟩ := sentence.targetUtf8
  have same : sentence.frame.target = text := decode_encode_utf8 text _ encoded
  rw [← same] at encoded
  exact ⟨encoded, target_bytes_of_ok encoded⟩

theorem sentence_within_limits : WithinLimits sentence.frame := by
  obtain ⟨encoded, targetBytes⟩ := sentence_target sentence
  have seqBound := (big_endian_read sentence.seqLength).2
  have flagsBound := sentence.flags.toNat_lt
  have targetBound := sentence.tlen.toNat_lt
  refine ⟨sentence.sidLength, Int.natCast_nonneg _, ?_, ?_, ?_, ?_, ?_⟩
  · simp only [FrameSentence.frame]
    omega
  · exact Nat.le_of_lt_succ flagsBound
  · rw [targetBytes]
    exact encoded
  · rw [targetBytes, sentence.targetLength]
    exact Nat.le_of_lt_succ targetBound
  · exact sentence.payloadLength ▸ sentence.payloadBound

/-- Written again, the frame of a sentence gives the bytes of the sentence. -/
theorem sentence_bytes :
    frameHeader sentence.frame ++ sentence.frame.payload = sentence.bytes := by
  have masked : UInt8.ofNat (sentence.flags.toNat &&& 0xFF) = sentence.flags := by
    rw [Nat.and_two_pow_sub_one_eq_mod _ 8, Nat.mod_eq_of_lt sentence.flags.toNat_lt]
    exact UInt8.ofNat_toNat
  rw [frameHeader, (sentence_target sentence).2]
  simp only [FrameSentence.bytes, FrameSentence.frame, sentence.targetLength,
    sentence.payloadLength, UInt8.ofNat_toNat, masked, Int.toNat_natCast,
    (big_endian_read sentence.seqLength).1, (big_endian_read sentence.plenLength).1,
    List.append_assoc]

theorem sentence_length : sentence.bytes.length = encodedSize sentence.frame := by
  have limits := sentence_within_limits sentence
  rw [← sentence_bytes, List.length_append, frame_header_length _ limits.idLength,
    encoded_size_eq limits.target]

end Sentence

/-- `unmarshal` reads a frame within the limits back from the front of any byte
string and stops behind it. -/
theorem unmarshal_at_front {frame : Frame} (limits : WithinLimits frame) (rest : Bytes) :
    unmarshal (frameHeader frame ++ frame.payload ++ rest) = .ok (frame, encodedSize frame) := by
  have targetBound := limits.targetLength
  have payloadBound := limits.payloadLength
  have size := encoded_size_eq limits.target
  have seqBound : frame.seq.toNat < 256 ^ 8 := by
    have upper := limits.seqUpper
    omega
  have flagsMasked : frame.flags &&& 0xFF = frame.flags :=
    (Nat.and_two_pow_sub_one_eq_mod frame.flags 8).trans
      (Nat.mod_eq_of_lt (Nat.lt_succ_of_le limits.flags))
  have flagsRead : (UInt8.ofNat (frame.flags &&& 0xFF)).toNat = frame.flags := by
    rw [flagsMasked]
    exact byte_of_small (Nat.lt_succ_of_le limits.flags)
  have lengthRead : (UInt8.ofNat frame.targetBytes.length).toNat = frame.targetBytes.length :=
    byte_of_small (Nat.lt_succ_of_le targetBound)
  generalize whole : frameHeader frame ++ frame.payload ++ rest = data
  have length : data.length = encodedSize frame + rest.length := by
    rw [← whole, List.length_append, List.length_append,
      frame_header_length frame limits.idLength, size]
  -- the cursor moves over the seven fields
  have atSid : FieldAt data 0 frame.sessionId (bigEndian 8 frame.seq.toNat ++
      ([UInt8.ofNat (frame.flags &&& 0xFF)] ++ ([UInt8.ofNat frame.targetBytes.length] ++
        (frame.targetBytes ++ (bigEndian 4 frame.payload.length ++
          (frame.payload ++ rest)))))) := by
    refine ⟨[], rfl, ?_⟩
    simp only [← whole, frameHeader, List.append_assoc, List.nil_append]
  have atSeq := atSid.advance limits.idLength
  have atFlags := atSeq.advance (big_endian_length 8 _)
  have atLength := atFlags.advance List.length_singleton
  have atTarget := atLength.advance List.length_singleton
  have atPlen := atTarget.advance rfl
  have atPayload := atPlen.advance (big_endian_length 4 _)
  have readFlags := atFlags.byte.trans (congrArg Except.ok flagsRead)
  have readLength := atLength.byte.trans (congrArg Except.ok lengthRead)
  have readPlen := atPlen.unpack limits.marshallable.payloadLength
  have readTarget := (unmarshal_target_ok_iff data (0 + SessionIDLen + 8 + 1 + 1)
    frame.targetBytes.length frame.target).mpr (by rw [atTarget.slice rfl]; exact limits.target)
  rw [unmarshal, bind_ok (raise_if_not (by omega))]
  dsimp only
  rw [bind_ok (atSeq.unpack seqBound), bind_ok readFlags, bind_ok readLength,
    bind_ok (raise_if_not (by omega)), bind_ok readTarget, bind_ok readPlen,
    bind_ok (raise_if_not (by omega)), bind_ok (raise_if_not (by omega)),
    atSid.slice limits.idLength, atPayload.slice rfl, Int.toNat_of_nonneg limits.seqLower, size]
  simp only [pure, Except.pure, Except.ok.injEq, Prod.mk.injEq, true_and]
  omega

theorem unmarshal_sentence_front (sentence : FrameSentence) (rest : Bytes) :
    unmarshal (sentence.bytes ++ rest) = .ok (sentence.frame, encodedSize sentence.frame) := by
  rw [← sentence_bytes]
  exact unmarshal_at_front (sentence_within_limits sentence) rest

theorem drop_one {data : Bytes} {index : Nat} (inside : index < data.length) :
    data.drop index = [data.getD index 0] ++ data.drop (index + 1) := by
  rw [List.drop_eq_getElem_cons inside, List.getD_eq_getElem _ _ inside]
  rfl

/-- What `unmarshal` accepts begins with a sentence, and the frame is read off it. -/
theorem unmarshal_sentence {data : Bytes} {frame : Frame} {stop : Nat}
    (accepted : unmarshal data = .ok (frame, stop)) :
    ∃ (sentence : FrameSentence) (rest : Bytes),
      data = sentence.bytes ++ rest ∧ frame = sentence.frame := by
  obtain ⟨header, room, ⟨small, encoded⟩, rfl, -⟩ := (unmarshal_ok_iff data frame stop).mp accepted
  have first : payloadLengthOff data 0 = 0 + SessionIDLen + 8 + 1 + 1 + declaredTarget data 0 :=
    rfl
  have span : fieldsLength data 0 = payloadLengthOff data 0 + 4 + declaredPayload data 0 := by
    rw [first, fieldsLength]
    omega
  have targetLength : (targetField data 0).length = declaredTarget data 0 := by
    rw [targetField, first]
    exact slice_length (by omega)
  have split : data = slice data 0 (0 + SessionIDLen) ++
      (slice data (0 + SessionIDLen) (0 + SessionIDLen + 8) ++
        ([data.getD (0 + SessionIDLen + 8) 0] ++ ([data.getD (0 + SessionIDLen + 8 + 1) 0] ++
          (targetField data 0 ++
            (slice data (payloadLengthOff data 0) (payloadLengthOff data 0 + 4) ++
              (slice data (payloadLengthOff data 0 + 4) (fieldsLength data 0) ++
                data.drop (fieldsLength data 0))))))) := by
    rw [span, ← drop_slice, ← drop_slice, targetField, first, ← drop_slice,
      ← drop_one (by omega), ← drop_one (by omega), ← drop_slice, ← drop_slice]
    rfl
  have read : frameAt data 0 =
      { sessionId := slice data 0 (0 + SessionIDLen)
        seq := readBigEndian (slice data (0 + SessionIDLen) (0 + SessionIDLen + 8))
        flags := (data.getD (0 + SessionIDLen + 8) 0).toNat
        target := decodeReplace (targetField data 0)
        payload := slice data (payloadLengthOff data 0 + 4) (fieldsLength data 0) } := by
    rw [frameAt, span]
  refine ⟨{ sid := slice data 0 (0 + SessionIDLen)
            seq := slice data (0 + SessionIDLen) (0 + SessionIDLen + 8)
            flags := data.getD (0 + SessionIDLen + 8) 0
            tlen := data.getD (0 + SessionIDLen + 8 + 1) 0
            target := targetField data 0
            plen := slice data (payloadLengthOff data 0) (payloadLengthOff data 0 + 4)
            payload := slice data (payloadLengthOff data 0 + 4) (fieldsLength data 0)
            sidLength := slice_length (by omega)
            seqLength := slice_length (by omega)
            targetLength := targetLength
            targetUtf8 := ⟨_, encoded⟩
            plenLength := slice_length header
            payloadBound := small
            payloadLength := span ▸ slice_length (by omega) },
    data.drop (fieldsLength data 0), ?_, read⟩
  rw [FrameSentence.bytes]
  simpa only [List.append_assoc] using split

theorem unmarshal_target_error {data : Bytes} {off tlen : Nat} {error : PyError}
    (failed : unmarshalTarget data off tlen = .error error) : error = .unicodeDecodeError := by
  unfold unmarshalTarget decodeStrict at failed
  dsimp only at failed
  split_ifs at failed
  exact (Except.error.inj failed).symm

/-- Every read of `unmarshal` is covered by an earlier check: only the checks
themselves and the decoding of the target raise. -/
theorem unmarshal_error {data : Bytes} {error : PyError}
    (failed : unmarshal data = .error error) : error.isValueError = true := by
  obtain failed | ⟨_, long, failed⟩ := (bind_error_iff _ _ _).mp failed
  · rw [raise_if_error failed]
    rfl
  rw [raise_if_ok_iff, Nat.not_lt] at long
  dsimp only at failed
  rw [bind_ok (unpack_from_inside (by omega)), bind_ok (byte_at_inside (by omega)),
    bind_ok (byte_at_inside (by omega))] at failed
  obtain failed | ⟨_, header, failed⟩ := (bind_error_iff _ _ _).mp failed
  · rw [raise_if_error failed]
    rfl
  rw [raise_if_ok_iff, Nat.not_lt] at header
  obtain failed | ⟨_, _, failed⟩ := (bind_error_iff _ _ _).mp failed
  · rw [unmarshal_target_error failed]
    rfl
  rw [bind_ok (unpack_from_inside header)] at failed
  obtain failed | ⟨_, _, failed⟩ := (bind_error_iff _ _ _).mp failed
  · rw [raise_if_error failed]
    rfl
  obtain failed | ⟨_, _, failed⟩ := (bind_error_iff _ _ _).mp failed
  · rw [raise_if_error failed]
    rfl
  cases failed

theorem marshal_batch_singleton {frame : Frame} (limits : WithinLimits frame) :
    marshalBatch [frame] =
      .ok (bigEndian 4 (encodedSize frame) ++ (frameHeader frame ++ frame.payload)) := by
  rw [marshal_batch_ok (by simpa using limits)]
  simp [plainWires, plainWire]

/-- `unmarshal` succeeds exactly on what begins with a sentence of the grammar,
gives back the frame whose encoding that sentence is and its length, and raises
`ValueError` on everything else; every frame within the limits is read back
from its encoding, whatever follows. -/
theorem unmarshal_accepts_frame_grammar :
    (∀ data, (∃ frame stop, unmarshal data = .ok (frame, stop)) ↔ StartsWithFrame data) ∧
      (∀ data frame stop, unmarshal data = .ok (frame, stop) →
        frame.encodedLen = .ok stop ∧
          ∃ encoding, marshalBatch [frame] = .ok encoding ∧ encoding.drop 4 = data.take stop) ∧
      (∀ data error, unmarshal data = .error error → error.isValueError = true) ∧
      ∀ frame, WithinLimits frame → ∃ encoding size, marshalBatch [frame] = .ok encoding ∧
        frame.encodedLen = .ok size ∧
          ∀ rest, unmarshal (encoding.drop 4 ++ rest) = .ok (frame, size) := by
  refine ⟨?_, ?_, fun data error failed => unmarshal_error failed, ?_⟩
  · intro data
    constructor
    · rintro ⟨frame, stop, accepted⟩
      obtain ⟨sentence, rest, begins, -⟩ := unmarshal_sentence accepted
      exact ⟨sentence, rest, begins⟩
    · rintro ⟨sentence, rest, rfl⟩
      exact ⟨_, _, unmarshal_sentence_front sentence rest⟩
  · intro data frame stop accepted
    obtain ⟨sentence, rest, rfl, rfl⟩ := unmarshal_sentence accepted
    have limits := sentence_within_limits sentence
    rw [unmarshal_sentence_front] at accepted
    obtain rfl : encodedSize sentence.frame = stop := by
      cases accepted
      rfl
    refine ⟨encoded_len_ok limits.target, _, marshal_batch_singleton limits, ?_⟩
    rw [List.drop_left' (big_endian_length 4 _), sentence_bytes,
      List.take_left' (sentence_length sentence)]
  · intro frame limits
    refine ⟨_, _, marshal_batch_singleton limits, encoded_len_ok limits.target, ?_⟩
    intro rest
    rw [List.drop_left' (big_endian_length 4 _)]
    exact unmarshal_at_front limits rest

end Astrix
