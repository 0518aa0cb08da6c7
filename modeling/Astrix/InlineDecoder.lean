import Astrix.PlainBatch
import Mathlib.Data.List.GetD

/-!
# The inline decoder against `unmarshal`

`decode_batch` reads a frame's declared length, checks it against the end of the
plaintext and walks on by the lengths of the fields. It reads target and payload
by slices, which may end early, and replaces what is not UTF-8. Cutting at the
declared lengths and calling `unmarshal` accepts a frame only when the two
lengths agree.
-/

namespace Astrix

open PyRuntime

set_option autoImplicit false

section Layout

variable (buf : Bytes) (start : Nat)

/-- The target length of the frame whose encoding begins at `start`. -/
def declaredTarget : Nat := (buf.getD (start + SessionIDLen + 8 + 1) 0).toNat

/-- Where the payload length stands when the target is as long as declared. -/
def payloadLengthOff : Nat :=
  start + SessionIDLen + 8 + 1 + 1 + declaredTarget buf start

def declaredPayload : Nat :=
  readBigEndian (slice buf (payloadLengthOff buf start) (payloadLengthOff buf start + 4))

/-- The length of the fields of the frame, as they declare it. -/
def fieldsLength : Nat :=
  SessionIDLen + 8 + 1 + 1 + declaredTarget buf start + 4 + declaredPayload buf start

def targetField : Bytes :=
  slice buf (start + SessionIDLen + 8 + 1 + 1) (payloadLengthOff buf start)

/-- The frame the decoder reads at `start`. -/
def frameAt : Frame where
  sessionId := slice buf start (start + SessionIDLen)
  seq := readBigEndian (slice buf (start + SessionIDLen) (start + SessionIDLen + 8))
  flags := (buf.getD (start + SessionIDLen + 8) 0).toNat
  target := decodeReplace (targetField buf start)
  payload := slice buf (payloadLengthOff buf start + 4)
    (payloadLengthOff buf start + 4 + declaredPayload buf start)

/-- What `unmarshal` requires of the fields themselves. -/
def FieldsValid : Prop :=
  declaredPayload buf start ≤ maxPayloadSize ∧
    encodeUtf8 (decodeReplace (targetField buf start)) = .ok (targetField buf start)

instance : Decidable (FieldsValid buf start) := inferInstanceAs (Decidable (_ ∧ _))

end Layout

section Walk

variable (plaintext : Bytes)

/-- The length that stands in front of the frame at `off`. -/
def declaredLength (off : Nat) : Nat := readBigEndian (slice plaintext off (off + 4))

/-- The decoder gets through the frame at `off`: its declared length and its
header end inside the plaintext. -/
def FrameReadable (off : Nat) : Prop :=
  off + 4 ≤ plaintext.length ∧ off + 4 + declaredLength plaintext off ≤ plaintext.length ∧
    payloadLengthOff plaintext (off + 4) + 4 ≤ plaintext.length

/-- The fields of the frame at `off` are valid and fill its declared length. -/
def FrameWellFormed (off : Nat) : Prop :=
  declaredLength plaintext off = fieldsLength plaintext (off + 4) ∧
    FieldsValid plaintext (off + 4)

/-- Where the decoder looks for the frame behind the one at `off`. -/
def nextOff (off : Nat) : Nat := off + 4 + fieldsLength plaintext (off + 4)

/-- One of the next `count` frames does not end inside the plaintext. -/
def RunsOut : Nat → Nat → Prop
  | 0, _ => False
  | count + 1, off => ¬ FrameReadable plaintext off ∨ RunsOut count (nextOff plaintext off)

def AllWellFormed : Nat → Nat → Prop
  | 0, _ => True
  | count + 1, off => FrameWellFormed plaintext off ∧ AllWellFormed count (nextOff plaintext off)

/-- Cut at its length prefixes from `off` on, the plaintext gives pieces that
`unmarshal` reads entirely, and these are the frames. -/
def CutsInto : Nat → List Frame → Prop
  | _, [] => True
  | off, frame :: rest => ∃ flen, unpackFrom 4 plaintext off = .ok flen ∧
      (let piece := slice plaintext (off + 4) (off + 4 + flen)
      unmarshal piece = .ok (frame, piece.length)) ∧ CutsInto (off + 4 + flen) rest

instance (off : Nat) : Decidable (FrameReadable plaintext off) :=
  inferInstanceAs (Decidable (_ ∧ _ ∧ _))

instance (off : Nat) : Decidable (FrameWellFormed plaintext off) :=
  inferInstanceAs (Decidable (_ ∧ _))

end Walk

section Reads

variable {buf : Bytes} {offset width : Nat}

theorem unpack_from_inside (inside : offset + width ≤ buf.length) :
    unpackFrom width buf offset = .ok (readBigEndian (slice buf offset (offset + width))) := by
  rw [unpackFrom, if_pos inside]

theorem unpack_from_value {value : Nat} (done : unpackFrom width buf offset = .ok value) :
    offset + width ≤ buf.length ∧ value = readBigEndian (slice buf offset (offset + width)) := by
  have inside := unpack_from_ok done
  rw [unpack_from_inside inside] at done
  exact ⟨inside, (Except.ok.inj done).symm⟩

theorem byte_at_inside (inside : offset < buf.length) :
    byteAt buf offset = .ok (buf.getD offset 0).toNat := by
  rw [byteAt, List.getElem?_eq_getElem inside, List.getD_eq_getElem _ _ inside]

theorem byte_at_value {value : Nat} (done : byteAt buf offset = .ok value) :
    offset < buf.length ∧ value = (buf.getD offset 0).toNat := by
  by_cases inside : offset < buf.length
  · rw [byte_at_inside inside] at done
    exact ⟨inside, (Except.ok.inj done).symm⟩
  · rw [byteAt, List.getElem?_eq_none (Nat.le_of_not_lt inside)] at done
    cases done

theorem slice_slice {start size left right : Nat} (inside : right ≤ size) :
    slice (slice buf start (start + size)) left right =
      slice buf (start + left) (start + right) := by
  simp only [slice, List.take_drop, List.drop_drop, List.take_take]
  rw [Nat.min_eq_left (by omega)]

theorem slice_get_d {start size index : Nat} (inside : index < size) :
    (slice buf start (start + size)).getD index 0 = buf.getD (start + index) 0 := by
  simp only [slice, List.getD_eq_getElem?_getD, List.getElem?_drop, List.getElem?_take]
  rw [if_pos (by omega)]

end Reads

theorem unmarshal_target_ok_iff (data : Bytes) (off tlen : Nat) (text : Text) :
    unmarshalTarget data off tlen = .ok text ↔
      encodeUtf8 text = .ok (slice data off (off + tlen)) := by
  by_cases empty : tlen = 0
  · have nothing : slice data off (off + tlen) = [] := by simp [empty, slice]
    rw [unmarshalTarget, if_neg (by simp [empty]), nothing]
    exact decode_strict_ok_iff [] text
  · rw [unmarshalTarget, if_pos empty]
    exact decode_strict_ok_iff _ text

/-- `unmarshal` accepts exactly the byte strings whose fields end inside and are
valid, and stops behind them. -/
theorem unmarshal_ok_iff (data : Bytes) (frame : Frame) (stop : Nat) :
    unmarshal data = .ok (frame, stop) ↔
      payloadLengthOff data 0 + 4 ≤ data.length ∧ fieldsLength data 0 ≤ data.length ∧
        FieldsValid data 0 ∧ frame = frameAt data 0 ∧ stop = fieldsLength data 0 := by
  have first : payloadLengthOff data 0 = 0 + SessionIDLen + 8 + 1 + 1 + declaredTarget data 0 :=
    rfl
  have span : fieldsLength data 0 = payloadLengthOff data 0 + 4 + declaredPayload data 0 := by
    rw [first, fieldsLength]
    omega
  constructor
  · intro done
    obtain ⟨_, _, done⟩ := (bind_ok_iff _ _ _).mp done
    obtain ⟨seq, readSeq, done⟩ := (bind_ok_iff _ _ _).mp done
    obtain ⟨flags, readFlags, done⟩ := (bind_ok_iff _ _ _).mp done
    obtain ⟨tlen, readTarget, done⟩ := (bind_ok_iff _ _ _).mp done
    obtain ⟨_, header, done⟩ := (bind_ok_iff _ _ _).mp done
    obtain ⟨target, decoded, done⟩ := (bind_ok_iff _ _ _).mp done
    obtain ⟨plen, readPayload, done⟩ := (bind_ok_iff _ _ _).mp done
    obtain ⟨_, small, done⟩ := (bind_ok_iff _ _ _).mp done
    obtain ⟨_, room, done⟩ := (bind_ok_iff _ _ _).mp done
    cases done
    rw [raise_if_ok_iff] at header small room
    obtain ⟨_, rfl⟩ := unpack_from_value readSeq
    obtain ⟨_, rfl⟩ := byte_at_value readFlags
    obtain ⟨_, rfl⟩ := byte_at_value readTarget
    obtain ⟨_, rfl⟩ := unpack_from_value readPayload
    have encoded := (unmarshal_target_ok_iff _ _ _ _).mp decoded
    have read := decode_encode_utf8 _ _ encoded
    refine ⟨Nat.not_lt.mp header, span ▸ Nat.not_lt.mp room, ⟨Nat.not_lt.mp small, ?_⟩, ?_,
      span.symm⟩
    · rw [targetField, first, declaredTarget, read]
      exact encoded
    · rw [frameAt, targetField, first, declaredTarget, read]
      rfl
  · rintro ⟨header, room, ⟨small, encoded⟩, rfl, rfl⟩
    have readTarget : byteAt data (0 + SessionIDLen + 8 + 1) = .ok (declaredTarget data 0) :=
      byte_at_inside (by omega)
    have decoded := (unmarshal_target_ok_iff data (0 + SessionIDLen + 8 + 1 + 1)
      (declaredTarget data 0) _).mpr encoded
    have readPayload : unpackFrom 4 data (payloadLengthOff data 0) = .ok (declaredPayload data 0) :=
      unpack_from_inside header
    rw [unmarshal, bind_ok (raise_if_not (by omega))]
    dsimp only
    rw [bind_ok (unpack_from_inside (by omega)), bind_ok (byte_at_inside (by omega)),
      bind_ok readTarget, ← first, bind_ok (raise_if_not (Nat.not_lt.mpr header)), bind_ok decoded,
      bind_ok readPayload, bind_ok (raise_if_not (Nat.not_lt.mpr small)), ← span,
      bind_ok (raise_if_not (Nat.not_lt.mpr room))]
    rw [frameAt, ← span]
    rfl

section OneFrame

variable {plaintext : Bytes} {off : Nat}

theorem decode_frame_readable (readable : FrameReadable plaintext off) :
    decodeFrame plaintext off = .ok (frameAt plaintext (off + 4), nextOff plaintext off) := by
  obtain ⟨prefixed, declared, header⟩ := readable
  have first : payloadLengthOff plaintext (off + 4) =
    off + 4 + SessionIDLen + 8 + 1 + 1 + declaredTarget plaintext (off + 4) := rfl
  have span : nextOff plaintext off = payloadLengthOff plaintext (off + 4) + 4 +
      declaredPayload plaintext (off + 4) := by
    rw [first, nextOff, fieldsLength]
    omega
  have readTarget : byteAt plaintext (off + 4 + SessionIDLen + 8 + 1) =
      .ok (declaredTarget plaintext (off + 4)) := byte_at_inside (by omega)
  have readPayload : unpackFrom 4 plaintext (payloadLengthOff plaintext (off + 4)) =
      .ok (declaredPayload plaintext (off + 4)) := unpack_from_inside header
  rw [decodeFrame, bind_ok (raise_if_not (by omega)), bind_ok (unpack_from_inside prefixed)]
  dsimp only
  rw [← declaredLength, bind_ok (raise_if_not (Nat.not_lt.mpr declared)),
    bind_ok (unpack_from_inside (by omega)), bind_ok (byte_at_inside (by omega)),
    bind_ok readTarget, ← first, bind_ok readPayload, span]
  rfl

theorem decode_frame_ok {frame : Frame} {next : Nat}
    (done : decodeFrame plaintext off = .ok (frame, next)) : FrameReadable plaintext off := by
  obtain ⟨_, prefixed, done⟩ := (bind_ok_iff _ _ _).mp done
  obtain ⟨flen, readLength, done⟩ := (bind_ok_iff _ _ _).mp done
  obtain ⟨_, declared, done⟩ := (bind_ok_iff _ _ _).mp done
  obtain ⟨seq, _, done⟩ := (bind_ok_iff _ _ _).mp done
  obtain ⟨flags, _, done⟩ := (bind_ok_iff _ _ _).mp done
  obtain ⟨tlen, readTarget, done⟩ := (bind_ok_iff _ _ _).mp done
  obtain ⟨plen, readPayload, _⟩ := (bind_ok_iff _ _ _).mp done
  rw [raise_if_ok_iff] at prefixed declared
  obtain ⟨_, rfl⟩ := unpack_from_value readLength
  obtain ⟨_, rfl⟩ := byte_at_value readTarget
  exact ⟨by omega, Nat.not_lt.mp declared, unpack_from_ok readPayload⟩

end OneFrame

section Piece

variable {buf : Bytes} {start size : Nat}

theorem piece_target (header : SessionIDLen + 8 + 1 + 1 ≤ size) :
    declaredTarget (slice buf start (start + size)) 0 = declaredTarget buf start := by
  rw [declaredTarget, slice_get_d (by omega), declaredTarget]
  simp only [Nat.zero_add, Nat.add_assoc]

theorem piece_payload_off (header : SessionIDLen + 8 + 1 + 1 ≤ size) :
    start + payloadLengthOff (slice buf start (start + size)) 0 = payloadLengthOff buf start := by
  rw [payloadLengthOff, piece_target header, payloadLengthOff]
  omega

theorem piece_fields (header : payloadLengthOff buf start + 4 ≤ start + size) :
    declaredPayload (slice buf start (start + size)) 0 = declaredPayload buf start ∧
      fieldsLength (slice buf start (start + size)) 0 = fieldsLength buf start ∧
      targetField (slice buf start (start + size)) 0 = targetField buf start := by
  have long : SessionIDLen + 8 + 1 + 1 ≤ size := by
    rw [payloadLengthOff] at header
    omega
  have position := @piece_payload_off buf start size long
  have payload :
      declaredPayload (slice buf start (start + size)) 0 = declaredPayload buf start := by
    rw [declaredPayload, slice_slice (by omega), ← Nat.add_assoc, position, declaredPayload]
  refine ⟨payload, ?_, ?_⟩
  · rw [fieldsLength, payload, piece_target long, fieldsLength]
  · rw [targetField, slice_slice (by omega), position, targetField]
    simp only [Nat.zero_add, Nat.add_assoc]

theorem piece_frame (fields : fieldsLength buf start ≤ size) :
    frameAt (slice buf start (start + size)) 0 = frameAt buf start := by
  have span : fieldsLength buf start = SessionIDLen + 8 + 1 + 1 + declaredTarget buf start + 4 +
    declaredPayload buf start := rfl
  have header : payloadLengthOff buf start + 4 ≤ start + size := by
    rw [payloadLengthOff]
    omega
  have long : SessionIDLen + 8 + 1 + 1 ≤ size := by omega
  have position := @piece_payload_off buf start size long
  obtain ⟨payload, _, target⟩ := piece_fields header
  have first : payloadLengthOff buf start =
    start + SessionIDLen + 8 + 1 + 1 + declaredTarget buf start := rfl
  have last : payloadLengthOff (slice buf start (start + size)) 0 + 4 +
      declaredPayload buf start ≤ size := by
    omega
  rw [frameAt, payload, target, slice_slice (by omega), slice_slice (by omega),
    slice_slice last, slice_get_d (by omega), frameAt, ← position]
  simp only [Nat.zero_add, Nat.add_assoc, Nat.add_zero]

end Piece

section OneFrame

variable {plaintext : Bytes} {off : Nat}

/-- Of a frame the decoder gets through, `unmarshal` reads the declared piece
entirely exactly when the frame is well formed. -/
theorem unmarshal_piece (readable : FrameReadable plaintext off) (frame : Frame) :
    (let piece := slice plaintext (off + 4) (off + 4 + declaredLength plaintext off)
    unmarshal piece = .ok (frame, piece.length)) ↔
      FrameWellFormed plaintext off ∧ frame = frameAt plaintext (off + 4) := by
  obtain ⟨_, declared, _⟩ := readable
  have length : (slice plaintext (off + 4) (off + 4 + declaredLength plaintext off)).length =
      declaredLength plaintext off := slice_length declared
  dsimp only
  rw [unmarshal_ok_iff, length]
  constructor
  · rintro ⟨header, _, valid, rfl, fills⟩
    have long : SessionIDLen + 8 + 1 + 1 ≤ declaredLength plaintext off := by
      rw [payloadLengthOff] at header
      omega
    have position := @piece_payload_off plaintext (off + 4) _ long
    obtain ⟨payload, fields, target⟩ :=
      @piece_fields plaintext (off + 4) (declaredLength plaintext off) (by omega)
    rw [fields] at fills
    rw [FieldsValid, payload, target] at valid
    exact ⟨⟨fills, valid⟩, piece_frame (by omega)⟩
  · rintro ⟨⟨fills, valid⟩, rfl⟩
    have span : fieldsLength plaintext (off + 4) = SessionIDLen + 8 + 1 + 1 +
      declaredTarget plaintext (off + 4) + 4 + declaredPayload plaintext (off + 4) := rfl
    have header : payloadLengthOff plaintext (off + 4) + 4 ≤
        off + 4 + declaredLength plaintext off := by
      rw [payloadLengthOff]
      omega
    obtain ⟨payload, fields, target⟩ := piece_fields header
    have position := @piece_payload_off plaintext (off + 4) _ (by omega :
      SessionIDLen + 8 + 1 + 1 ≤ declaredLength plaintext off)
    refine ⟨by omega, by omega, ?_, (piece_frame (by omega)).symm, by omega⟩
    rw [FieldsValid, payload, target]
    exact valid

theorem cuts_into_cons (readable : FrameReadable plaintext off) (frame : Frame)
    (rest : List Frame) :
    CutsInto plaintext off (frame :: rest) ↔
      FrameWellFormed plaintext off ∧ frame = frameAt plaintext (off + 4) ∧
        CutsInto plaintext (nextOff plaintext off) rest := by
  rw [CutsInto]
  constructor
  · rintro ⟨flen, read, piece, others⟩
    obtain ⟨_, rfl⟩ := unpack_from_value read
    obtain ⟨well, same⟩ := (unmarshal_piece readable frame).mp piece
    refine ⟨well, same, ?_⟩
    rw [nextOff, ← well.1]
    exact others
  · rintro ⟨well, same, others⟩
    refine ⟨_, unpack_from_inside readable.1,
      (unmarshal_piece readable frame).mpr ⟨well, same⟩, ?_⟩
    rw [nextOff, ← well.1] at others
    exact others

end OneFrame

section Frames

variable {plaintext : Bytes}

theorem decode_frames_succ {count off : Nat} (readable : FrameReadable plaintext off)
    (frames : List Frame) :
    decodeFrames plaintext (count + 1) off = .ok frames ↔
      ∃ rest, decodeFrames plaintext count (nextOff plaintext off) = .ok rest ∧
        frames = frameAt plaintext (off + 4) :: rest := by
  rw [decodeFrames, bind_ok (decode_frame_readable readable), bind_ok_iff]
  constructor
  · rintro ⟨rest, read, same⟩
    exact ⟨rest, read, (Except.ok.inj same).symm⟩
  · rintro ⟨rest, read, rfl⟩
    exact ⟨rest, read, rfl⟩

theorem decode_frames_runs_out (count off : Nat) :
    RunsOut plaintext count off ↔ ∀ frames, decodeFrames plaintext count off ≠ .ok frames := by
  induction count generalizing off with
  | zero => simp [RunsOut, decodeFrames]
  | succ count ih =>
      by_cases readable : FrameReadable plaintext off
      · simp only [RunsOut, readable, not_true_eq_false, false_or, ih, ne_eq,
          decode_frames_succ readable, not_exists, not_and]
        constructor
        · intro stuck frames rest read
          exact absurd read (stuck rest)
        · intro stuck rest read
          exact stuck _ rest read rfl
      · apply iff_of_true (Or.inl readable)
        intro frames read
        obtain ⟨⟨frame, next⟩, first, _⟩ := (bind_ok_iff _ _ _).mp read
        exact readable (decode_frame_ok first)

theorem decode_frames_cut (count off : Nat) :
    (∀ frames, decodeFrames plaintext count off = .ok frames → CutsInto plaintext off frames) ↔
      RunsOut plaintext count off ∨ AllWellFormed plaintext count off := by
  induction count generalizing off with
  | zero => simp [decodeFrames, RunsOut, AllWellFormed, CutsInto]
  | succ count ih =>
      by_cases readable : FrameReadable plaintext off
      · by_cases stuck : RunsOut plaintext count (nextOff plaintext off)
        · have none := (decode_frames_runs_out _ _).mp stuck
          refine iff_of_true ?_ (Or.inl (Or.inr stuck))
          intro frames read
          obtain ⟨rest, others, _⟩ := (decode_frames_succ readable frames).mp read
          exact absurd others (none rest)
        · have step := ih (nextOff plaintext off)
          simp only [stuck, false_or] at step
          simp only [RunsOut, readable, not_true_eq_false, stuck, or_self, false_or,
            AllWellFormed, ← step, decode_frames_succ readable]
          have some : ∃ rest, decodeFrames plaintext count (nextOff plaintext off) = .ok rest := by
            by_contra none
            exact stuck ((decode_frames_runs_out _ _).mpr fun rest read => none ⟨rest, read⟩)
          obtain ⟨found, reads⟩ := some
          constructor
          · intro cuts
            have split : ∀ rest, decodeFrames plaintext count (nextOff plaintext off) = .ok rest →
                FrameWellFormed plaintext off ∧
                  CutsInto plaintext (nextOff plaintext off) rest := by
              intro rest read
              obtain ⟨well, _, others⟩ :=
                (cuts_into_cons readable _ rest).mp (cuts _ ⟨rest, read, rfl⟩)
              exact ⟨well, others⟩
            exact ⟨(split found reads).1, fun rest read => (split rest read).2⟩
          · rintro ⟨well, others⟩ frames ⟨rest, read, rfl⟩
            exact (cuts_into_cons readable _ rest).mpr ⟨well, rfl, others rest read⟩
      · refine iff_of_true ?_ (Or.inl (Or.inl readable))
        intro frames read
        obtain ⟨⟨frame, next⟩, first, _⟩ := (bind_ok_iff _ _ _).mp read
        exact absurd (decode_frame_ok first) readable

/-- The number of frames the header announces. -/
def frameCount (plaintext : Bytes) : Nat :=
  readBigEndian (slice plaintext ClientIDLen (ClientIDLen + 2))

/-- Whatever the inline decoder returns is what cutting and `unmarshal` give,
exactly for the plaintexts that it rejects anyway and for those in which every
frame is well formed. -/
theorem inline_decoder_agrees_iff (plaintext : Bytes) :
    (∀ clientId frames, decodePlaintext plaintext = .ok (clientId, frames) →
      CutsInto plaintext (ClientIDLen + 2) frames) ↔
      plaintext.length < ClientIDLen + 2 ∨
        RunsOut plaintext (frameCount plaintext) (ClientIDLen + 2) ∨
        AllWellFormed plaintext (frameCount plaintext) (ClientIDLen + 2) := by
  rw [← decode_frames_cut]
  by_cases short : plaintext.length < ClientIDLen + 2
  · refine iff_of_true ?_ (Or.inl short)
    intro clientId frames decoded
    obtain ⟨_, long, _⟩ := (bind_ok_iff _ _ _).mp decoded
    exact absurd short ((raise_if_ok_iff _ _ _).mp long)
  · have count : unpackFrom 2 plaintext ClientIDLen = .ok (frameCount plaintext) :=
      unpack_from_inside (Nat.not_lt.mp short)
    have behind : decodePlaintext plaintext =
        (decodeFrames plaintext (frameCount plaintext) (ClientIDLen + 2) >>=
          fun frames => .ok (slice plaintext 0 ClientIDLen, frames)) := by
      rw [decodePlaintext, bind_ok (raise_if_not short), bind_ok count]
      rfl
    simp only [short, false_or, behind, bind_ok_iff]
    constructor
    · intro cuts frames read
      exact cuts _ frames ⟨frames, read, rfl⟩
    · rintro cuts clientId frames ⟨read, done, same⟩
      cases same
      exact cuts frames done

end Frames

/-- One frame that declares five bytes of payload and carries two. -/
def shortPayload : Bytes :=
  List.replicate ClientIDLen 7 ++ [0, 1] ++ [0, 0, 0, 32] ++ List.replicate SessionIDLen 9 ++
    List.replicate 8 0 ++ [0, 0] ++ [0, 0, 0, 5] ++ [1, 2]

/-- It is delivered all the same, with the two bytes that are there. -/
theorem short_payload_delivered :
    ¬ ∀ clientId frames, decodePlaintext shortPayload = .ok (clientId, frames) →
      CutsInto shortPayload (ClientIDLen + 2) frames := by
  intro cuts
  obtain ⟨flen, read, piece, _⟩ :=
    cuts (List.replicate ClientIDLen 7) [frameAt shortPayload 22] (by decide +kernel)
  obtain ⟨_, rfl⟩ := unpack_from_value read
  revert piece
  decide +kernel

end Astrix
