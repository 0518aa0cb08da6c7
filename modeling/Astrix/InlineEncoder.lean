import Astrix.PlainBatch

/-!
# The inline encoder against `marshal_batch`

`encode_batch` counts the characters of a target where `marshal_batch` counts
its bytes. On ASCII targets the two write the same bytes. A target with one
longer character already gives its frame a smaller length prefix, if the
encoder gets that far at all.
-/

namespace Astrix

open PyRuntime

set_option autoImplicit false

/-- The encoder returns; behind the flags byte, the client id and the count
stands what `marshal_batch` returns, and in front of every frame its encoded
length. -/
structure AgreesWithPlain (encoded : Except PyError (Bytes × Adaptive)) (clientId : Bytes)
    (frames : List Frame) : Prop where
  returns : ∃ result, encoded = .ok result
  plain : ∃ plaintext body, batchPlaintext clientId frames = .ok plaintext ∧
    marshalBatch frames = .ok body ∧
    plaintext = batchFlagRaw :: (clientId ++ (bigEndian 2 frames.length ++ body)) ∧
    ∀ early frame late, frames = early ++ frame :: late →
      unpackFrom 4 plaintext
        (1 + ClientIDLen + 2 + (early.map fun f => 4 + encodedSize f).sum) = frame.encodedLen

def AsciiTargets (frames : List Frame) : Prop :=
  ∀ frame ∈ frames, ∀ point ∈ frame.target, point.val < 0x80

instance (frames : List Frame) : Decidable (AsciiTargets frames) :=
  -- the bounded quantifier over a code point would try every code point
  @List.decidableBAll _ (fun frame : Frame => ∀ point ∈ frame.target, point.val < 0x80)
    (fun frame => List.decidableBAll (fun point : CodePoint => point.val < 0x80) frame.target)
    frames

section Sizes

variable {frame : Frame} {frames : List Frame}

theorem ascii_iff_length (limits : WithinLimits frame) :
    frame.targetBytes.length = frame.target.length ↔ ∀ point ∈ frame.target, point.val < 0x80 :=
  encode_utf8_ascii frame.target frame.targetBytes limits.target

theorem ascii_iff_size (limits : WithinLimits frame) :
    marshalSize frame = encodedSize frame ↔ ∀ point ∈ frame.target, point.val < 0x80 := by
  rw [← ascii_iff_length limits, encoded_size_eq limits.target, marshalSize]
  omega

theorem marshal_size_bound (limits : WithinLimits frame) : marshalSize frame < 256 ^ 4 := by
  have characters := limits.marshallable.characters_le
  have bound := encoded_size_bound limits
  rw [encoded_size_eq limits.target] at bound
  rw [marshalSize]
  omega

/-- The two forms differ in the length prefixes only. -/
theorem wires_eq_iff (limits : ∀ frame ∈ frames, WithinLimits frame) :
    wires frames = plainWires frames ↔ AsciiTargets frames := by
  induction frames with
  | nil => exact iff_of_true rfl nofun
  | cons frame rest ih =>
      have first := limits frame List.mem_cons_self
      have others := ih fun other member => limits other (List.mem_cons_of_mem _ member)
      have split : AsciiTargets (frame :: rest) ↔
          (∀ point ∈ frame.target, point.val < 0x80) ∧ AsciiTargets rest :=
        List.forall_mem_cons
      rw [split, ← others, ← ascii_iff_size first]
      simp only [wires, plainWires, List.map_cons, List.flatten_cons, wire, plainWire,
        List.append_assoc]
      constructor
      · intro same
        obtain ⟨prefixes, tails⟩ := List.append_inj same (by simp)
        have sizes := congrArg readBigEndian prefixes
        rw [read_big_endian_of_lt 4 _ (marshal_size_bound first),
          read_big_endian_of_lt 4 _ (encoded_size_bound first)] at sizes
        exact ⟨sizes, List.append_cancel_left (List.append_cancel_left tails)⟩
      · rintro ⟨sizes, tails⟩
        rw [sizes, tails]

end Sizes

theorem encode_batch_with_ok_iff (rawForm : Bytes → Bytes) (prims : Primitives) (nonce : Nonce)
    (adaptive : Adaptive) (clientId : Bytes) (frames : List Frame) :
    (∃ result, encodeBatchWith rawForm prims nonce adaptive clientId frames = .ok result) ↔
      ∃ plaintext, batchPlaintext clientId frames = .ok plaintext := by
  constructor
  · rintro ⟨result, encoded⟩
    obtain ⟨plaintext, written, _⟩ := (bind_ok_iff _ _ _).mp encoded
    exact ⟨plaintext, written⟩
  · rintro ⟨plaintext, written⟩
    rw [encodeBatchWith, bind_ok written]
    exact ⟨_, rfl⟩

section Agree

variable {clientId : Bytes} {frames : List Frame}

theorem ascii_plaintext (idLength : clientId.length = ClientIDLen)
    (count : frames.length ≤ 0xFFFF) (limits : ∀ frame ∈ frames, WithinLimits frame)
    (ascii : AsciiTargets frames) :
    batchPlaintext clientId frames =
      .ok (batchFlagRaw :: (clientId ++ (bigEndian 2 frames.length ++ plainWires frames))) := by
  have ids : ∀ frame ∈ frames, frame.sessionId.length = SessionIDLen :=
    fun frame member => (limits frame member).idLength
  obtain ⟨plaintext, written⟩ := batch_plaintext_of_fits count idLength ids
    (fun frame member =>
      ⟨(limits frame member).marshallable, marshal_size_bound (limits frame member)⟩)
    (headers_fit_exact ids fun frame member =>
      (ascii_iff_length (limits frame member)).mpr (ascii frame member))
  obtain ⟨_, _, _, _, rfl⟩ := batch_plaintext_ok written ids
  rw [written, batchForm, (wires_eq_iff limits).mpr ascii]

/-- The prefix of a frame, found behind the frames before it. -/
theorem plain_prefix {early late : List Frame} {frame : Frame}
    (idLength : clientId.length = ClientIDLen)
    (limits : ∀ other ∈ early ++ frame :: late, WithinLimits other) (total : Nat) :
    unpackFrom 4
      (batchFlagRaw :: (clientId ++ (bigEndian 2 total ++ plainWires (early ++ frame :: late))))
      (1 + ClientIDLen + 2 + (early.map fun f => 4 + encodedSize f).sum) = frame.encodedLen := by
  have here : WithinLimits frame := limits frame (by simp)
  have passed : (plainWires early).length = (early.map fun f => 4 + encodedSize f).sum := by
    rw [plainWires, List.length_flatten, List.map_map]
    congr 1
    apply List.map_congr_left
    intro other member
    exact plain_wire_length (limits other (by simp [member]))
  have split : batchFlagRaw :: (clientId ++ (bigEndian 2 total ++
      plainWires (early ++ frame :: late))) =
        (batchFlagRaw :: (clientId ++ (bigEndian 2 total ++ plainWires early))) ++
          (bigEndian 4 (encodedSize frame) ++
            (frameHeader frame ++ (frame.payload ++ plainWires late))) := by
    simp [plainWires, plainWire]
  rw [split, encoded_len_ok here.target]
  apply unpack_from_at_cursor
  · simp only [List.length_cons, List.length_append, big_endian_length, idLength, passed]
    omega
  · exact encoded_size_bound here

theorem agrees_with_plain_iff (rawForm : Bytes → Bytes) (prims : Primitives) (nonce : Nonce)
    (adaptive : Adaptive) (idLength : clientId.length = ClientIDLen)
    (count : frames.length ≤ 0xFFFF) (limits : ∀ frame ∈ frames, WithinLimits frame) :
    AgreesWithPlain (encodeBatchWith rawForm prims nonce adaptive clientId frames) clientId
      frames ↔ AsciiTargets frames := by
  constructor
  · rintro ⟨_, plaintext, body, written, plain, same, _⟩
    have ids : ∀ frame ∈ frames, frame.sessionId.length = SessionIDLen :=
      fun frame member => (limits frame member).idLength
    obtain ⟨_, _, _, _, rfl⟩ := batch_plaintext_ok written ids
    rw [marshal_batch_ok limits] at plain
    cases plain
    apply (wires_eq_iff limits).mp
    exact List.append_cancel_left (List.append_cancel_left (List.cons.inj same).2)
  · intro ascii
    have written := ascii_plaintext idLength count limits ascii
    refine ⟨(encode_batch_with_ok_iff _ _ _ _ _ _).mpr ⟨_, written⟩, _, _, written,
      marshal_batch_ok limits, rfl, ?_⟩
    rintro early frame late rfl
    exact plain_prefix idLength limits _

/-- Both programs: the inline encoder agrees with `marshal_batch` exactly on the
lists of frames whose targets are ASCII. -/
theorem inline_encoder_agrees_iff (prims : Primitives) (nonce : Nonce) (adaptive : Adaptive)
    (idLength : clientId.length = ClientIDLen) (count : frames.length ≤ 0xFFFF)
    (limits : ∀ frame ∈ frames, WithinLimits frame) :
    (AgreesWithPlain (clientEncodeBatch prims nonce adaptive clientId frames) clientId frames ↔
      AsciiTargets frames) ∧
    (AgreesWithPlain (serverEncodeBatch prims nonce adaptive clientId frames) clientId frames ↔
      AsciiTargets frames) :=
  ⟨agrees_with_plain_iff clientRawForm prims nonce adaptive idLength count limits,
    agrees_with_plain_iff serverRawForm prims nonce adaptive idLength count limits⟩

end Agree

/-- A SYN for an ASCII host. -/
def plainFrame : Frame where
  sessionId := List.replicate SessionIDLen 9
  seq := 0
  flags := FlagSYN
  target := [97, 58, 56]
  payload := []

theorem plain_frame_limits : ∀ frame ∈ [plainFrame], WithinLimits frame := by
  intro frame member
  cases List.mem_singleton.mp member
  exact ⟨by decide, by decide, by decide, by decide, by rfl, by decide, by decide⟩

theorem plain_frame_agrees :
    AgreesWithPlain (clientEncodeBatch tagPrimitives zeroNonce ⟨0, false⟩
        (List.replicate ClientIDLen 7) [plainFrame]) (List.replicate ClientIDLen 7) [plainFrame] ∧
      AgreesWithPlain (serverEncodeBatch tagPrimitives zeroNonce ⟨0, false⟩
        (List.replicate ClientIDLen 7) [plainFrame]) (List.replicate ClientIDLen 7)
        [plainFrame] :=
  have agrees := inline_encoder_agrees_iff tagPrimitives zeroNonce ⟨0, false⟩
    (List.length_replicate (n := ClientIDLen) (a := (7 : UInt8))) (by decide) plain_frame_limits
  ⟨agrees.1.mpr (by decide), agrees.2.mpr (by decide)⟩

theorem accented_frame_limits : ∀ frame ∈ [accentedFrame], WithinLimits frame := by
  intro frame member
  cases List.mem_singleton.mp member
  exact ⟨by decide, by decide, by decide, by decide, by rfl, by decide, by decide⟩

/-- The frame `accentedFrame` is within the limits, but its length prefix counts
one byte less than its encoding has. -/
theorem accented_frame_disagrees :
    (∀ frame ∈ [accentedFrame], WithinLimits frame) ∧
      ¬ AgreesWithPlain (clientEncodeBatch tagPrimitives zeroNonce ⟨0, false⟩
        (List.replicate ClientIDLen 7) [accentedFrame]) (List.replicate ClientIDLen 7)
        [accentedFrame] := by
  refine ⟨accented_frame_limits, fun agrees => ?_⟩
  have ascii := (agrees_with_plain_iff clientRawForm tagPrimitives zeroNonce ⟨0, false⟩
    (by decide) (by decide) accented_frame_limits).mp agrees
  exact absurd ascii (by decide)

end Astrix
