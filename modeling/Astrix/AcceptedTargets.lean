import Astrix.DrainBudget
import Astrix.Targets
import Astrix.WorkerSurvival
import Mathlib.Data.Set.List

/-!
# Sending accepted targets

From a CONNECT request to the batch with its SYN. The parser bounds a domain in
bytes as they come, decoding may put a character of three bytes for one of
them, the length of a target has one byte on the wire and the buffer of a batch
is sized in characters.
-/

namespace Astrix

open PyRuntime SessionPool

set_option autoImplicit false

/-- What the proxy queues: the SYN for a request that the command handler took,
and chunks under the numbers of a counter. -/
inductive Outgoing where
  | syn (sid : Bytes) (idLength : sid.length = SessionIDLen) (buf : Bytes) (host : Text)
      (port : Nat) (taken : handleCommand buf = .connect host port)
  | data (sid : Bytes) (idLength : sid.length = SessionIDLen) (seq : Nat) (payload : Bytes)

namespace Outgoing

def frame : Outgoing → Frame
  | syn sid _ _ host port _ => synFrame sid (targetText host port)
  | data sid _ seq payload => dataFrame sid seq payload

/-- The bytes of the host, the colon and the port. -/
def targetLength : Outgoing → Nat
  | syn _ _ _ host port _ => utf8Length host + 1 + (decimalText port).length
  | data _ _ _ _ => 0

/-- How many bytes of the host the characters do not count. -/
def surplus : Outgoing → Nat
  | syn _ _ _ host _ _ => utf8Length host - host.length
  | data _ _ _ _ => 0

end Outgoing

def framesOf (sent : List Outgoing) : List Frame := sent.map Outgoing.frame

def surplusOf (sent : List Outgoing) : Nat := (sent.map Outgoing.surplus).sum

/-- Up to each frame, the surplus finds room in its payload and in what the
buffer has for the frames behind it. -/
def SurplusFits (sent : List Outgoing) : Prop :=
  ∀ (early late : List Outgoing) (o : Outgoing), sent = early ++ o :: late →
    surplusOf (early ++ [o]) ≤ o.frame.payload.length + framesSize (framesOf late)

/-- The SYNs are within the wire limit and the batch is encoded. -/
structure Sendable (prims : Primitives) (nonce : Nonce) (adaptive : Adaptive) (clientId : Bytes)
    (sent : List Outgoing) : Prop where
  targets : ∀ o ∈ sent, ∃ data, encodeUtf8 o.frame.target = .ok data ∧ data.length ≤ maxTargetLen
  encoded : ∃ result, clientEncodeBatch prims nonce adaptive clientId (framesOf sent) = .ok result

section Targets

/-- The host of a request that was taken has no lone surrogates. -/
theorem taken_host_scalars {buf : Bytes} {host : Text} {port : Nat}
    (taken : handleCommand buf = .connect host port) : NoSurrogates host := by
  obtain ⟨_, headerLen, parsed, _⟩ := command_taken taken
  unfold parseAddr at parsed
  split_ifs at parsed
  · cases parsed
    exact inet_ntoa_scalars _
  · cases parsed
    exact inet_ntop6_scalars _
  · dsimp only at parsed
    split_ifs at parsed
    cases parsed
    exact decode_from_scalars 0 _
  · cases parsed
    exact nil_scalars

theorem utf8_length_append (first second : Text) :
    utf8Length (first ++ second) = utf8Length first + utf8Length second := by
  rw [utf8Length, List.map_append, List.sum_append, utf8Length, utf8Length]

theorem length_le_utf8 {text : Text} (scalars : NoSurrogates text) :
    text.length ≤ utf8Length text := by
  obtain ⟨data, encoded, length⟩ := encode_utf8_scalars scalars
  exact length ▸ encode_utf8_length text data encoded

theorem decimal_utf8_length (number : Nat) :
    utf8Length (decimalText number) = (decimalText number).length := by
  have ones : (decimalText number).map (fun point => (utf8Form point).length) =
      (decimalText number).map fun _ => 1 := by
    apply List.map_congr_left
    intro point digit
    have range := decimal_point_range number digit
    exact (utf8_form_ascii point).mpr (by omega)
  rw [utf8Length, ones, List.map_const', List.sum_replicate_nat, Nat.mul_one]

theorem target_encodes (o : Outgoing) :
    encodeUtf8 o.frame.target = .ok o.frame.targetBytes ∧
      o.frame.targetBytes.length = o.targetLength ∧
      o.targetLength = o.frame.target.length + o.surplus := by
  have ofTarget : ∀ {length : Nat}, NoSurrogates o.frame.target →
      utf8Length o.frame.target = length →
        encodeUtf8 o.frame.target = .ok o.frame.targetBytes ∧
          o.frame.targetBytes.length = length := by
    intro length scalars same
    obtain ⟨data, encoded, size⟩ := encode_utf8_scalars scalars
    rw [target_bytes_of_ok encoded]
    exact ⟨encoded, size.trans same⟩
  cases o with
  | syn sid idLength buf host port taken =>
      have hostScalars := taken_host_scalars taken
      have characters := length_le_utf8 hostScalars
      have tail : utf8Length (colon :: decimalText port) = 1 + (decimalText port).length := by
        rw [← decimal_utf8_length port]
        rfl
      have portScalars : NoSurrogates (colon :: decimalText port) :=
        List.forall_mem_cons.mpr ⟨by decide, chars_scalars _⟩
      obtain ⟨encoded, size⟩ := ofTarget (hostScalars.append portScalars)
        ((utf8_length_append _ _).trans (congrArg (utf8Length host + ·) tail))
      refine ⟨encoded, size.trans (Nat.add_assoc _ _ _).symm, ?_⟩
      simp only [Outgoing.targetLength, Outgoing.surplus, Outgoing.frame, synFrame, targetText,
        List.length_append, List.length_cons]
      omega
  | data sid idLength seq payload =>
      obtain ⟨encoded, size⟩ := ofTarget nil_scalars rfl
      exact ⟨encoded, size, rfl⟩

theorem outgoing_id_length (o : Outgoing) : o.frame.sessionId.length = SessionIDLen := by
  cases o with
  | syn sid idLength buf host port taken => exact idLength
  | data sid idLength seq payload => exact idLength

theorem frames_ids (sent : List Outgoing) :
    ∀ frame ∈ framesOf sent, frame.sessionId.length = SessionIDLen := by
  intro frame member
  obtain ⟨o, _, rfl⟩ := List.mem_map.mp member
  exact outgoing_id_length o

theorem frames_encode (sent : List Outgoing) :
    ∀ frame ∈ framesOf sent, encodeUtf8 frame.target = .ok frame.targetBytes := by
  intro frame member
  obtain ⟨o, _, rfl⟩ := List.mem_map.mp member
  exact (target_encodes o).1

end Targets

section Room

/-- The headers fit a buffer if each one fits what the frames in front of it
leave. -/
theorem headers_fit_iff {frames : List Frame} {room : Nat} :
    HeadersFit room frames ↔ ∀ (early late : List Frame) (frame : Frame),
      frames = early ++ frame :: late →
        (wires early).length + (4 + (frameHeader frame).length) ≤ room := by
  induction frames generalizing room with
  | nil =>
      apply iff_of_true trivial
      intro early late frame split
      cases early <;> cases split
  | cons first rest ih =>
      rw [HeadersFit, ih]
      constructor
      · rintro ⟨fits, others⟩ early late frame split
        cases early with
        | nil =>
            cases split
            simpa [wires] using fits
        | cons head early =>
            cases split
            have later := others early late frame rfl
            simp only [wires, List.map_cons, List.flatten_cons, List.length_append] at later ⊢
            omega
      · intro all
        constructor
        · simpa [wires] using all [] rest first rfl
        · intro early late frame split
          have later := all (first :: early) late frame (by rw [split, List.cons_append])
          simp only [wires, List.map_cons, List.flatten_cons, List.length_append] at later ⊢
          omega

theorem outgoing_wire_length (o : Outgoing) :
    (wire o.frame).length = 4 + marshalSize o.frame + o.surplus := by
  obtain ⟨_, bytes, characters⟩ := target_encodes o
  rw [wire_length o.frame (outgoing_id_length o), bytes, characters, marshalSize]
  omega

theorem outgoing_header_length (o : Outgoing) :
    4 + (frameHeader o.frame).length + o.frame.payload.length =
      4 + marshalSize o.frame + o.surplus := by
  rw [← outgoing_wire_length, wire_length o.frame (outgoing_id_length o),
    frame_header_length o.frame (outgoing_id_length o)]

theorem outgoing_wires_length (sent : List Outgoing) :
    (wires (framesOf sent)).length = framesSize (framesOf sent) + surplusOf sent := by
  induction sent with
  | nil => rfl
  | cons o rest ih =>
      have first := outgoing_wire_length o
      simp only [wires, framesOf, framesSize, surplusOf, List.map_cons, List.flatten_cons,
        List.length_append, List.sum_cons] at ih ⊢
      omega

theorem frames_size_append (first second : List Frame) :
    framesSize (first ++ second) = framesSize first + framesSize second := by
  rw [framesSize, List.map_append, List.sum_append, framesSize, framesSize]

/-- A buffer sized in characters has room for the headers exactly if the surplus
fits. -/
theorem outgoing_headers_fit_iff (sent : List Outgoing) :
    HeadersFit (framesSize (framesOf sent)) (framesOf sent) ↔ SurplusFits sent := by
  have each : ∀ (early late : List Outgoing) (o : Outgoing), sent = early ++ o :: late →
      ((wires (framesOf early)).length + (4 + (frameHeader o.frame).length) ≤
          framesSize (framesOf sent) ↔
        surplusOf (early ++ [o]) ≤ o.frame.payload.length + framesSize (framesOf late)) := by
    rintro early late o rfl
    have header := outgoing_header_length o
    have front := outgoing_wires_length early
    have total : framesSize (framesOf (early ++ o :: late)) =
        framesSize (framesOf early) + (4 + marshalSize o.frame + framesSize (framesOf late)) := by
      rw [framesOf, List.map_append, frames_size_append]
      rfl
    have carried : surplusOf (early ++ [o]) = surplusOf early + o.surplus := by
      simp [surplusOf]
    omega
  rw [headers_fit_iff]
  constructor
  · intro fits early late o split
    refine (each early late o split).mp (fits _ (framesOf late) o.frame ?_)
    rw [split, framesOf, List.map_append]
    rfl
  · intro fits early late frame split
    obtain ⟨front, behind, rfl, rfl, tail⟩ := List.map_eq_append_iff.mp split
    obtain ⟨o, back, rfl, rfl, rfl⟩ := List.map_eq_cons_iff.mp tail
    exact (each front back o rfl).mpr (fits front back o rfl)

/-- Where every host is ASCII nothing has to find room. -/
theorem no_surplus_fits {sent : List Outgoing} (none : ∀ o ∈ sent, o.surplus = 0) :
    SurplusFits sent := by
  rintro early late o rfl
  have nothing : surplusOf (early ++ [o]) = 0 := by
    rw [surplusOf, List.sum_eq_zero_iff_forall_eq_nat]
    intro surplus member
    obtain ⟨other, queued, rfl⟩ := List.mem_map.mp member
    rcases List.mem_append.mp queued with front | last
    · exact none other (List.mem_append_left _ front)
    · rw [List.mem_singleton.mp last]
      exact none o (List.mem_append_right _ List.mem_cons_self)
  rw [nothing]
  exact Nat.zero_le _

end Room

section Batch

/-- In a batch within the drain budget a frame has the ranges that the writer
needs if its target and its number have. -/
theorem outgoing_batchable {o : Outgoing} (small : encodedSize o.frame ≤ MaxFramePayload)
    (target : o.targetLength ≤ maxTargetLen) (seq : o.frame.seq < 256 ^ 8) :
    Batchable o.frame := by
  obtain ⟨encodes, bytes, characters⟩ := target_encodes o
  have size := encoded_size_eq encodes
  simp only [MaxFramePayload] at small
  have counter : 0 ≤ o.frame.seq := by
    cases o with
    | syn sid idLength buf host port taken => exact Int.le_refl 0
    | data sid idLength count payload => exact Int.natCast_nonneg count
  refine ⟨⟨encodes, ?_, counter, seq, ?_⟩, ?_⟩
  · rw [bytes]
    exact Nat.lt_succ_of_le target
  · omega
  · rw [marshalSize]
    omega

theorem outgoing_encodable_iff {sent : List Outgoing}
    (drained : encodedTotal (framesOf sent) ≤ MaxFramePayload) :
    Encodable (framesOf sent) ↔
      (∀ o ∈ sent, o.targetLength ≤ maxTargetLen) ∧ (∀ o ∈ sent, o.frame.seq < 256 ^ 8) ∧
        SurplusFits sent := by
  rw [← outgoing_headers_fit_iff]
  constructor
  · rintro ⟨_, fields, headers⟩
    have each : ∀ o ∈ sent, Marshallable o.frame :=
      fun o member => (fields o.frame (List.mem_map_of_mem member)).fields
    have targets : ∀ o ∈ sent, o.targetLength ≤ maxTargetLen := by
      intro o member
      rw [← (target_encodes o).2.1]
      exact Nat.le_of_lt_succ (each o member).targetLength
    exact ⟨targets, fun o member => (each o member).seqUpper, headers⟩
  · rintro ⟨targets, seqs, headers⟩
    constructor
    · have thirty := frames_at_least_thirty (frames_encode sent)
      simp only [MaxFramePayload] at drained
      omega
    · intro frame member
      obtain ⟨o, queued, rfl⟩ := List.mem_map.mp member
      exact outgoing_batchable ((encoded_size_le_total member).trans drained) (targets o queued)
        (seqs o queued)
    · exact headers

/-- The queues hold what the proxy queues. -/
abbrev QueuesOutgoing (pool : SessionPool) : Prop :=
  pool.Holds (fun _ frame => ∃ o : Outgoing, o.frame = frame) AnyFrame

/-- A request that was taken opens a session with its SYN. -/
theorem open_outgoing {pool : SessionPool} {sid buf : Bytes} {host : Text} {port : Nat}
    (queued : QueuesOutgoing pool) (idLength : sid.length = SessionIDLen)
    (taken : handleCommand buf = .connect host port) (now : ℚ) :
    QueuesOutgoing (VirtualConn.openSession pool sid (targetText host port) now).1 :=
  open_holds sid (targetText host port) now queued ⟨.syn sid idLength buf host port taken, rfl⟩

/-- What is drained from such queues is such a batch. -/
theorem drained_outgoing {pool : SessionPool} (queued : QueuesOutgoing pool)
    (batchSize workerId : Nat) (now : ℚ) :
    (drainAll pool batchSize workerId now).failed = none ∧
      ∃ sent, framesOf sent = (drainAll pool batchSize workerId now).frames ∧
        encodedTotal (framesOf sent) ≤ MaxFramePayload := by
  have encodable : pool.Holds EncodableTarget AnyFrame := by
    apply queued.weaken
    · rintro sid frame ⟨o, rfl⟩
      exact (target_encodes o).1
    · exact fun _ _ any => any
  have measured := drain_all_measured pool batchSize workerId now
  refine ⟨drain_all_returns encodable batchSize workerId now, ?_⟩
  have each : ∀ frame ∈ (drainAll pool batchSize workerId now).frames,
      ∃ o : Outgoing, o.frame = frame := by
    intro frame member
    obtain ⟨_, _, outgoing⟩ := (drain_all_holds queued batchSize workerId now).2 frame member
    exact outgoing
  obtain ⟨sent, same⟩ : (drainAll pool batchSize workerId now).frames ∈
      Set.range (List.map Outgoing.frame) := by
    rw [Set.range_list_map]
    exact each
  exact ⟨sent, same, by rw [framesOf, same]; exact measured.size ▸ measured.budget⟩

end Batch

/-- A batch within the drain budget can be sent exactly if every target fits its
length byte, every number of a chunk eight bytes and the surplus the buffer. -/
theorem sendable_iff (prims : Primitives) (nonce : Nonce) (adaptive : Adaptive)
    {clientId : Bytes} (idLength : clientId.length = ClientIDLen) {sent : List Outgoing}
    (drained : encodedTotal (framesOf sent) ≤ MaxFramePayload) :
    Sendable prims nonce adaptive clientId sent ↔
      (∀ o ∈ sent, o.targetLength ≤ maxTargetLen) ∧ (∀ o ∈ sent, o.frame.seq < 256 ^ 8) ∧
        SurplusFits sent := by
  have encodes := client_encode_ok_iff prims nonce adaptive idLength (frames_ids sent)
  have exact := outgoing_encodable_iff drained
  constructor
  · intro sendable
    exact exact.mp (encodes.mp sendable.encoded)
  · intro fits
    constructor
    · intro o member
      obtain ⟨target, bytes, _⟩ := target_encodes o
      exact ⟨_, target, bytes ▸ fits.1 o member⟩
    · exact encodes.mpr (exact.mpr fits)

/-- The request for `name` on port 80, with its SYN. -/
def domainSyn (size : UInt8) (name : Bytes) (length : name.length = size.toNat) : Outgoing :=
  .syn (List.replicate SessionIDLen 7) rfl
    (ConnectRequest.bytes ⟨0, .domain size name length, [0, 80], rfl⟩ ++ [])
    (decodeReplace name) 80 (command_takes_request ⟨0, .domain size name length, [0, 80], rfl⟩ [])

/-- A domain of two letters, and a chunk. -/
theorem short_domain_sendable : Sendable tagPrimitives zeroNonce ⟨0, false⟩
    (List.replicate ClientIDLen 7)
    [domainSyn 2 [0x61, 0x62] rfl, .data (List.replicate SessionIDLen 7) rfl 0 [1, 2]] :=
  (sendable_iff tagPrimitives zeroNonce ⟨0, false⟩ rfl (by decide +kernel)).mpr
    ⟨by decide +kernel, by decide +kernel, no_surplus_fits (by decide +kernel)⟩

/-- One letter of two bytes: the length of the batch's last header does not fit. -/
theorem wide_domain_raises :
    ¬ ∀ (prims : Primitives) (nonce : Nonce) (adaptive : Adaptive) (clientId : Bytes),
      clientId.length = ClientIDLen → ∀ sent : List Outgoing,
        encodedTotal (framesOf sent) ≤ MaxFramePayload →
          Sendable prims nonce adaptive clientId sent := by
  intro sendable
  obtain ⟨result, encoded⟩ := (sendable tagPrimitives zeroNonce ⟨0, false⟩
    (List.replicate ClientIDLen 7) rfl [domainSyn 2 [0xc3, 0xa9] rfl] (by decide +kernel)).encoded
  have raised : clientEncodeBatch tagPrimitives zeroNonce ⟨0, false⟩
      (List.replicate ClientIDLen 7) (framesOf [domainSyn 2 [0xc3, 0xa9] rfl]) =
        .error .structError := by decide +kernel
  rw [raised] at encoded
  cases encoded

end Astrix
