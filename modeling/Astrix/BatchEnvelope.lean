import Astrix.Library.Base64
import Astrix.WireFrame

/-!
# The sealed batch envelope

`crypto.py` of both programs. The AEAD, Zstandard and raw deflate calls are
parameters; what the envelope relies on is collected in `Primitives.Lawful`.
What the call of `AESGCM.generate_nonce` does and the adaptive-compression globals
are arguments. The two copies of `encode_batch` share the plaintext writer and differ in how they
rebuild the uncompressed seal input.
-/

namespace Astrix

open PyRuntime

set_option autoImplicit false

def batchFlagRaw : UInt8 := 0
def batchFlagFlate : UInt8 := 1
def batchFlagZstd : UInt8 := 2

def compressMinSize : Nat := 512
def skipCompressionAfter : Nat := 3
def recheckAfter : Nat := 10

/-- Third-party calls under one tunnel key; `none` is the library's own
exception. -/
structure Primitives where
  encrypt : Bytes → Bytes → Bytes
  decrypt : Bytes → Bytes → Option Bytes
  compress : Bytes → Bytes
  decompress : Bytes → Option Bytes
  inflate : Bytes → Option Bytes

abbrev Nonce := {nonce : Bytes // nonce.length = 12}

structure Primitives.Lawful (prims : Primitives) : Prop where
  decrypt_encrypt : ∀ (nonce : Nonce) (plain : Bytes),
    prims.decrypt nonce.val (prims.encrypt nonce.val plain) = some plain
  tag_length : ∀ (nonce : Nonce) (plain : Bytes),
    16 ≤ (prims.encrypt nonce.val plain).length
  decompress_compress : ∀ data, prims.decompress (prims.compress data) = some data

/-- What `AESGCM.generate_nonce()` does: it returns a nonce or raises. A package
without that name raises `AttributeError`. -/
abbrev NonceCall := Except PyError Nonce

/-- A nonce in the place of the call is a call that returns it. -/
instance : Coe Nonce NonceCall := ⟨.ok⟩

/-- `nonce + ct`. -/
def sealedUnder (prims : Primitives) (nonce : Nonce) (plaintext : Bytes) : Bytes :=
  nonce.val ++ prims.encrypt nonce.val plaintext

/-- `Crypto.seal`. -/
def sealEnvelope (prims : Primitives) (nonce : NonceCall) (plaintext : Bytes) :
    Except PyError Bytes := do
  let nonce ← nonce
  return sealedUnder prims nonce plaintext

/-- `Crypto.open`. -/
def openEnvelope (prims : Primitives) (envelope : Bytes) : Except PyError Bytes :=
  if envelope.length < 12 + 16 then .error (.valueError "crypto: envelope too short")
  else
    match prims.decrypt (envelope.take 12) (envelope.drop 12) with
    | some plaintext => .ok plaintext
    | none => .error .invalidTag

/-- `_adaptive_skip_counter` and `_adaptive_skip_active`. -/
structure Adaptive where
  skipCounter : Nat
  skipActive : Bool
  deriving DecidableEq, Repr

def shouldCompress (adaptive : Adaptive) (rawSize : Nat) : Bool :=
  rawSize - 1 ≥ compressMinSize &&
    (!adaptive.skipActive || adaptive.skipCounter % recheckAfter == 0)

/-- Chooses what is sealed. `raw` is the uncompressed form with the raw flag,
which the two programs build differently. -/
def chooseSealInput (prims : Primitives) (adaptive : Adaptive) (plaintext raw : Bytes) :
    Bytes × Adaptive :=
  let rawSize := plaintext.length
  if shouldCompress adaptive rawSize then
    let compressedFull := batchFlagZstd :: prims.compress (plaintext.drop 1)
    if compressedFull.length < rawSize then
      (compressedFull, { skipCounter := 0, skipActive := false })
    else
      let counter := adaptive.skipCounter + 1
      (raw, { skipCounter := counter
              skipActive := if counter ≥ skipCompressionAfter then true
                else adaptive.skipActive })
  else
    (raw, if adaptive.skipActive then
        { adaptive with skipCounter := adaptive.skipCounter + 1 }
      else adaptive)

def writeFrame (state : Bytes × Nat) (frame : Frame) : Except PyError (Bytes × Nat) := do
  let (buf, off) := state
  let flen := marshalSize frame
  let buf ← packInto 4 buf off flen
  let off := off + 4
  let (buf, written) ← marshalInto buf off frame
  let off := off + written
  if frame.payload ≠ [] then
    return (assignSlice buf off (off + frame.payload.length) frame.payload,
      off + frame.payload.length)
  else return (buf, off)

def framesSize (frames : List Frame) : Nat := (frames.map fun f => 4 + marshalSize f).sum

/-- The part of `encode_batch` that fills the pre-sized buffer. -/
def batchPlaintext (clientId : Bytes) (frames : List Frame) : Except PyError Bytes := do
  let nframes := frames.length
  raiseIf (nframes > 0xFFFF) (.valueError s!"batch: too many frames: {nframes}")
  let idLength := clientId.length
  raiseIf (idLength ≠ ClientIDLen)
    (.valueError s!"client_id must be {ClientIDLen} bytes, got {idLength}")
  let headerSize := 1 + ClientIDLen + 2
  let plainSize := headerSize + framesSize frames
  let buf := List.replicate plainSize 0
  let off := 0
  let buf ← assignByte buf off 0
  let off := off + 1
  let buf := assignSlice buf off (off + ClientIDLen) clientId
  let off := off + ClientIDLen
  let buf ← packInto 2 buf off nframes
  let off := off + 2
  let (buf, _) ← frames.foldlM writeFrame (buf, off)
  return buf

def encodeBatchWith (rawForm : Bytes → Bytes) (prims : Primitives) (nonce : NonceCall)
    (adaptive : Adaptive) (clientId : Bytes) (frames : List Frame) :
    Except PyError (Bytes × Adaptive) := do
  let plaintext ← batchPlaintext clientId frames
  let (sealInput, adaptive) := chooseSealInput prims adaptive plaintext (rawForm plaintext)
  let envelope ← sealEnvelope prims nonce sealInput
  return (encodeBase64 envelope, adaptive)

/-- The client rebuilds the raw form as `b"\x00" + plaintext[1:]`. -/
def clientRawForm (plaintext : Bytes) : Bytes := batchFlagRaw :: plaintext.drop 1

/-- The server sets `buf[0]` and copies the buffer. -/
def serverRawForm (buf : Bytes) : Bytes := buf.set 0 batchFlagRaw

def clientEncodeBatch := encodeBatchWith clientRawForm

def serverEncodeBatch := encodeBatchWith serverRawForm

def hexByte (byte : UInt8) : String :=
  String.ofList [Nat.digitChar (byte.toNat / 16), Nat.digitChar (byte.toNat % 16)]

/-- Undoes the compression named by the flags byte. -/
def openPlaintext (prims : Primitives) (rawPlain : Bytes) : Except PyError Bytes :=
  match rawPlain with
  | [] => .error (.valueError "batch: empty plaintext")
  | flagsByte :: body =>
      if flagsByte = batchFlagRaw then .ok body
      else if flagsByte = batchFlagFlate then
        match prims.inflate body with
        | some plaintext => .ok plaintext
        | none => .error .zlibError
      else if flagsByte = batchFlagZstd then
        match prims.decompress body with
        | some plaintext => .ok plaintext
        | none => .error .zstdError
      else
        let shown := hexByte flagsByte
        .error (.valueError s!"batch: unknown flags byte 0x{shown}")

/-- One round of the decoder's loop: the frame at `off` and the next offset.
The declared length is checked against the end of the plaintext and then not
used again. -/
def decodeFrame (plaintext : Bytes) (off : Nat) : Except PyError (Frame × Nat) := do
  raiseIf (plaintext.length < off + 4) (.valueError "batch: short frame length")
  let flen ← unpackFrom 4 plaintext off
  let off := off + 4
  raiseIf (plaintext.length < off + flen) (.valueError "batch: short frame body")
  let sid := slice plaintext off (off + SessionIDLen)
  let seq ← unpackFrom 8 plaintext (off + SessionIDLen)
  let flags ← byteAt plaintext (off + SessionIDLen + 8)
  let tlen ← byteAt plaintext (off + SessionIDLen + 8 + 1)
  let targetOff := off + SessionIDLen + 8 + 1 + 1
  let target := decodeReplace (slice plaintext targetOff (targetOff + tlen))
  let plenOff := targetOff + tlen
  let plen ← unpackFrom 4 plaintext plenOff
  let payloadOff := plenOff + 4
  let payload := slice plaintext payloadOff (payloadOff + plen)
  return ({ sessionId := sid, seq := seq, flags := flags, target := target,
            payload := payload }, payloadOff + plen)

def decodeFrames (plaintext : Bytes) : Nat → Nat → Except PyError (List Frame)
  | 0, _ => .ok []
  | count + 1, off => do
      let (frame, off) ← decodeFrame plaintext off
      let frames ← decodeFrames plaintext count off
      return frame :: frames

def decodePlaintext (plaintext : Bytes) : Except PyError (Bytes × List Frame) := do
  raiseIf (plaintext.length < ClientIDLen + 2) (.valueError "batch: short header")
  let clientId := slice plaintext 0 ClientIDLen
  let count ← unpackFrom 2 plaintext ClientIDLen
  let frames ← decodeFrames plaintext count (ClientIDLen + 2)
  return (clientId, frames)

/-- The sealed part of a body, opened under the tunnel key. -/
def openBody (prims : Primitives) (body : Bytes) : Except PyError Bytes := do
  let sealed ← decodeBase64 body
  openEnvelope prims sealed

def zeroId : Bytes := List.replicate ClientIDLen 0

/-- `decode_batch`, the same in both programs. -/
def decodeBatch (prims : Primitives) (body : Bytes) : Except PyError (Bytes × List Frame) :=
  if body = [] then .ok (zeroId, [])
  else do
    let rawPlain ← openBody prims body
    let plaintext ← openPlaintext prims rawPlain
    decodePlaintext plaintext

theorem seal_returned (prims : Primitives) (nonce : Nonce) (plaintext : Bytes) :
    sealEnvelope prims nonce plaintext = .ok (sealedUnder prims nonce plaintext) := rfl

theorem open_seal {prims : Primitives} (lawful : prims.Lawful) (nonce : Nonce)
    (plaintext : Bytes) : openEnvelope prims (sealedUnder prims nonce plaintext) =
      .ok plaintext := by
  have tag := lawful.tag_length nonce plaintext
  have long : ¬ (sealedUnder prims nonce plaintext).length < 12 + 16 := by
    simp only [sealedUnder, List.length_append, nonce.property]
    omega
  have nonceLength := nonce.property
  have head : (sealedUnder prims nonce plaintext).take 12 = nonce.val := by
    rw [sealedUnder, List.take_left' nonceLength]
  have body : (sealedUnder prims nonce plaintext).drop 12 =
      prims.encrypt nonce.val plaintext := by
    rw [sealedUnder, List.drop_left' nonceLength]
  rw [openEnvelope, if_neg long, head, body, lawful.decrypt_encrypt]

theorem open_body_encoded {prims : Primitives} (lawful : prims.Lawful) (nonce : Nonce)
    (sealInput : Bytes) :
    openBody prims (encodeBase64 (sealedUnder prims nonce sealInput)) = .ok sealInput := by
  rw [openBody, bind_ok (decode_encode_base64 _), open_seal lawful]

/-- A body of fewer than 38 bytes cannot hold a nonce and a tag. -/
theorem short_body_rejected (prims : Primitives) (body : Bytes) (short : body.length < 38)
    (plaintext : Bytes) : openBody prims body ≠ .ok plaintext := by
  intro opened
  obtain ⟨sealed, decoded, opened⟩ := (bind_ok_iff _ _ _).mp opened
  have bound := decode_base64_length body sealed decoded
  have tooShort : sealed.length < 12 + 16 := by omega
  rw [openEnvelope, if_pos tooShort] at opened
  cases opened

theorem decode_batch_opens {prims : Primitives} {body : Bytes} {decoded : Bytes × List Frame}
    (nonempty : body ≠ []) (accepted : decodeBatch prims body = .ok decoded) :
    ∃ plaintext, openBody prims body = .ok plaintext := by
  rw [decodeBatch, if_neg nonempty] at accepted
  obtain ⟨rawPlain, opened, _⟩ := (bind_ok_iff _ _ _).mp accepted
  exact ⟨rawPlain, opened⟩

/-- Stand-ins with the sizes of the real calls: a sixteen-byte tag that must be
intact, and a compressor that never shrinks its input. -/
def tagPrimitives : Primitives where
  encrypt _ plain := plain ++ List.replicate 16 0
  decrypt _ sealed :=
    if sealed.drop (sealed.length - 16) = List.replicate 16 0 then
      some (sealed.take (sealed.length - 16))
    else none
  compress data := data
  decompress data := some data
  inflate _ := none

def zeroNonce : Nonce := ⟨List.replicate 12 0, rfl⟩

theorem tag_primitives_lawful : tagPrimitives.Lawful where
  decrypt_encrypt nonce plain := by simp [tagPrimitives]
  tag_length nonce plain := by simp [tagPrimitives]
  decompress_compress data := rfl

end Astrix
