import Astrix.Library.ByteBuffer

/-!
# Base64 as the Python runtime does it

`decodeBase64` is the non-strict decoder: bytes outside the alphabet are
skipped, padding ends the input once the current group can be closed, and only
an unfinished last group is an error. It therefore accepts much more than the
encoder produces; the output can never be longer than three bytes for every
four input bytes.
-/

namespace PyRuntime

set_option autoImplicit false

def padByte : UInt8 := 61

/-- The alphabet, by digit value. -/
def base64Char (digit : Nat) : UInt8 :=
  if digit < 26 then UInt8.ofNat (65 + digit)
  else if digit < 52 then UInt8.ofNat (71 + digit)
  else if digit < 62 then UInt8.ofNat (digit - 4)
  else if digit = 62 then 43
  else 47

def base64Digit (byte : UInt8) : Option Nat :=
  let value := byte.toNat
  if 65 ≤ value ∧ value < 91 then some (value - 65)
  else if 97 ≤ value ∧ value < 123 then some (value - 71)
  else if 48 ≤ value ∧ value < 58 then some (value + 4)
  else if value = 43 then some 62
  else if value = 47 then some 63
  else none

theorem base64_digit_char (digit : Nat) (bound : digit < 64) :
    base64Digit (base64Char digit) = some digit := by
  have table : ∀ index : Fin 64, base64Digit (base64Char index.val) = some index.val := by
    decide
  exact table ⟨digit, bound⟩

theorem base64_char_not_pad (digit : Nat) (bound : digit < 64) :
    base64Char digit ≠ padByte := by
  have table : ∀ index : Fin 64, base64Char index.val ≠ padByte := by decide
  exact table ⟨digit, bound⟩

/-- `base64.b64encode(data)`. -/
def encodeBase64 : Bytes → Bytes
  | [] => []
  | [a] => [base64Char (a.toNat / 4), base64Char (a.toNat % 4 * 16), padByte, padByte]
  | [a, b] =>
      [base64Char (a.toNat / 4), base64Char (a.toNat % 4 * 16 + b.toNat / 16),
        base64Char (b.toNat % 16 * 4), padByte]
  | a :: b :: c :: rest =>
      base64Char (a.toNat / 4) :: base64Char (a.toNat % 4 * 16 + b.toNat / 16) ::
        base64Char (b.toNat % 16 * 4 + c.toNat / 64) :: base64Char (c.toNat % 64) ::
          encodeBase64 rest

/-- The decoder's position in the current group of four digits, with the bits
carried over from the last digit. -/
inductive Quad where
  | zero
  | one (left : Nat)
  | two (left : Nat)
  | three (left : Nat)
  deriving DecidableEq, Repr

def Quad.position : Quad → Nat
  | .zero => 0
  | .one _ => 1
  | .two _ => 2
  | .three _ => 3

/-- Quarter bytes read in the current group and not yet put out. -/
def Quad.credit : Quad → Nat
  | .zero => 0
  | .one _ => 3
  | .two _ => 2
  | .three _ => 1

/-- Feeding one digit: the byte completed by it, if any, and the new position. -/
def Quad.feed (quad : Quad) (digit : Nat) : Option UInt8 × Quad :=
  match quad with
  | .zero => (none, .one digit)
  | .one left => (some (UInt8.ofNat (left * 4 + digit / 16)), .two (digit % 16))
  | .two left => (some (UInt8.ofNat (left * 16 + digit / 4)), .three (digit % 4))
  | .three left => (some (UInt8.ofNat (left * 64 + digit)), .zero)

def decodeBase64From : Quad → Nat → Bytes → Except PyError Bytes
  | .zero, _, [] => .ok []
  | _, _, [] => .error .binasciiError
  | quad, pads, byte :: rest =>
      if byte = padByte then
        if 2 ≤ quad.position ∧ 4 ≤ quad.position + (pads + 1) then .ok []
        else if 2 ≤ quad.position then decodeBase64From quad (pads + 1) rest
        else decodeBase64From quad pads rest
      else
        match base64Digit byte with
        | none => decodeBase64From quad pads rest
        | some digit =>
            (decodeBase64From (quad.feed digit).2 0 rest).map
              ((quad.feed digit).1.toList ++ ·)

/-- `base64.b64decode(data)`. -/
def decodeBase64 (data : Bytes) : Except PyError Bytes := decodeBase64From .zero 0 data

theorem decode_base64_digit (quad : Quad) (pads digit : Nat) (bound : digit < 64)
    (rest : Bytes) :
    decodeBase64From quad pads (base64Char digit :: rest) =
      (decodeBase64From (quad.feed digit).2 0 rest).map ((quad.feed digit).1.toList ++ ·) := by
  simp [decodeBase64From, base64_char_not_pad digit bound, base64_digit_char digit bound]

theorem decode_encode_base64 (data : Bytes) : decodeBase64 (encodeBase64 data) = .ok data := by
  have same (byte : UInt8) (number : Nat) (value : number = byte.toNat) :
      UInt8.ofNat number = byte := by
    rw [value, UInt8.ofNat_toNat]
  unfold decodeBase64
  suffices whole : ∀ pads, decodeBase64From .zero pads (encodeBase64 data) = .ok data from
    whole 0
  intro pads
  induction data using encodeBase64.induct generalizing pads with
  | case1 => rfl
  | case2 a =>
      have bound := a.toNat_lt
      rw [encodeBase64, decode_base64_digit _ _ _ (by omega), Quad.feed,
        decode_base64_digit _ _ _ (by omega), Quad.feed]
      simp only [decodeBase64From, Quad.position, Except.map, if_true, if_false,
        Option.toList, List.nil_append, List.append_nil, Nat.le_refl, true_and, Nat.reduceAdd,
        Nat.reduceLeDiff, Except.ok.injEq]
      rw [same a _ (by omega)]
  | case3 a b =>
      have boundA := a.toNat_lt
      have boundB := b.toNat_lt
      rw [encodeBase64, decode_base64_digit _ _ _ (by omega), Quad.feed,
        decode_base64_digit _ _ _ (by omega), Quad.feed,
        decode_base64_digit _ _ _ (by omega), Quad.feed]
      simp only [decodeBase64From, Quad.position, Except.map, if_true,
        Option.toList, List.nil_append, List.append_nil, Nat.reduceAdd, Nat.reduceLeDiff,
        and_self, Except.ok.injEq, List.cons_append]
      rw [same a _ (by omega), same b _ (by omega)]
  | case4 a b c rest ih =>
      have boundA := a.toNat_lt
      have boundB := b.toNat_lt
      have boundC := c.toNat_lt
      rw [encodeBase64, decode_base64_digit _ _ _ (by omega), Quad.feed,
        decode_base64_digit _ _ _ (by omega), Quad.feed,
        decode_base64_digit _ _ _ (by omega), Quad.feed,
        decode_base64_digit _ _ _ (by omega), Quad.feed, ih 0]
      simp only [Except.map, Option.toList, List.nil_append, List.cons_append]
      rw [same a _ (by omega), same b _ (by omega), same c _ (by omega)]

/-- Each completed byte is paid for by the digits read since the group began. -/
theorem decode_base64_from_length (quad : Quad) (pads : Nat) (data output : Bytes)
    (decoded : decodeBase64From quad pads data = .ok output) :
    4 * output.length ≤ 3 * data.length + quad.credit := by
  induction data generalizing quad pads output with
  | nil =>
      cases quad <;> simp only [decodeBase64From, Except.ok.injEq, reduceCtorEq] at decoded
      subst decoded
      simp
  | cons byte rest ih =>
      simp only [decodeBase64From] at decoded
      split_ifs at decoded with pad closed inner
      · cases decoded
        simp
      · have bound := ih quad (pads + 1) output decoded
        simp only [List.length_cons]
        omega
      · have bound := ih quad pads output decoded
        simp only [List.length_cons]
        omega
      · cases digitRead : base64Digit byte with
        | none =>
            rw [digitRead] at decoded
            have bound := ih quad pads output decoded
            simp only [List.length_cons]
            omega
        | some digit =>
            rw [digitRead] at decoded
            dsimp only at decoded
            cases restDecoded : decodeBase64From (quad.feed digit).2 0 rest with
            | error failure => simp [restDecoded, Except.map] at decoded
            | ok tail =>
                have bound := ih (quad.feed digit).2 0 tail restDecoded
                simp only [restDecoded, Except.map, Except.ok.injEq] at decoded
                subst decoded
                cases quad <;> simp [Quad.feed, Quad.credit] at bound ⊢ <;> omega

theorem decode_base64_length (data output : Bytes)
    (decoded : decodeBase64 data = .ok output) : 4 * output.length ≤ 3 * data.length := by
  simpa [Quad.credit] using decode_base64_from_length .zero 0 data output decoded

theorem encode_base64_nonempty (data : Bytes) (nonempty : data ≠ []) :
    encodeBase64 data ≠ [] := by
  cases data using encodeBase64.fun_cases <;> simp_all [encodeBase64]

end PyRuntime
