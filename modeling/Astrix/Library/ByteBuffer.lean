import Mathlib.Algebra.Group.Int.Defs
import Mathlib.Algebra.GroupWithZero.Nat
import Mathlib.Data.List.Basic

/-!
# Byte strings, growing buffers and big-endian words

Python `bytes` and `bytearray` as lists of bytes. Slice assignment follows the
runtime: bounds are clamped to the buffer and the buffer may change length.
`struct.pack_into` and item assignment never change the length and fail past
the end. The cursor lemmas state each write on a buffer that is split at the
write offset.
-/

namespace PyRuntime

set_option autoImplicit false

abbrev Bytes := List UInt8

/-- The exception classes the modelled code can meet. Only errors raised by
the program itself carry their text. -/
inductive PyError where
  | valueError (message : String)
  | indexError
  | overflowError
  | attributeError
  | structError
  | unicodeEncodeError
  | unicodeDecodeError
  | binasciiError
  | invalidTag
  | zstdError
  | zlibError
  deriving DecidableEq, Repr

/-- The classes below `ValueError` in the exception hierarchy. -/
def PyError.isValueError : PyError → Bool
  | .valueError _ | .unicodeEncodeError | .unicodeDecodeError | .binasciiError => true
  | _ => false

/-- A computation in sequence returns a value only through a value of its first
part; the proofs about fallible code peel it apart with this. -/
theorem bind_ok_iff {ε α β : Type} (first : Except ε α) (next : α → Except ε β)
    (result : β) :
    (first >>= next) = .ok result ↔ ∃ value, first = .ok value ∧ next value = .ok result := by
  cases first <;> simp [bind, Except.bind]

theorem bind_error_iff {ε α β : Type} (first : Except ε α) (next : α → Except ε β) (error : ε) :
    (first >>= next) = .error error ↔
      first = .error error ∨ ∃ value, first = .ok value ∧ next value = .error error := by
  cases first <;> simp [bind, Except.bind]

theorem bind_ok {α β : Type} {first : Except PyError α} {next : α → Except PyError β}
    {value : α} (done : first = .ok value) : (first >>= next) = next value := by
  rw [done]
  rfl

/-- `if condition: raise error`. -/
def raiseIf (condition : Prop) [Decidable condition] (error : PyError) : Except PyError Unit :=
  if condition then .error error else .ok ()

theorem raise_if_ok_iff (condition : Prop) [Decidable condition] (error : PyError)
    (result : Unit) : raiseIf condition error = .ok result ↔ ¬condition := by
  unfold raiseIf
  split_ifs with holds <;> simp [holds]

theorem raise_if_error {condition : Prop} [Decidable condition] {error raised : PyError}
    (failed : raiseIf condition error = .error raised) : raised = error := by
  unfold raiseIf at failed
  split_ifs at failed
  exact (Except.error.inj failed).symm

theorem raise_if_not {condition : Prop} [Decidable condition] {error : PyError}
    (fails : ¬condition) : raiseIf condition error = .ok () :=
  if_neg fails

theorem byte_of_small {number : Nat} (small : number < 256) :
    (UInt8.ofNat number).toNat = number := by
  rw [UInt8.toNat_ofNat']
  exact Nat.mod_eq_of_lt small

/-- Unsigned big-endian encoding of `value` in `width` bytes, truncated to the
width as `value % 256 ^ width`. -/
def bigEndian : Nat → Nat → Bytes
  | 0, _ => []
  | width + 1, value => bigEndian width (value / 256) ++ [UInt8.ofNat value]

def readBigEndian (bytes : Bytes) : Nat :=
  bytes.foldl (fun value byte => value * 256 + byte.toNat) 0

@[simp] theorem big_endian_length (width value : Nat) :
    (bigEndian width value).length = width := by
  induction width generalizing value with
  | zero => rfl
  | succ width ih => simp [bigEndian, ih]

theorem read_big_endian_snoc (bytes : Bytes) (byte : UInt8) :
    readBigEndian (bytes ++ [byte]) = readBigEndian bytes * 256 + byte.toNat := by
  simp [readBigEndian]

theorem read_big_endian_encode (width value : Nat) :
    readBigEndian (bigEndian width value) = value % 256 ^ width := by
  induction width generalizing value with
  | zero => simp [bigEndian, readBigEndian, Nat.mod_one]
  | succ width ih =>
      have split : value % 256 ^ (width + 1) =
          value % 256 + 256 * (value / 256 % 256 ^ width) := by
        rw [Nat.pow_succ, Nat.mul_comm, Nat.mod_mul]
      rw [bigEndian, read_big_endian_snoc, ih, UInt8.toNat_ofNat', split]
      omega

theorem read_big_endian_of_lt (width value : Nat) (bound : value < 256 ^ width) :
    readBigEndian (bigEndian width value) = value := by
  rw [read_big_endian_encode, Nat.mod_eq_of_lt bound]

/-- Reading and writing are inverse on words of the right width. -/
theorem big_endian_read {width : Nat} {bytes : Bytes} (length : bytes.length = width) :
    bigEndian width (readBigEndian bytes) = bytes ∧ readBigEndian bytes < 256 ^ width := by
  induction width generalizing bytes with
  | zero =>
      obtain rfl := List.length_eq_zero_iff.mp length
      exact ⟨rfl, by decide⟩
  | succ width ih =>
      obtain rfl | ⟨front, byte, rfl⟩ := List.eq_nil_or_concat bytes
      · cases length
      obtain ⟨written, bound⟩ := ih (by simpa using length)
      have small := byte.toNat_lt
      have quotient : (readBigEndian front * 256 + byte.toNat) / 256 = readBigEndian front := by
        omega
      have remainder : UInt8.ofNat (readBigEndian front * 256 + byte.toNat) = byte := by
        apply UInt8.toNat_inj.mp
        rw [UInt8.toNat_ofNat']
        omega
      rw [List.concat_eq_append, read_big_endian_snoc]
      constructor
      · rw [bigEndian, quotient, written, remainder]
      · rw [Nat.pow_succ]
        omega

/-- The bytes of an ASCII literal. -/
def asciiBytes (text : String) : Bytes := text.toList.map fun c => UInt8.ofNat c.toNat

/-- `buf[start:stop]`. -/
def slice (buf : Bytes) (start stop : Nat) : Bytes := (buf.take stop).drop start

/-- `buf[start:stop] = data` with `start ≤ stop`. -/
def assignSlice (buf : Bytes) (start stop : Nat) (data : Bytes) : Bytes :=
  buf.take start ++ data ++ buf.drop stop

/-- `buf[index]`. -/
def byteAt (buf : Bytes) (index : Nat) : Except PyError Nat :=
  match buf[index]? with
  | some byte => .ok byte.toNat
  | none => .error .indexError

/-- `buf[index] = value`. -/
def assignByte (buf : Bytes) (index value : Nat) : Except PyError Bytes :=
  if index < buf.length then
    if value < 256 then .ok (assignSlice buf index (index + 1) [UInt8.ofNat value])
    else .error (.valueError "byte must be in range(0, 256)")
  else .error .indexError

/-- `struct.pack_into` of one unsigned big-endian field. -/
def packInto (width : Nat) (buf : Bytes) (offset : Nat) (value : Int) :
    Except PyError Bytes :=
  if 0 ≤ value ∧ value < 256 ^ width ∧ offset + width ≤ buf.length then
    .ok (assignSlice buf offset (offset + width) (bigEndian width value.toNat))
  else .error .structError

/-- `struct.unpack_from` of one unsigned big-endian field. -/
def unpackFrom (width : Nat) (buf : Bytes) (offset : Nat) : Except PyError Nat :=
  if offset + width ≤ buf.length then
    .ok (readBigEndian (slice buf offset (offset + width)))
  else .error .structError

theorem slice_length {buf : Bytes} {start count : Nat} (inside : start + count ≤ buf.length) :
    (slice buf start (start + count)).length = count := by
  simp only [slice, List.length_drop, List.length_take]
  omega

theorem drop_slice (buf : Bytes) (start count : Nat) :
    buf.drop start = slice buf start (start + count) ++ buf.drop (start + count) := by
  rw [slice, ← List.take_drop, ← List.drop_drop]
  exact (List.take_append_drop count (buf.drop start)).symm

section Cursor

variable {written rest data : Bytes} {offset : Nat}

theorem assign_slice_at_cursor (position : offset = written.length) :
    assignSlice (written ++ rest) offset (offset + data.length) data =
      written ++ data ++ rest.drop data.length := by
  subst position
  simp [assignSlice, List.drop_append, List.drop_eq_nil_of_le]

theorem assign_byte_at_cursor {value : Nat} (position : offset = written.length)
    (room : 0 < rest.length) (small : value < 256) :
    assignByte (written ++ rest) offset value =
      .ok (written ++ [UInt8.ofNat value] ++ rest.drop 1) := by
  have inside : offset < (written ++ rest).length := by
    simp only [List.length_append]
    omega
  rw [assignByte, if_pos inside, if_pos small]
  exact congrArg Except.ok (@assign_slice_at_cursor _ _ [UInt8.ofNat value] _ position)

theorem assign_byte_at_cursor_ok {value : Nat} {result : Bytes}
    (done : assignByte (written ++ rest) offset value = .ok result)
    (position : offset = written.length) :
    0 < rest.length ∧ value < 256 ∧
      result = written ++ [UInt8.ofNat value] ++ rest.drop 1 := by
  by_cases room : 0 < rest.length
  · by_cases small : value < 256
    · rw [assign_byte_at_cursor position room small] at done
      exact ⟨room, small, (Except.ok.inj done).symm⟩
    · simp [assignByte, small] at done
      split at done <;> cases done
  · have full : rest = [] := List.length_eq_zero_iff.mp (by omega)
    simp [assignByte, full, position] at done

theorem pack_into_at_cursor {width : Nat} {value : Int} (position : offset = written.length)
    (lower : 0 ≤ value) (upper : value < 256 ^ width) (room : width ≤ rest.length) :
    packInto width (written ++ rest) offset value =
      .ok (written ++ bigEndian width value.toNat ++ rest.drop width) := by
  have inside : offset + width ≤ (written ++ rest).length := by
    simp only [List.length_append]
    omega
  rw [packInto, if_pos ⟨lower, upper, inside⟩]
  have assigned := @assign_slice_at_cursor _ rest (bigEndian width value.toNat) _ position
  rw [big_endian_length] at assigned
  exact congrArg Except.ok assigned

theorem pack_into_at_cursor_ok {width : Nat} {value : Int} {result : Bytes}
    (done : packInto width (written ++ rest) offset value = .ok result)
    (position : offset = written.length) :
    0 ≤ value ∧ value < 256 ^ width ∧ width ≤ rest.length ∧
      result = written ++ bigEndian width value.toNat ++ rest.drop width := by
  by_cases guard : 0 ≤ value ∧ value < 256 ^ width ∧
      offset + width ≤ (written ++ rest).length
  · have room : width ≤ rest.length := by
      have inside := guard.2.2
      simp only [List.length_append] at inside
      omega
    rw [pack_into_at_cursor position guard.1 guard.2.1 room] at done
    exact ⟨guard.1, guard.2.1, room, (Except.ok.inj done).symm⟩
  · rw [packInto, if_neg guard] at done
    cases done

theorem slice_at_cursor {stop : Nat} (position : offset = written.length)
    (span : stop = offset + data.length) :
    slice (written ++ (data ++ rest)) offset stop = data := by
  subst span position
  simp [slice, List.take_append, List.take_of_length_le]

theorem unpack_from_at_cursor {width value : Nat} (position : offset = written.length)
    (bound : value < 256 ^ width) :
    unpackFrom width (written ++ (bigEndian width value ++ rest)) offset = .ok value := by
  have inside : offset + width ≤ (written ++ (bigEndian width value ++ rest)).length := by
    simp only [List.length_append, big_endian_length]
    omega
  have read : slice (written ++ (bigEndian width value ++ rest)) offset (offset + width) =
      bigEndian width value :=
    slice_at_cursor position (by rw [big_endian_length])
  rw [unpackFrom, if_pos inside, read, read_big_endian_of_lt width value bound]

theorem byte_at_cursor {byte : UInt8} (position : offset = written.length) :
    byteAt (written ++ (byte :: rest)) offset = .ok byte.toNat := by
  subst position
  simp [byteAt]

end Cursor

/-- `field` stands in `whole` at `offset` and is followed by `rest`. -/
def FieldAt (whole : Bytes) (offset : Nat) (field rest : Bytes) : Prop :=
  ∃ written, offset = written.length ∧ whole = written ++ (field ++ rest)

section Fields

variable {whole field next rest : Bytes} {offset : Nat}

theorem FieldAt.advance (here : FieldAt whole offset field (next ++ rest)) {size : Nat}
    (length : field.length = size) : FieldAt whole (offset + size) next rest := by
  obtain ⟨written, position, split⟩ := here
  refine ⟨written ++ field, ?_, ?_⟩
  · rw [position, List.length_append, length]
  · rw [split, List.append_assoc]

theorem FieldAt.slice (here : FieldAt whole offset field rest) {size : Nat}
    (length : field.length = size) : slice whole offset (offset + size) = field := by
  obtain ⟨written, position, rfl⟩ := here
  exact slice_at_cursor position (by rw [length])

theorem FieldAt.unpack {width value : Nat}
    (here : FieldAt whole offset (bigEndian width value) rest) (bound : value < 256 ^ width) :
    unpackFrom width whole offset = .ok value := by
  obtain ⟨written, position, rfl⟩ := here
  exact unpack_from_at_cursor position bound

theorem FieldAt.byte {byte : UInt8} (here : FieldAt whole offset [byte] rest) :
    byteAt whole offset = .ok byte.toNat := by
  obtain ⟨written, position, rfl⟩ := here
  exact byte_at_cursor position

end Fields

end PyRuntime
