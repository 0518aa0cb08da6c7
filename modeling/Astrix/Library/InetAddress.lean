import Astrix.Library.TextCodec

/-!
# Internet addresses as text

`socket.inet_ntoa` and `socket.inet_ntop(AF_INET6, …)` on packed addresses. The
longest run of at least two zero words, the first of them if there are several,
is written as two colons, and an address that embeds an IPv4 address ends in
its dotted form.
-/

namespace PyRuntime

set_option autoImplicit false

/-- Four bytes as a dotted quad. -/
def inetNtoa (packed : Bytes) : Text :=
  List.intercalate (charsText ['.']) (packed.map fun byte =>
    charsText (Nat.toDigits 10 byte.toNat))

/-- The eight words of a packed IPv6 address. -/
def addressWords (packed : Bytes) : List Nat :=
  (List.range 8).map fun i => readBigEndian (slice packed (2 * i) (2 * i + 2))

def leadingZeros : List Nat → Nat
  | 0 :: rest => leadingZeros rest + 1
  | _ => 0

/-- Start and length of the zero words that are left out. -/
def zeroRun (words : List Nat) : Nat × Nat :=
  (List.range 8).foldl (fun best i =>
    let length := leadingZeros (words.drop i)
    if 2 ≤ length ∧ best.2 < length then (i, length) else best) (0, 0)

def embedsInet4 (words : List Nat) : Bool :=
  zeroRun words = (0, 6) || (zeroRun words = (0, 5) && words.getD 5 0 = 0xffff)

def inetNtop6 (packed : Bytes) : Text :=
  let words := addressWords packed
  let (base, length) := zeroRun words
  let colon := charsText [':']
  let word := fun i =>
    if base ≤ i ∧ i < base + length then if i = base then colon else []
    else if embedsInet4 words ∧ i = 7 then []
    else
      (if i ≠ 0 then colon else []) ++
        (if embedsInet4 words ∧ i = 6 then inetNtoa (packed.drop 12)
        else charsText (Nat.toDigits 16 (words.getD i 0)))
  (List.range 8).flatMap word ++ (if length ≠ 0 ∧ base + length = 8 then colon else [])

section Scalars

/-- A character is no surrogate. -/
theorem chars_scalars (chars : List Char) : NoSurrogates (charsText chars) := by
  intro point member
  obtain ⟨c, _, rfl⟩ := List.mem_map.mp member
  have valid : c.toNat < 0xD800 ∨ 0xDFFF < c.toNat ∧ c.toNat < 0x110000 := c.valid
  have value : (Fin.ofNat 0x110000 c.toNat).val = c.toNat := Nat.mod_eq_of_lt (by omega)
  simp only [isSurrogate, value, Bool.and_eq_false_iff, decide_eq_false_iff_not]
  omega

theorem nil_scalars : NoSurrogates [] := List.forall_mem_nil _

theorem NoSurrogates.append {first second : Text} (one : NoSurrogates first)
    (two : NoSurrogates second) : NoSurrogates (first ++ second) :=
  List.forall_mem_append.mpr ⟨one, two⟩

theorem ite_scalars (condition : Prop) [Decidable condition] {first second : Text}
    (one : NoSurrogates first) (two : NoSurrogates second) :
    NoSurrogates (if condition then first else second) := by
  split_ifs
  · exact one
  · exact two

theorem intercalate_scalars {separator : Text} {parts : List Text}
    (between : NoSurrogates separator) (each : ∀ part ∈ parts, NoSurrogates part) :
    NoSurrogates (List.intercalate separator parts) := by
  induction parts with
  | nil => exact nil_scalars
  | cons part rest ih =>
      obtain ⟨first, others⟩ := List.forall_mem_cons.mp each
      by_cases last : rest = []
      · rw [last, List.intercalate_singleton]
        exact first
      · rw [List.intercalate_cons_of_ne_nil last]
        exact (first.append between).append (ih others)

theorem inet_ntoa_scalars (packed : Bytes) : NoSurrogates (inetNtoa packed) := by
  apply intercalate_scalars (chars_scalars _)
  intro part member
  obtain ⟨byte, _, rfl⟩ := List.mem_map.mp member
  exact chars_scalars _

theorem inet_ntop6_scalars (packed : Bytes) : NoSurrogates (inetNtop6 packed) := by
  have colon := chars_scalars [':']
  unfold inetNtop6
  dsimp only
  apply NoSurrogates.append
  · intro point member
    obtain ⟨i, _, inside⟩ := List.mem_flatMap.mp member
    refine ite_scalars _ (ite_scalars _ colon nil_scalars)
      (ite_scalars _ nil_scalars ?_) point inside
    apply NoSurrogates.append (ite_scalars _ colon nil_scalars)
    exact ite_scalars _ (inet_ntoa_scalars _) (chars_scalars _)
  · exact ite_scalars _ colon nil_scalars

end Scalars

example : inetNtop6 [0x20, 0x01, 0x0d, 0xb8, 0, 0, 0, 0, 0, 0, 0, 0, 0, 0, 0, 1] =
    charsText "2001:db8::1".toList := by decide +kernel

example : inetNtop6 ((List.replicate 10 0) ++ [0xff, 0xff, 192, 0, 2, 1]) =
    charsText "::ffff:192.0.2.1".toList := by decide +kernel

end PyRuntime
