import Astrix.Library.TextEdits

/-!
# Hexadecimal text

`bytes.fromhex`: pairs of hexadecimal digits, with ASCII white space before and
behind every pair. The characters of a text that is read are thus two for each
byte and the spaces.
-/

namespace PyRuntime

set_option autoImplicit false

/-- The value of a hexadecimal digit of either case. -/
def hexValue (point : CodePoint) : Option Nat :=
  if 48 ≤ point.val ∧ point.val ≤ 57 then some (point.val - 48)
  else if 65 ≤ point.val ∧ point.val ≤ 70 then some (point.val - 55)
  else if 97 ≤ point.val ∧ point.val ≤ 102 then some (point.val - 87)
  else none

def isHexDigit (point : CodePoint) : Bool := (hexValue point).isSome

/-- `bytes.fromhex(text)`; `none` is its `ValueError`. -/
def fromHex : Text → Option Bytes
  | [] => some []
  | [last] => if isAsciiSpace last then some [] else none
  | top :: bottom :: rest =>
      if isAsciiSpace top then fromHex (bottom :: rest)
      else
        match hexValue top, hexValue bottom with
        | some high, some low => (fromHex rest).map (UInt8.ofNat (16 * high + low) :: ·)
        | _, _ => none

theorem hex_digit_solid {point : CodePoint} (digit : isHexDigit point = true) :
    isAsciiSpace point = false := by
  unfold isHexDigit hexValue at digit
  simp only [isAsciiSpace, Bool.or_eq_false_iff, Bool.and_eq_false_iff, decide_eq_false_iff_not]
  split_ifs at digit with decimal upper lower
  · omega
  · omega
  · omega
  · cases digit

/-- Two characters for each byte, and the spaces. -/
theorem from_hex_length {text : Text} {bytes : Bytes} (read : fromHex text = some bytes) :
    text.length = 2 * bytes.length + text.countP isAsciiSpace := by
  fun_induction fromHex text generalizing bytes with
  | case1 =>
      cases read
      rfl
  | case2 last space =>
      cases read
      simp [space]
  | case3 last solid => cases read
  | case4 top bottom rest space ih =>
      have counted := ih read
      rw [List.length_cons, counted, List.countP_cons_of_pos space]
      rfl
  | case5 top bottom rest solid high low isLow isHigh ih =>
      obtain ⟨later, readLater, rfl⟩ := Option.map_eq_some_iff.mp read
      have bottomSolid : ¬ isAsciiSpace bottom = true := by
        rw [hex_digit_solid (by rw [isHexDigit, isLow]; rfl)]
        decide
      rw [List.countP_cons_of_neg solid, List.countP_cons_of_neg bottomSolid, List.length_cons,
        List.length_cons, List.length_cons, ih readLater]
      omega
  | case6 top bottom rest solid none => cases read

/-- What is read holds digits and spaces only. -/
theorem from_hex_digits {text : Text} {bytes : Bytes} (read : fromHex text = some bytes) :
    ∀ point ∈ text, isHexDigit point = true ∨ isAsciiSpace point = true := by
  fun_induction fromHex text generalizing bytes with
  | case1 => exact List.forall_mem_nil _
  | case2 last space => exact List.forall_mem_singleton.mpr (.inr space)
  | case3 last solid => cases read
  | case4 top bottom rest space ih => exact List.forall_mem_cons.mpr ⟨.inr space, ih read⟩
  | case5 top bottom rest solid high low isLow isHigh ih =>
      obtain ⟨later, readLater, rfl⟩ := Option.map_eq_some_iff.mp read
      have digits : isHexDigit top = true ∧ isHexDigit bottom = true := by
        rw [isHexDigit, isHexDigit, isHigh, isLow]
        exact ⟨rfl, rfl⟩
      exact List.forall_mem_cons.mpr
        ⟨.inl digits.1, List.forall_mem_cons.mpr ⟨.inl digits.2, ih readLater⟩⟩
  | case6 top bottom rest solid none => cases read

/-- Without white space the text is as long as it can be. -/
theorem from_hex_solid_iff {text : Text} {bytes : Bytes} (read : fromHex text = some bytes) :
    text.length = 2 * bytes.length ↔ ∀ point ∈ text, isAsciiSpace point = false := by
  have counted := from_hex_length read
  have none : text.countP isAsciiSpace = 0 ↔ ∀ point ∈ text, isAsciiSpace point = false := by
    rw [List.countP_eq_zero]
    simp only [Bool.not_eq_true]
  rw [← none]
  omega

/-- Digits only, of an even number, are read. -/
theorem from_hex_of_digits {text : Text} (digits : ∀ point ∈ text, isHexDigit point = true)
    (even : 2 ∣ text.length) : ∃ bytes, fromHex text = some bytes := by
  fun_induction fromHex text with
  | case1 => exact ⟨[], rfl⟩
  | case2 last space => exact ⟨[], rfl⟩
  | case3 last solid =>
      rw [List.length_singleton] at even
      omega
  | case4 top bottom rest space ih =>
      rw [hex_digit_solid (digits top (List.mem_cons_self ..))] at space
      cases space
  | case5 top bottom rest solid high low isLow isHigh ih =>
      have others : ∀ point ∈ rest, isHexDigit point = true := fun point member =>
        digits point (List.mem_cons_of_mem _ (List.mem_cons_of_mem _ member))
      rw [List.length_cons, List.length_cons] at even
      obtain ⟨later, readLater⟩ := ih others (by omega)
      exact ⟨_, by rw [readLater, Option.map_some]⟩
  | case6 top bottom rest solid none =>
      have isHigh := digits top (List.mem_cons_self ..)
      have isLow := digits bottom (List.mem_cons_of_mem _ (List.mem_cons_self ..))
      obtain ⟨high, readHigh⟩ := Option.isSome_iff_exists.mp isHigh
      obtain ⟨low, readLow⟩ := Option.isSome_iff_exists.mp isLow
      exact absurd readLow (none high low readHigh)

section Written

def hexDigit (value : Nat) : CodePoint :=
  Fin.ofNat 0x110000 (if value < 10 then 48 + value else 87 + value)

/-- `bytes.hex()`. -/
def toHex (bytes : Bytes) : Text :=
  bytes.flatMap fun byte => [hexDigit (byte.toNat / 16), hexDigit (byte.toNat % 16)]

theorem hex_value_digit {value : Nat} (small : value < 16) :
    hexValue (hexDigit value) = some value := by
  have each : ∀ value < 16, hexValue (hexDigit value) = some value := by decide
  exact each value small

theorem hex_digit_written {value : Nat} (small : value < 16) :
    isHexDigit (hexDigit value) = true := by
  rw [isHexDigit, hex_value_digit small]
  rfl

theorem to_hex_length (bytes : Bytes) : (toHex bytes).length = 2 * bytes.length := by
  simp [toHex, List.length_flatMap, Nat.mul_comm]

theorem to_hex_digits (bytes : Bytes) : ∀ point ∈ toHex bytes, isHexDigit point = true := by
  intro point member
  obtain ⟨byte, _, digit⟩ := List.mem_flatMap.mp member
  have bound := byte.toNat_lt
  rcases List.mem_pair.mp digit with rfl | rfl
  · exact hex_digit_written (by omega)
  · exact hex_digit_written (by omega)

/-- What is written is read back. -/
theorem from_hex_to_hex (bytes : Bytes) : fromHex (toHex bytes) = some bytes := by
  induction bytes with
  | nil => rfl
  | cons byte rest ih =>
      have bound := byte.toNat_lt
      have high : byte.toNat / 16 < 16 := by omega
      have low : byte.toNat % 16 < 16 := by omega
      have whole : 16 * (byte.toNat / 16) + byte.toNat % 16 = byte.toNat := by omega
      have solid := hex_digit_solid (hex_digit_written high)
      have digits : toHex (byte :: rest) =
          hexDigit (byte.toNat / 16) :: hexDigit (byte.toNat % 16) :: toHex rest := rfl
      rw [digits, fromHex, if_neg (by rw [solid]; decide), hex_value_digit high,
        hex_value_digit low]
      dsimp only
      rw [ih, whole, UInt8.ofNat_toNat]
      rfl

end Written

example : fromHex (literal "0f A1") = some [15, 161] := by decide +kernel

example : fromHex (literal "0 fA1") = none := by decide +kernel

end PyRuntime
