import Astrix.Library.ByteBuffer

/-!
# Unicode text and UTF-8

A Python `str` is a list of code points, lone surrogates included. Strict
encoding fails on a surrogate. Decoding with `errors="replace"` turns every
maximal ill-formed subsequence into one U+FFFD, so it is total; on the image of
the strict encoder it is the inverse.
-/

namespace PyRuntime

set_option autoImplicit false

abbrev CodePoint := Fin 0x110000

instance codePointRange : NeZero 0x110000 := ⟨by decide⟩

abbrev Text := List CodePoint

def charsText (chars : List Char) : Text := chars.map fun c => Fin.ofNat 0x110000 c.toNat

/-- A literal of the program. -/
def literal (text : String) : Text := charsText text.toList

def isSurrogate (point : CodePoint) : Bool := 0xD800 ≤ point.val && point.val < 0xE000

/-- The UTF-8 form of a scalar value. -/
def utf8Form (point : CodePoint) : Bytes :=
  let value := point.val
  if value < 0x80 then [UInt8.ofNat value]
  else if value < 0x800 then
    [UInt8.ofNat (0xC0 + value / 64), UInt8.ofNat (0x80 + value % 64)]
  else if value < 0x10000 then
    [UInt8.ofNat (0xE0 + value / 4096), UInt8.ofNat (0x80 + value / 64 % 64),
      UInt8.ofNat (0x80 + value % 64)]
  else
    [UInt8.ofNat (0xF0 + value / 262144), UInt8.ofNat (0x80 + value / 4096 % 64),
      UInt8.ofNat (0x80 + value / 64 % 64), UInt8.ofNat (0x80 + value % 64)]

/-- `text.encode("utf-8")`. -/
def encodeUtf8 : Text → Except PyError Bytes
  | [] => .ok []
  | point :: rest =>
      if isSurrogate point then .error .unicodeEncodeError
      else (encodeUtf8 rest).map (utf8Form point ++ ·)

def replacement : CodePoint := ⟨0xFFFD, by decide⟩

def codePoint (value : Nat) : CodePoint :=
  if bound : value < 0x110000 then ⟨value, bound⟩ else replacement

def isTail (byte : UInt8) : Bool := 0x80 ≤ byte.toNat && byte.toNat < 0xC0

/-- The bytes that may follow a three-byte lead: overlong forms and surrogates
are excluded here. -/
def isSecondOfThree (lead second : UInt8) : Bool :=
  isTail second && (lead.toNat != 0xE0 || 0xA0 ≤ second.toNat) &&
    (lead.toNat != 0xED || second.toNat < 0xA0)

def isSecondOfFour (lead second : UInt8) : Bool :=
  isTail second && (lead.toNat != 0xF0 || 0x90 ≤ second.toNat) &&
    (lead.toNat != 0xF4 || second.toNat < 0x90)

/-- One decoding step at a lead byte: the code point produced and the number of
further bytes it uses up. -/
def decodeStep (lead : UInt8) (rest : Bytes) : CodePoint × Nat :=
  if lead.toNat < 0x80 then (codePoint lead.toNat, 0)
  else if lead.toNat < 0xC2 then (replacement, 0)
  else if lead.toNat < 0xE0 then
    match rest with
    | second :: _ =>
        if isTail second then
          (codePoint ((lead.toNat - 0xC0) * 64 + (second.toNat - 0x80)), 1)
        else (replacement, 0)
    | [] => (replacement, 0)
  else if lead.toNat < 0xF0 then
    match rest with
    | second :: more =>
        if isSecondOfThree lead second then
          match more with
          | third :: _ =>
              if isTail third then
                (codePoint ((lead.toNat - 0xE0) * 4096 + (second.toNat - 0x80) * 64 +
                  (third.toNat - 0x80)), 2)
              else (replacement, 1)
          | [] => (replacement, 1)
        else (replacement, 0)
    | [] => (replacement, 0)
  else if lead.toNat < 0xF5 then
    match rest with
    | second :: more =>
        if isSecondOfFour lead second then
          match more with
          | third :: others =>
              if isTail third then
                match others with
                | fourth :: _ =>
                    if isTail fourth then
                      (codePoint ((lead.toNat - 0xF0) * 262144 +
                        (second.toNat - 0x80) * 4096 + (third.toNat - 0x80) * 64 +
                        (fourth.toNat - 0x80)), 3)
                    else (replacement, 2)
                | [] => (replacement, 2)
              else (replacement, 1)
          | [] => (replacement, 1)
        else (replacement, 0)
    | [] => (replacement, 0)
  else (replacement, 0)

/-- The first argument counts bytes already used up by the previous step. -/
def decodeFrom : Nat → Bytes → Text
  | _, [] => []
  | skip + 1, _ :: rest => decodeFrom skip rest
  | 0, lead :: rest =>
      (decodeStep lead rest).1 :: decodeFrom (decodeStep lead rest).2 rest

/-- `data.decode("utf-8", errors="replace")`. -/
def decodeReplace (data : Bytes) : Text := decodeFrom 0 data

theorem utf8_form_positive (point : CodePoint) : 1 ≤ (utf8Form point).length := by
  unfold utf8Form
  dsimp only
  split_ifs <;> simp

section Forms

theorem tail_value (number : Nat) :
    (UInt8.ofNat (0x80 + number % 64)).toNat = 0x80 + number % 64 :=
  byte_of_small (by omega)

theorem tail_accepted (number : Nat) : isTail (UInt8.ofNat (0x80 + number % 64)) = true := by
  simp only [isTail, tail_value, Bool.and_eq_true, decide_eq_true_eq]
  omega

theorem code_point_self (point : CodePoint) {number : Nat} (same : number = point.val) :
    codePoint number = point := by
  subst same
  rw [codePoint, dif_pos point.isLt]

variable (point : CodePoint) (suffix : Bytes)

theorem decode_one_byte (small : point.val < 0x80) :
    decodeFrom 0 (utf8Form point ++ suffix) = point :: decodeFrom 0 suffix := by
  have lead := @byte_of_small point.val (by omega)
  simp only [utf8Form, small, if_true, List.cons_append, List.nil_append, decodeFrom,
    decodeStep, lead]
  rw [code_point_self point rfl]

theorem decode_two_bytes (one : ¬ point.val < 0x80) (two : point.val < 0x800) :
    decodeFrom 0 (utf8Form point ++ suffix) = point :: decodeFrom 0 suffix := by
  have lead := @byte_of_small (0xC0 + point.val / 64) (by omega)
  have notOne : ¬ 0xC0 + point.val / 64 < 0x80 := by omega
  have notBad : ¬ 0xC0 + point.val / 64 < 0xC2 := by omega
  have isTwo : 0xC0 + point.val / 64 < 0xE0 := by omega
  simp only [utf8Form, one, two, if_true, if_false, List.cons_append, List.nil_append,
    decodeFrom, decodeStep, lead, tail_value, notOne, notBad, isTwo, tail_accepted]
  rw [code_point_self point (by omega)]

theorem decode_three_bytes (scalar : point.val < 0xD800 ∨ 0xE000 ≤ point.val)
    (two : ¬ point.val < 0x800) (three : point.val < 0x10000) :
    decodeFrom 0 (utf8Form point ++ suffix) = point :: decodeFrom 0 suffix := by
  have one : ¬ point.val < 0x80 := by omega
  have lead := @byte_of_small (0xE0 + point.val / 4096) (by omega)
  have notOne : ¬ 0xE0 + point.val / 4096 < 0x80 := by omega
  have notBad : ¬ 0xE0 + point.val / 4096 < 0xC2 := by omega
  have notTwo : ¬ 0xE0 + point.val / 4096 < 0xE0 := by omega
  have isThree : 0xE0 + point.val / 4096 < 0xF0 := by omega
  have second : isSecondOfThree (UInt8.ofNat (0xE0 + point.val / 4096))
      (UInt8.ofNat (0x80 + point.val / 64 % 64)) = true := by
    simp only [isSecondOfThree, tail_accepted, lead, tail_value, Bool.true_and,
      Bool.and_eq_true, Bool.or_eq_true, decide_eq_true_eq, bne_iff_ne, ne_eq]
    omega
  simp only [utf8Form, one, two, three, if_true, if_false, List.cons_append,
    List.nil_append, decodeFrom, decodeStep, lead, tail_value, notOne, notBad, notTwo,
    isThree, second, tail_accepted]
  rw [code_point_self point (by omega)]

theorem decode_four_bytes (three : ¬ point.val < 0x10000) :
    decodeFrom 0 (utf8Form point ++ suffix) = point :: decodeFrom 0 suffix := by
  have bound := point.isLt
  have one : ¬ point.val < 0x80 := by omega
  have two : ¬ point.val < 0x800 := by omega
  have lead := @byte_of_small (0xF0 + point.val / 262144) (by omega)
  have notOne : ¬ 0xF0 + point.val / 262144 < 0x80 := by omega
  have notBad : ¬ 0xF0 + point.val / 262144 < 0xC2 := by omega
  have notTwo : ¬ 0xF0 + point.val / 262144 < 0xE0 := by omega
  have notThree : ¬ 0xF0 + point.val / 262144 < 0xF0 := by omega
  have isFour : 0xF0 + point.val / 262144 < 0xF5 := by omega
  have second : isSecondOfFour (UInt8.ofNat (0xF0 + point.val / 262144))
      (UInt8.ofNat (0x80 + point.val / 4096 % 64)) = true := by
    simp only [isSecondOfFour, tail_accepted, lead, tail_value, Bool.true_and,
      Bool.and_eq_true, Bool.or_eq_true, decide_eq_true_eq, bne_iff_ne, ne_eq]
    omega
  simp only [utf8Form, one, two, three, if_true, if_false, List.cons_append,
    List.nil_append, decodeFrom, decodeStep, lead, tail_value, notOne, notBad, notTwo,
    notThree, isFour, second, tail_accepted]
  rw [code_point_self point (by omega)]

/-- Decoding the form of one scalar value consumes exactly that form. -/
theorem decode_utf8_form (scalar : isSurrogate point = false) :
    decodeFrom 0 (utf8Form point ++ suffix) = point :: decodeFrom 0 suffix := by
  have noSurrogate : point.val < 0xD800 ∨ 0xE000 ≤ point.val := by
    simp [isSurrogate] at scalar
    omega
  by_cases one : point.val < 0x80
  · exact decode_one_byte point suffix one
  by_cases two : point.val < 0x800
  · exact decode_two_bytes point suffix one two
  by_cases three : point.val < 0x10000
  · exact decode_three_bytes point suffix noSurrogate two three
  · exact decode_four_bytes point suffix three

end Forms

theorem encode_utf8_cons {point : CodePoint} {rest : Text} {data : Bytes}
    (encoded : encodeUtf8 (point :: rest) = .ok data) :
    isSurrogate point = false ∧
      ∃ tail, encodeUtf8 rest = .ok tail ∧ data = utf8Form point ++ tail := by
  simp only [encodeUtf8] at encoded
  split_ifs at encoded with surrogate
  refine ⟨by simpa using surrogate, ?_⟩
  cases restEncoded : encodeUtf8 rest with
  | error failure => simp [restEncoded, Except.map] at encoded
  | ok tail =>
      simp only [restEncoded, Except.map, Except.ok.injEq] at encoded
      exact ⟨tail, rfl, encoded.symm⟩

theorem decode_encode_utf8 (text : Text) (data : Bytes)
    (encoded : encodeUtf8 text = .ok data) : decodeReplace data = text := by
  unfold decodeReplace
  induction text generalizing data with
  | nil =>
      cases encoded
      rfl
  | cons point rest ih =>
      obtain ⟨scalar, tail, restEncoded, rfl⟩ := encode_utf8_cons encoded
      rw [decode_utf8_form point _ scalar, ih tail restEncoded]

/-- A text is never longer than its encoding, so a size computed from character
counts is a lower bound on the bytes written. -/
theorem encode_utf8_length (text : Text) (data : Bytes)
    (encoded : encodeUtf8 text = .ok data) : text.length ≤ data.length := by
  induction text generalizing data with
  | nil => simp
  | cons point rest ih =>
      obtain ⟨_, tail, restEncoded, rfl⟩ := encode_utf8_cons encoded
      have positive := utf8_form_positive point
      have shorter := ih tail restEncoded
      simp only [List.length_cons, List.length_append]
      omega

theorem utf8_form_ascii (point : CodePoint) : (utf8Form point).length = 1 ↔ point.val < 0x80 := by
  unfold utf8Form
  dsimp only
  split_ifs with one two three <;> simp [one]

/-- A text is as long as its encoding exactly when it is ASCII. -/
theorem encode_utf8_ascii (text : Text) (data : Bytes) (encoded : encodeUtf8 text = .ok data) :
    data.length = text.length ↔ ∀ point ∈ text, point.val < 0x80 := by
  induction text generalizing data with
  | nil =>
      cases encoded
      simp
  | cons point rest ih =>
      obtain ⟨_, tail, restEncoded, rfl⟩ := encode_utf8_cons encoded
      have positive := utf8_form_positive point
      have longer := encode_utf8_length rest tail restEncoded
      have one := utf8_form_ascii point
      rw [List.forall_mem_cons, ← one, ← ih tail restEncoded, List.length_append,
        List.length_cons]
      omega

section Scalars

/-- The bytes that a text takes in UTF-8. -/
def utf8Length (text : Text) : Nat := (text.map fun point => (utf8Form point).length).sum

/-- No lone surrogates. -/
def NoSurrogates (text : Text) : Prop := ∀ point ∈ text, isSurrogate point = false

theorem encode_utf8_scalars {text : Text} (scalars : NoSurrogates text) :
    ∃ data, encodeUtf8 text = .ok data ∧ data.length = utf8Length text := by
  induction text with
  | nil => exact ⟨[], rfl, rfl⟩
  | cons point rest ih =>
      obtain ⟨first, others⟩ := List.forall_mem_cons.mp scalars
      obtain ⟨data, encoded, length⟩ := ih others
      refine ⟨utf8Form point ++ data, ?_, ?_⟩
      · simp only [encodeUtf8, first, encoded, Bool.false_eq_true, if_false, Except.map]
      · rw [List.length_append, length, utf8Length, utf8Length, List.map_cons, List.sum_cons]

theorem code_point_scalar {value : Nat} (scalar : value < 0xD800 ∨ 0xE000 ≤ value) :
    isSurrogate (codePoint value) = false := by
  rw [codePoint]
  split_ifs
  · simp only [isSurrogate, Bool.and_eq_false_iff, decide_eq_false_iff_not]
    omega
  · decide

/-- The second byte of a three-byte form keeps it out of the surrogates. -/
theorem three_bytes_scalar {lead second third : UInt8} (low : ¬ lead.toNat < 0xE0)
    (high : lead.toNat < 0xF0) (accepted : isSecondOfThree lead second = true)
    (tail : isTail third = true) :
    isSurrogate (codePoint ((lead.toNat - 0xE0) * 4096 + (second.toNat - 0x80) * 64 +
      (third.toNat - 0x80))) = false := by
  simp only [isSecondOfThree, isTail, Bool.and_eq_true, Bool.or_eq_true, decide_eq_true_eq,
    bne_iff_ne, ne_eq] at accepted tail
  apply code_point_scalar
  omega

/-- A form of four bytes is above them. -/
theorem four_bytes_scalar {lead second third fourth : UInt8} (low : ¬ lead.toNat < 0xF0)
    (accepted : isSecondOfFour lead second = true) :
    isSurrogate (codePoint ((lead.toNat - 0xF0) * 262144 + (second.toNat - 0x80) * 4096 +
      (third.toNat - 0x80) * 64 + (fourth.toNat - 0x80))) = false := by
  simp only [isSecondOfFour, isTail, Bool.and_eq_true, Bool.or_eq_true, decide_eq_true_eq,
    bne_iff_ne, ne_eq] at accepted
  apply code_point_scalar
  omega

theorem decode_step_scalar (lead : UInt8) (rest : Bytes) :
    isSurrogate (decodeStep lead rest).1 = false := by
  have replaced : isSurrogate replacement = false := by decide
  unfold decodeStep
  split_ifs with one bad two three four
  · exact code_point_scalar (by omega)
  · exact replaced
  · rcases rest with _ | ⟨second, _⟩
    · dsimp only
      exact replaced
    · dsimp only
      split_ifs with tail
      · simp only [isTail, Bool.and_eq_true, decide_eq_true_eq] at tail
        dsimp only
        exact code_point_scalar (by omega)
      · exact replaced
  · rcases rest with _ | ⟨second, _ | ⟨third, _⟩⟩
    · dsimp only
      exact replaced
    · dsimp only
      split_ifs <;> exact replaced
    · dsimp only
      split_ifs with accepted tail
      · dsimp only
        exact three_bytes_scalar two three accepted tail
      · exact replaced
      · exact replaced
  · rcases rest with _ | ⟨second, _ | ⟨third, _ | ⟨fourth, _⟩⟩⟩
    · dsimp only
      exact replaced
    · dsimp only
      split_ifs <;> exact replaced
    · dsimp only
      split_ifs <;> exact replaced
    · dsimp only
      split_ifs with accepted
      · dsimp only
        exact four_bytes_scalar three accepted
      · exact replaced
      · exact replaced
      · exact replaced
  · exact replaced

/-- Decoding with replacement leaves nothing that does not encode. -/
theorem decode_from_scalars (skip : Nat) (data : Bytes) : NoSurrogates (decodeFrom skip data) := by
  induction data generalizing skip with
  | nil =>
      cases skip <;> exact List.forall_mem_nil _
  | cons lead rest ih =>
      cases skip with
      | zero => exact List.forall_mem_cons.mpr ⟨decode_step_scalar lead rest, ih _⟩
      | succ skip => exact ih skip

end Scalars

/-- `data.decode("utf-8")`: exactly the encodings are accepted. -/
def decodeStrict (data : Bytes) : Except PyError Text :=
  let text := decodeReplace data
  if encodeUtf8 text = .ok data then .ok text else .error .unicodeDecodeError

theorem decode_strict_ok_iff (data : Bytes) (text : Text) :
    decodeStrict data = .ok text ↔ encodeUtf8 text = .ok data := by
  unfold decodeStrict
  dsimp only
  constructor
  · intro accepted
    split_ifs at accepted with valid
    cases accepted
    exact valid
  · intro encoded
    have same := decode_encode_utf8 text data encoded
    rw [same, if_pos encoded]

end PyRuntime
