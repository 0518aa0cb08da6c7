import Astrix.Library.InetAddress
import Mathlib.Data.List.DropRight

/-!
# Decimal numbers as text

`str(number)`, `int(text)` and the split at the last separator. `int` reads the
digits of every script, allows white space around the number, a sign before it
and single underscores between its digits, and has a limit on their count. It
reads back what `str` writes.
-/

namespace PyRuntime

set_option autoImplicit false

section Separator

variable {Item : Type*} [DecidableEq Item] (separator : Item)

/-- `text.rsplit(separator, 1)` where there is a separator. -/
def splitLast : List Item → Option (List Item × List Item)
  | [] => none
  | item :: rest =>
      match splitLast rest with
      | some (before, after) => some (item :: before, after)
      | none => if item = separator then some ([], rest) else none

theorem split_last_none {items : List Item} (absent : separator ∉ items) :
    splitLast separator items = none := by
  induction items with
  | nil => rfl
  | cons item rest ih =>
      obtain ⟨other, absentRest⟩ := not_or.mp (mt List.mem_cons.mpr absent)
      simp only [splitLast, ih absentRest, if_neg (Ne.symm other)]

/-- The separator counts whose right side has no further one. -/
theorem split_last_append (before : List Item) {after : List Item} (last : separator ∉ after) :
    splitLast separator (before ++ separator :: after) = some (before, after) := by
  induction before with
  | nil => simp only [List.nil_append, splitLast, split_last_none separator last, if_true]
  | cons item rest ih => simp only [List.cons_append, splitLast, ih]

theorem split_last_some {items before after : List Item}
    (found : splitLast separator items = some (before, after)) :
    items = before ++ separator :: after := by
  induction items generalizing before with
  | nil => cases found
  | cons item rest ih =>
      rw [splitLast] at found
      cases behind : splitLast separator rest with
      | some parts =>
          rw [behind] at found
          cases found
          rw [List.cons_append, ← ih behind]
      | none =>
          rw [behind] at found
          dsimp only at found
          split_ifs at found with here
          cases found
          rw [here, List.nil_append]

end Separator

/-- Nothing is stripped from items that all stay. -/
theorem strip_self {Item : Type*} {p : Item → Bool} {items : List Item}
    (solid : ∀ item ∈ items, p item = false) : (items.dropWhile p).rdropWhile p = items := by
  have front : items.dropWhile p = items := by
    rw [List.dropWhile_eq_self_iff]
    intro inside
    rw [solid _ (List.getElem_mem inside)]
    decide
  rw [front, List.rdropWhile_eq_self_iff]
  intro inside
  rw [solid _ (List.getLast_mem inside)]
  decide

/-- The code points of the digit zero; the nine behind each are the other digits
of its script. -/
def decimalZeros : List Nat :=
  [0x30, 0x660, 0x6f0, 0x7c0, 0x966, 0x9e6, 0xa66, 0xae6, 0xb66, 0xbe6, 0xc66, 0xce6, 0xd66,
    0xde6, 0xe50, 0xed0, 0xf20, 0x1040, 0x1090, 0x17e0, 0x1810, 0x1946, 0x19d0, 0x1a80, 0x1a90,
    0x1b50, 0x1bb0, 0x1c40, 0x1c50, 0xa620, 0xa8d0, 0xa900, 0xa9d0, 0xa9f0, 0xaa50, 0xabf0,
    0xff10, 0x104a0, 0x10d30, 0x10d40, 0x11066, 0x110f0, 0x11136, 0x111d0, 0x112f0, 0x11450,
    0x114d0, 0x11650, 0x116c0, 0x116d0, 0x116da, 0x11730, 0x118e0, 0x11950, 0x11bf0, 0x11c50,
    0x11d50, 0x11da0, 0x11f50, 0x16a60, 0x16ac0, 0x16b50, 0x16d70, 0x1ccf0, 0x1d7ce, 0x1d7d8,
    0x1d7e2, 0x1d7ec, 0x1d7f6, 0x1e140, 0x1e2f0, 0x1e4f0, 0x1e5f1, 0x1e950, 0x1fbf0]

/-- White space outside ASCII. -/
def isWideSpace (point : CodePoint) : Bool :=
  [0x85, 0xa0, 0x1680, 0x2028, 0x2029, 0x202f, 0x205f, 0x3000].contains point.val ||
    (0x2000 ≤ point.val && point.val ≤ 0x200a)

/-- The characters that `int` looks at: spaces and digits of other scripts are
read as those of ASCII, and what is neither becomes a question mark. -/
def asciiForm (point : CodePoint) : CodePoint :=
  if point.val < 127 then point
  else if isWideSpace point then 32
  else
    match decimalZeros.find? fun first => first ≤ point.val && point.val < first + 10 with
    | some first => Fin.ofNat 0x110000 (48 + (point.val - first))
    | none => 63

def isAsciiSpace (point : CodePoint) : Bool :=
  (9 ≤ point.val && point.val ≤ 13) || point.val = 32

def isAsciiDigit (point : CodePoint) : Bool := 48 ≤ point.val && point.val ≤ 57

/-- The digits between which there may be single underscores. -/
def readDigits (text : Text) : Option (List Nat) :=
  let groups := text.splitOn 95
  if groups.all fun group => !group.isEmpty && group.all isAsciiDigit then
    some (groups.flatten.map fun point => point.val - 48)
  else none

/-- `sys.int_info.default_max_str_digits`. -/
def maxStrDigits : Nat := 4300

def readNatural (text : Text) : Option Nat :=
  match readDigits text with
  | some digits =>
      if maxStrDigits < digits.length then none
      else some (digits.foldl (fun value digit => 10 * value + digit) 0)
  | none => none

/-- `int(text)`; `none` is its `ValueError`. -/
def parseInt (text : Text) : Option Int :=
  match ((text.map asciiForm).dropWhile isAsciiSpace).rdropWhile isAsciiSpace with
  | [] => none
  | sign :: rest =>
      if sign = 43 then (readNatural rest).map fun value => (value : Int)
      else if sign = 45 then (readNatural rest).map fun value => -(value : Int)
      else (readNatural (sign :: rest)).map fun value => (value : Int)

/-- `str(number)`. -/
def decimalText (number : Nat) : Text := charsText (Nat.toDigits 10 number)

section Decimal

theorem char_point_value {c : Char} (small : c.toNat < 0x110000) :
    (Fin.ofNat 0x110000 c.toNat).val = c.toNat := Nat.mod_eq_of_lt small

theorem digit_char_range {c : Char} {number : Nat} (digit : c ∈ Nat.toDigits 10 number) :
    48 ≤ c.toNat ∧ c.toNat ≤ 57 := by
  have isDigit := Nat.isDigit_of_mem_toDigits (by decide) (by decide) digit
  simp only [Char.isDigit, Bool.and_eq_true, decide_eq_true_eq, UInt32.le_iff_toNat_le] at isDigit
  exact isDigit

variable (number : Nat)

theorem decimal_point_range {point : CodePoint} (digit : point ∈ decimalText number) :
    48 ≤ point.val ∧ point.val ≤ 57 := by
  obtain ⟨c, isDigit, rfl⟩ := List.mem_map.mp digit
  have range := digit_char_range isDigit
  rw [char_point_value (by omega)]
  exact range

theorem decimal_not_mem {point : CodePoint} (other : ¬ (48 ≤ point.val ∧ point.val ≤ 57)) :
    point ∉ decimalText number := fun digit => other (decimal_point_range number digit)

theorem decimal_text_nonempty : decimalText number ≠ [] := by
  rw [decimalText, charsText, Ne, List.map_eq_nil_iff]
  exact Nat.toDigits_ne_nil

/-- Its digits are the ones that are read. -/
theorem read_decimal_digits : readDigits (decimalText number) =
    some ((decimalText number).map fun point => point.val - 48) := by
  have whole : (decimalText number).splitOn 95 = [decimalText number] :=
    List.splitOn_eq_singleton (decimal_not_mem number (by decide))
  have digits : (decimalText number).all isAsciiDigit = true := by
    rw [List.all_eq_true]
    intro point digit
    simpa [isAsciiDigit] using decimal_point_range number digit
  have some : (decimalText number).isEmpty = false := by
    rw [List.isEmpty_eq_false_iff]
    exact decimal_text_nonempty number
  simp only [readDigits, whole, List.all_cons, List.all_nil, digits, some, Bool.not_false,
    Bool.and_self, if_true, List.flatten_cons, List.flatten_nil, List.append_nil]

theorem decimal_value : ((decimalText number).map fun point => point.val - 48).foldl
    (fun value digit => 10 * value + digit) 0 = number := by
  rw [decimalText, charsText, List.map_map, List.foldl_map]
  have step : ∀ (value : Nat), ∀ c ∈ Nat.toDigits 10 number,
      10 * value + ((fun point : CodePoint => point.val - 48) ∘
        fun c : Char => Fin.ofNat 0x110000 c.toNat) c = 10 * value + (c.toNat - '0'.toNat) := by
    intro value c digit
    have range := digit_char_range digit
    rw [Function.comp_apply, char_point_value (by omega)]
    rfl
  rw [List.foldl_ext _ _ 0 step, ← Nat.ofDigitChars_eq_foldl]
  exact Nat.ofDigitChars_ten_toDigits

theorem read_decimal (short : (decimalText number).length ≤ maxStrDigits) :
    readNatural (decimalText number) = some number := by
  rw [readNatural, read_decimal_digits]
  dsimp only
  rw [List.length_map, if_neg (Nat.not_lt.mpr short), decimal_value]

/-- `int(str(number))`. -/
theorem parse_int_decimal (short : (decimalText number).length ≤ maxStrDigits) :
    parseInt (decimalText number) = some (number : Int) := by
  have plain : (decimalText number).map asciiForm = decimalText number := by
    have same : ∀ point ∈ decimalText number, asciiForm point = id point := by
      intro point digit
      have range := decimal_point_range number digit
      exact if_pos (by omega)
    rw [List.map_congr_left same, List.map_id]
  have solid : ∀ point ∈ decimalText number, isAsciiSpace point = false := by
    intro point digit
    have range := decimal_point_range number digit
    simp only [isAsciiSpace, Bool.or_eq_false_iff, Bool.and_eq_false_iff, decide_eq_false_iff_not]
    omega
  have plus := decimal_not_mem number (show ¬ (48 ≤ (43 : CodePoint).val ∧ _) by decide)
  have minus := decimal_not_mem number (show ¬ (48 ≤ (45 : CodePoint).val ∧ _) by decide)
  have value := read_decimal number short
  rw [parseInt, plain, strip_self solid]
  cases text : decimalText number with
  | nil => exact absurd text (decimal_text_nonempty number)
  | cons sign rest =>
      rw [text] at plus minus value
      dsimp only
      rw [if_neg (List.ne_of_not_mem_cons plus).symm, if_neg (List.ne_of_not_mem_cons minus).symm,
        value]
      rfl

end Decimal

example : parseInt (charsText " -1_0\n".toList) = some (-10) := by decide +kernel

example : parseInt (charsText "1__0".toList) = none := by decide +kernel

end PyRuntime
