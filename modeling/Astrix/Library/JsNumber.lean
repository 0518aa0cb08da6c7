import Astrix.Library.DecimalText
import Mathlib.Data.List.DropRight

/-!
# Whole numbers of JavaScript

The numbers of the language are doubles. Those that `parseInt` gives, and that
counting on from them gives, are whole numbers rounded to 53 binary digits, the
infinities and `NaN`. Below `2 ^ 53` a number is what its digits say and is read
back from its text. From there on its text has the fewest digits that tell it
from other doubles, and from `10 ^ 21` on an exponent, which `parseInt` does not
read.
-/

namespace JsRuntime

open PyRuntime

set_option autoImplicit false

section Rounding

/-- The closest multiple of the unit, and of two that are as close the even one. -/
def nearestMultiple (unit number : Nat) : Nat :=
  let quotient := number / unit
  let rest := number % unit
  if 2 * rest < unit ∨ 2 * rest = unit ∧ quotient % 2 = 0 then quotient * unit
  else (quotient + 1) * unit

/-- The double closest to a whole number, had doubles no greatest exponent. -/
def roundDouble (number : Nat) : Nat := nearestMultiple (2 ^ (number.log2 - 52)) number

/-- Below it all whole numbers are doubles. -/
def safeBound : Nat := 2 ^ 53

theorem log2_small {number : Nat} (small : number < safeBound) : number.log2 < 53 := by
  rcases Nat.eq_zero_or_pos number with rfl | positive
  · decide
  · exact (Nat.log2_lt positive.ne').mpr small

theorem round_double_small {number : Nat} (small : number < safeBound) :
    roundDouble number = number := by
  have digits : number.log2 - 52 = 0 := by
    have bound := log2_small small
    omega
  simp [roundDouble, digits, nearestMultiple, Nat.mod_one]

end Rounding

inductive JsNumber where
  | nan
  | infinite (negative : Bool)
  | whole (value : Int)
  deriving DecidableEq, Repr

namespace JsNumber

/-- The double of a whole number. -/
def ofInt (value : Int) : JsNumber :=
  let magnitude := roundDouble value.natAbs
  if 1024 ≤ magnitude.log2 then .infinite (value < 0) else .whole (value.sign * magnitude)

/-- `number + 1`. -/
def succ : JsNumber → JsNumber
  | .whole value => .ofInt (value + 1)
  | .infinite negative => .infinite negative
  | .nan => .nan

theorem of_int_small {value : Int} (small : value.natAbs < safeBound) :
    ofInt value = .whole value := by
  have bound : ¬ 1024 ≤ value.natAbs.log2 := by
    have digits := log2_small small
    omega
  rw [ofInt, round_double_small small, if_neg bound, Int.sign_mul_natAbs]

/-- Rounding keeps the sign. -/
theorem of_int_nonpos {value number : Int} (nonpos : value ≤ 0)
    (rounded : ofInt value = .whole number) : number ≤ 0 := by
  rw [ofInt] at rounded
  split_ifs at rounded
  cases rounded
  exact Int.mul_nonpos_of_nonpos_of_nonneg (Int.sign_nonpos_iff.mpr nonpos) (Int.natCast_nonneg _)

end JsNumber

section Reading

def wideSpaces : List Nat := [0xa0, 0x1680, 0x2028, 0x2029, 0x202f, 0x205f, 0x3000, 0xfeff]

/-- White space of the language, line ends included. -/
def isJsSpace (point : CodePoint) : Bool :=
  isAsciiSpace point || wideSpaces.contains point.val ||
    (0x2000 ≤ point.val && point.val ≤ 0x200a)

/-- The number of the digits that a text begins with. -/
def leadingNumber (text : Text) : Option Nat :=
  match text.takeWhile isAsciiDigit with
  | [] => none
  | digits => some (digits.foldl (fun value point => 10 * value + (point.val - 48)) 0)

def signedNumber (negative : Bool) : Option Nat → JsNumber
  | none => .nan
  | some number => .ofInt (if negative then -number else number)

/-- `parseInt(text, 10)`: what comes after the digits is not looked at. -/
def jsParseInt (text : Text) : JsNumber :=
  match text.dropWhile isJsSpace with
  | [] => .nan
  | sign :: rest =>
      if sign = 45 then signedNumber true (leadingNumber rest)
      else if sign = 43 then signedNumber false (leadingNumber rest)
      else signedNumber false (leadingNumber (sign :: rest))

end Reading

section Writing

/-- With as few significant digits as the double allows, and among those numbers
the closest. -/
def shortestWhole (number : Nat) : Nat :=
  let places := (decimalText number).length
  let candidates := (List.range places).map fun kept =>
    nearestMultiple (10 ^ (places - 1 - kept)) number
  (candidates.find? fun candidate => roundDouble candidate = number).getD number

def wideText (number : Nat) : Text :=
  let digits := decimalText (shortestWhole number)
  if digits.length ≤ 21 then digits
  else
    match digits.rdropWhile (· = 48) with
    | [] => []
    | first :: rest =>
        first :: (if rest = [] then [] else 46 :: rest) ++ literal "e+" ++
          decimalText (digits.length - 1)

def wholeText (number : Nat) : Text :=
  if number < safeBound then decimalText number else wideText number

/-- `String(number)`. -/
def jsNumberText : JsNumber → Text
  | .nan => literal "NaN"
  | .infinite false => literal "Infinity"
  | .infinite true => literal "-Infinity"
  | .whole value =>
      if value < 0 then 45 :: wholeText value.natAbs else wholeText value.natAbs

example : jsNumberText (.ofInt (2 ^ 60)) = literal "1152921504606847000" ∧
    jsNumberText (.ofInt (2 ^ 70)) = literal "1.1805916207174113e+21" := by
  decide +kernel

end Writing

section RoundTrip

theorem wide_spaces_high : ∀ value ∈ wideSpaces, 0xa0 ≤ value := by decide

theorem leading_decimal (number : Nat) : leadingNumber (decimalText number) = some number := by
  have digits : (decimalText number).takeWhile isAsciiDigit = decimalText number := by
    rw [List.takeWhile_eq_self_iff]
    intro point digit
    simpa [isAsciiDigit] using decimal_point_range number digit
  have value := decimal_value number
  rw [List.foldl_map] at value
  rw [leadingNumber, digits]
  cases text : decimalText number with
  | nil => exact absurd text (decimal_text_nonempty number)
  | cons first rest =>
      rw [text] at value
      exact congrArg some value

theorem drop_spaces {first : CodePoint} {rest : Text} (solid : isJsSpace first = false) :
    (first :: rest).dropWhile isJsSpace = first :: rest :=
  List.dropWhile_cons_of_neg (Bool.eq_false_iff.mp solid)

theorem parse_decimal (number : Nat) : jsParseInt (decimalText number) = .ofInt number := by
  have value := leading_decimal number
  have range := @decimal_point_range number
  rw [jsParseInt]
  cases text : decimalText number with
  | nil => exact absurd text (decimal_text_nonempty number)
  | cons first rest =>
      rw [text] at value range
      have digit := @range first List.mem_cons_self
      have solid : isJsSpace first = false := by
        have other : ∀ value ∈ wideSpaces, value ≠ first.val := by
          intro value member same
          have wide := wide_spaces_high value member
          omega
        simp only [isJsSpace, isAsciiSpace, List.contains_eq_mem, Bool.or_eq_false_iff,
          Bool.and_eq_false_iff, decide_eq_false_iff_not]
        exact ⟨⟨by omega, fun member => other _ member rfl⟩, by omega⟩
      rw [drop_spaces solid]
      dsimp only
      rw [if_neg, if_neg, value]
      · rfl
      · intro plus
        rw [plus] at digit
        exact absurd digit (by decide)
      · intro minus
        rw [minus] at digit
        exact absurd digit (by decide)

theorem parse_minus (text : Text) :
    jsParseInt (45 :: text) = signedNumber true (leadingNumber text) := by
  rw [jsParseInt, drop_spaces (by decide)]
  rfl

/-- Below the bound what was written is read back. -/
theorem parse_text_small {value : Int} (small : value.natAbs < safeBound) :
    jsParseInt (jsNumberText (.whole value)) = .whole value := by
  rw [jsNumberText, wholeText, if_pos small]
  split_ifs with negative
  · rw [parse_minus, leading_decimal, signedNumber, if_pos rfl]
    have same : -(value.natAbs : Int) = value := by omega
    rw [same, JsNumber.of_int_small small]
  · rw [parse_decimal]
    have same : (value.natAbs : Int) = value := by omega
    rw [same, JsNumber.of_int_small small]

/-- A number that is not positive is not read back as a positive one. -/
theorem parse_text_nonpos {value number : Int} (nonpos : value ≤ 0)
    (read : jsParseInt (jsNumberText (.whole value)) = .whole number) : number ≤ 0 := by
  rcases Int.lt_or_eq_of_le nonpos with negative | rfl
  · rw [jsNumberText, if_pos negative, parse_minus] at read
    cases digits : leadingNumber (wholeText value.natAbs) with
    | none =>
        rw [digits] at read
        cases read
    | some magnitude =>
        rw [digits, signedNumber, if_pos rfl] at read
        exact JsNumber.of_int_nonpos (by omega) read
  · rw [parse_text_small (by decide)] at read
    cases read
    exact Int.le_refl 0

theorem parse_nan : jsParseInt (jsNumberText .nan) = .nan := by decide

theorem parse_infinite (negative : Bool) :
    jsParseInt (jsNumberText (.infinite negative)) = .nan := by
  cases negative <;> decide

/-- Below the bound a number that is counted on, written and read is one more at
most, or not positive. -/
theorem parse_succ_le {current : JsNumber} {bound number : Int} (nonneg : 0 ≤ bound)
    (fits : ∀ value, current = .whole value → value ≤ bound) (room : bound + 1 < safeBound)
    (read : jsParseInt (jsNumberText current.succ) = .whole number) : number ≤ bound + 1 := by
  cases current with
  | nan => cases parse_nan.symm.trans read
  | infinite negative => cases (parse_infinite negative).symm.trans read
  | whole value =>
      have most := fits value rfl
      rw [JsNumber.succ] at read
      rcases Int.lt_or_le 0 (value + 1) with positive | nonpos
      · have small : (value + 1).natAbs < safeBound := by omega
        rw [JsNumber.of_int_small small, parse_text_small small] at read
        cases read
        omega
      · cases rounded : JsNumber.ofInt (value + 1) with
        | nan =>
            rw [rounded] at read
            cases parse_nan.symm.trans read
        | infinite negative =>
            rw [rounded] at read
            cases (parse_infinite negative).symm.trans read
        | whole next =>
            rw [rounded] at read
            have low := parse_text_nonpos (JsNumber.of_int_nonpos nonpos rounded) read
            omega

end RoundTrip

end JsRuntime
