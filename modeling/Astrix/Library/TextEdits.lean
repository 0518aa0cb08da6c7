import Astrix.Library.DecimalText
import Mathlib.Data.List.DropRight
import Mathlib.Data.List.Infix

/-!
# Trimming, cutting and splitting text

The string methods that programs clean their input with: `strip` with and
without an argument, `removesuffix`, `split` and `partition`. Each of them is
the identity on what has nothing to take away.
-/

namespace PyRuntime

set_option autoImplicit false

universe u

section Items

variable {Item : Type u} (p : Item → Bool)

/-- What remains without the items at both ends that are to go. -/
def trim (items : List Item) : List Item := (items.dropWhile p).rdropWhile p

variable {p}

theorem trim_self {items : List Item} (solid : ∀ item ∈ items, p item = false) :
    trim p items = items := strip_self solid

/-- Trimming is over after once. -/
theorem trim_trim (items : List Item) : trim p (trim p items) = trim p items := by
  have front : (trim p items).dropWhile p = trim p items := by
    rw [List.dropWhile_eq_self_iff]
    intro inside
    have kept : trim p items <+: items.dropWhile p := List.rdropWhile_prefix p _
    have whole : 0 < (items.dropWhile p).length := inside.trans_le kept.length_le
    have same : (trim p items)[0] = (items.dropWhile p)[0] := kept.getElem inside
    rw [same]
    exact List.dropWhile_get_zero_not p items whole
  rw [trim, front, trim]
  exact List.rdropWhile_idempotent p _

/-- Nothing is taken away where both ends stay. -/
theorem trim_ends {first last : Item} {inner : List Item} (front : p first = false)
    (back : p last = false) : trim p (first :: inner ++ [last]) = first :: inner ++ [last] := by
  have whole : (first :: inner ++ [last]).dropWhile p = first :: inner ++ [last] := by
    rw [List.cons_append, List.dropWhile_cons_of_neg (by rw [front]; decide)]
  rw [trim, whole, List.rdropWhile_concat_neg]
  rw [back]
  decide

theorem trim_subset {items : List Item} {item : Item} (member : item ∈ trim p items) :
    item ∈ items :=
  (List.dropWhile_sublist p).subset ((List.rdropWhile_prefix p _).subset member)

variable [DecidableEq Item]

/-- `text.removesuffix(suffix)`. -/
def removeSuffix (suffix text : List Item) : List Item :=
  if suffix <:+ text then text.take (text.length - suffix.length) else text

theorem remove_suffix_append (text suffix : List Item) :
    removeSuffix suffix (text ++ suffix) = text := by
  rw [removeSuffix, if_pos (List.suffix_append text suffix), List.length_append,
    Nat.add_sub_cancel, List.take_left]

theorem remove_suffix_self {suffix text : List Item} (other : ¬ suffix <:+ text) :
    removeSuffix suffix text = text := if_neg other

/-- `text.partition(separator)` for one character, without the separator. -/
def partitionAt (separator : Item) : List Item → List Item × Bool × List Item
  | [] => ([], false, [])
  | item :: rest =>
      if item = separator then ([], true, rest)
      else
        let (before, found, after) := partitionAt separator rest
        (item :: before, found, after)

theorem partition_before_subset {separator item : Item} {items : List Item}
    (member : item ∈ (partitionAt separator items).1) : item ∈ items := by
  induction items with
  | nil => exact member
  | cons first rest ih =>
      rw [partitionAt] at member
      split_ifs at member with here
      · cases member
      · rcases List.mem_cons.mp member with rfl | behind
        · exact List.mem_cons_self ..
        · exact List.mem_cons_of_mem _ (ih behind)

theorem partition_after_subset {separator item : Item} {items : List Item}
    (member : item ∈ (partitionAt separator items).2.2) : item ∈ items := by
  induction items with
  | nil => exact member
  | cons first rest ih =>
      rw [partitionAt] at member
      split_ifs at member with here
      · exact List.mem_cons_of_mem _ member
      · exact List.mem_cons_of_mem _ (ih member)

/-- The parts of a split text are free of the separator. -/
theorem split_part_free {separator : Item} {items part : List Item}
    (member : part ∈ items.splitOn separator) : separator ∉ part := by
  induction items generalizing part with
  | nil =>
      rw [List.splitOn_nil, List.mem_singleton] at member
      rw [member]
      exact List.not_mem_nil
  | cons item rest ih =>
      rw [List.splitOn_cons_eq_if_modifyHead] at member
      by_cases here : item == separator
      · rw [if_pos here] at member
        rcases List.mem_cons.mp member with rfl | behind
        · exact List.not_mem_nil
        · exact ih behind
      · rw [if_neg here] at member
        cases parts : rest.splitOn separator with
        | nil => exact absurd parts (List.splitOn_ne_nil separator rest)
        | cons first others =>
            rw [parts, List.modifyHead_cons] at member
            rcases List.mem_cons.mp member with rfl | behind
            · intro inside
              rcases List.mem_cons.mp inside with same | inFirst
              · exact here (beq_iff_eq.mpr same.symm)
              · exact ih (by rw [parts]; exact List.mem_cons_self ..) inFirst
            · exact ih (by rw [parts]; exact List.mem_cons_of_mem _ behind)

end Items

/-- The white space of `str.isspace`, of `strip` and of the pattern `\s`. -/
def isSpace (point : CodePoint) : Bool :=
  isAsciiSpace point || (0x1c ≤ point.val && point.val ≤ 0x1f) || isWideSpace point

/-- `text.strip()`. -/
def strip (text : Text) : Text := trim isSpace text

/-- `text.strip(character)`. -/
def stripChar (character : CodePoint) (text : Text) : Text := trim (· == character) text

/-- `text.rstrip(character)`. -/
def rstripChar (character : CodePoint) (text : Text) : Text := text.rdropWhile (· == character)

theorem strip_strip (text : Text) : strip (strip text) = strip text := trim_trim text

end PyRuntime
