import Mathlib.Data.List.Basic
import Astrix.Library.StepMachine

/-!
# Machines and lists seen in part

A machine seen through a view does what another machine can do if each of its
steps is seen as a step of the other or not at all. A list of which only some
items are seen is met where what is in flight holds more than the other machine
knows of: what is seen keeps its order, and taking an item out is seen as taking
out what is seen of it.
-/

set_option autoImplicit false

universe u v

namespace StepMachine

variable {State Seen : Type u} {Action Step : Type v} {machine : StepMachine State Action}
  {other : StepMachine Seen Step} {allowed : State → Action → Prop} {permitted : Seen → Step → Prop}
  {view : State → Seen} {kept : Seen → Prop}

/-- What the other machine keeps may be used for the steps that follow. -/
theorem Run.seen {start final : State} {history : List Action}
    (run : machine.Run allowed start history final) (initial : kept (view start))
    (keeps : ∀ seen step later, kept seen → permitted seen step →
      other.step seen step = some later → kept later)
    (each : ∀ state action later, kept (view state) → allowed state action →
      machine.step state action = some later → view later = view state ∨
        ∃ step, permitted (view state) step ∧ other.step (view state) step = some (view later)) :
    kept (view final) ∧ ∃ steps, other.Run permitted (view start) steps (view final) := by
  apply @Run.invariant _ _ _ _ _ _ _ (fun state => kept (view state) ∧
    ∃ steps, other.Run permitted (view start) steps (view state)) run
  · exact ⟨initial, [], .start⟩
  · intro state action later before enabled stepped
    obtain ⟨known, steps, reached⟩ := before
    rcases each state action later known enabled stepped with same | ⟨step, may, taken⟩
    · rw [same]
      exact ⟨known, steps, reached⟩
    · exact ⟨keeps _ _ _ known may taken, steps ++ [step], .next reached may taken⟩

end StepMachine

namespace PartialView

variable {Item : Type u} {Seen : Type v} {look : Item → Option Seen} {items : List Item}
  {index : Nat} {item : Item} {seen : Seen}

/-- The place of the item at `index` among those that are seen. -/
def place (look : Item → Option Seen) (items : List Item) (index : Nat) : Nat :=
  ((items.take index).filterMap look).length

theorem split_at (found : items[index]? = some item) :
    items = items.take index ++ item :: items.drop (index + 1) := by
  obtain ⟨inside, same⟩ := List.getElem?_eq_some_iff.mp found
  rw [← same, ← List.drop_eq_getElem_cons inside, List.take_append_drop]

theorem view_split (found : items[index]? = some item) (looked : look item = some seen) :
    items.filterMap look =
      (items.take index).filterMap look ++ seen :: (items.drop (index + 1)).filterMap look := by
  conv_lhs => rw [split_at found]
  rw [List.filterMap_append, List.filterMap_cons_some looked]

theorem view_get (found : items[index]? = some item) (looked : look item = some seen) :
    (items.filterMap look)[place look items index]? = some seen := by
  rw [place, view_split found looked, List.getElem?_append_right (Nat.le_refl _), Nat.sub_self]
  rfl

theorem view_erase (found : items[index]? = some item) (looked : look item = some seen) :
    (items.eraseIdx index).filterMap look =
      (items.filterMap look).eraseIdx (place look items index) := by
  rw [place, view_split found looked, List.eraseIdx_append_of_length_le (Nat.le_refl _),
    Nat.sub_self, List.eraseIdx_cons_zero, List.eraseIdx_eq_take_drop_succ, List.filterMap_append]

theorem view_erase_unseen (found : items[index]? = some item) (looked : look item = none) :
    (items.eraseIdx index).filterMap look = items.filterMap look := by
  conv_rhs => rw [split_at found]
  rw [List.eraseIdx_eq_take_drop_succ, List.filterMap_append, List.filterMap_append,
    List.filterMap_cons_none looked]

end PartialView
