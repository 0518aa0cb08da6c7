import Mathlib.Data.List.Basic

/-!
# Folds that treat their keys separately

A left fold over items that carry a key. If one item changes what a state shows
for its own key by a rule of that key alone and leaves what it shows for every
other key, then the whole fold shows for a key what the rule makes of the items
of that key, in whatever order they stand among the others.
-/

set_option autoImplicit false

universe u v w x

namespace KeyedFold

variable {State : Type u} {Item : Type v} {Key : Type w} {Shown : Type x} [DecidableEq Key]

/-- One item acts on what its key shows, where the invariant holds. -/
structure Separates (invariant : State → Prop) (step : State → Item → State) (key : Item → Key)
    (shows : State → Key → Shown) (rule : Shown → Item → Shown) : Prop where
  own : ∀ state item, invariant state →
    shows (step state item) (key item) = rule (shows state (key item)) item
  other : ∀ state item k, invariant state → key item ≠ k →
    shows (step state item) k = shows state k
  kept : ∀ state item, invariant state → invariant (step state item)

variable {invariant : State → Prop} {step : State → Item → State} {key : Item → Key}
  {shows : State → Key → Shown} {rule : Shown → Item → Shown} {state : State}

/-- The fold as one key sees it. -/
theorem Separates.fold (separates : Separates invariant step key shows rule)
    (holds : invariant state) (items : List Item) (k : Key) :
    shows (items.foldl step state) k =
      (items.filter fun item => key item = k).foldl rule (shows state k) := by
  induction items generalizing state with
  | nil => rfl
  | cons item rest ih =>
      rw [List.foldl_cons, ih (separates.kept state item holds)]
      by_cases same : key item = k
      · have own := separates.own state item holds
        rw [same] at own
        rw [own, List.filter_cons_of_pos (by simpa using same), List.foldl_cons]
      · rw [separates.other state item k holds same,
          List.filter_cons_of_neg (by simpa using same)]

/-- Lists with the same items for a key show the same for it. -/
theorem Separates.fold_congr (separates : Separates invariant step key shows rule)
    (holds : invariant state) {first second : List Item} {k : Key}
    (same : (first.filter fun item => key item = k) = second.filter fun item => key item = k) :
    shows (first.foldl step state) k = shows (second.foldl step state) k := by
  rw [separates.fold holds, separates.fold holds, same]

end KeyedFold
