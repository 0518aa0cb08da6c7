import Mathlib.Data.List.Forall2
import Mathlib.Data.List.GetD
import Mathlib.Data.List.Sort

/-!
# Order statistics of a list

The `k`-th smallest item of a list is at most a bound exactly when more than
`k` items are. Counting does not look at positions, so every order statistic
is monotone: raising the items of a list, each at its place, lowers none.
-/

set_option autoImplicit false

universe u

namespace OrderStatistics

variable {Item : Type u} [LinearOrder Item]

/-- In an ascending list the items up to a bound stand in front. -/
theorem ascending_le_iff {sorted : List Item} (ascending : sorted.Pairwise (· ≤ ·)) {k : Nat}
    (inside : k < sorted.length) (bound : Item) :
    sorted[k] ≤ bound ↔ k < sorted.countP (· ≤ bound) := by
  induction sorted generalizing k with
  | nil => exact absurd inside (Nat.not_lt_zero k)
  | cons least rest ih =>
      obtain ⟨below, ascendingRest⟩ := List.pairwise_cons.mp ascending
      by_cases small : least ≤ bound
      · have counts : (least :: rest).countP (· ≤ bound) = rest.countP (· ≤ bound) + 1 :=
          List.countP_cons_of_pos (decide_eq_true small)
        rw [counts]
        cases k with
        | zero => simp [small]
        | succ k =>
            rw [List.getElem_cons_succ, ih ascendingRest (Nat.lt_of_succ_lt_succ inside)]
            exact Nat.succ_lt_succ_iff.symm
      · have none : (least :: rest).countP (· ≤ bound) = 0 := by
          rw [List.countP_eq_zero]
          intro item member
          rw [decide_eq_true_eq]
          rcases List.mem_cons.mp member with rfl | behind
          · exact small
          · exact fun le => small ((below item behind).trans le)
        have above : least ≤ (least :: rest)[k] := by
          cases k with
          | zero => exact le_rfl
          | succ k => exact below _ (List.getElem_mem _)
        rw [none]
        exact iff_of_false (fun le => small (above.trans le)) (Nat.not_lt_zero k)

variable (items : List Item)

theorem merge_sort_le_iff {k : Nat} (inside : k < items.mergeSort.length) (bound : Item) :
    items.mergeSort[k] ≤ bound ↔ k < items.countP (· ≤ bound) := by
  have ascending := List.pairwise_mergeSort' (· ≤ ·) items
  rw [ascending_le_iff ascending inside, (List.mergeSort_perm items _).countP_eq]

/-- Raising the items lets fewer of them through. -/
theorem count_antitone {first second : List Item} (below : List.Forall₂ (· ≤ ·) first second)
    (bound : Item) : second.countP (· ≤ bound) ≤ first.countP (· ≤ bound) := by
  induction below with
  | nil => exact le_rfl
  | @cons low high _ _ le _ ih =>
      by_cases small : high ≤ bound
      · simpa [List.countP_cons, small, le.trans small] using ih
      · rw [List.countP_cons, if_neg (by rwa [decide_eq_true_eq]), Nat.add_zero]
        exact ih.trans (List.sublist_cons_self low _).countP_le

/-- Every order statistic is monotone, wherever the items stand in sorted order. -/
theorem merge_sort_mono {first second : List Item} (below : List.Forall₂ (· ≤ ·) first second)
    (k : Nat) (other : Item) :
    first.mergeSort.getD k other ≤ second.mergeSort.getD k other := by
  have same : first.mergeSort.length = second.mergeSort.length := by
    rw [List.length_mergeSort, List.length_mergeSort, below.length_eq]
  by_cases inside : k < second.mergeSort.length
  · have inFirst : k < first.mergeSort.length := same ▸ inside
    rw [List.getD_eq_getElem _ _ inFirst, List.getD_eq_getElem _ _ inside,
      merge_sort_le_iff first inFirst]
    have counted := (merge_sort_le_iff second inside _).mp le_rfl
    exact counted.trans_le (count_antitone below _)
  · rw [List.getD_eq_default _ _ (Nat.not_lt.mp inside),
      List.getD_eq_default _ _ (same ▸ Nat.not_lt.mp inside)]

end OrderStatistics
