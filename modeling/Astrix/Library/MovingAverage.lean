import Mathlib.Algebra.Order.Field.Basic
import Mathlib.Data.List.Induction
import Mathlib.Tactic.Linarith
import Mathlib.Tactic.Ring

/-!
# Exponential moving averages

An average that takes each new value with a fixed weight. Values on one side of
a bound pull the average to that side; the share of the start is a power.
-/

set_option autoImplicit false

universe u

variable {R : Type u} [Field R]

/-- The average after some values, each taken with `weight`. -/
def movingAverage (weight start : R) (values : List R) : R :=
  values.foldl (fun average value => (1 - weight) * average + weight * value) start

namespace MovingAverage

theorem next (weight start value : R) (values : List R) :
    movingAverage weight start (values ++ [value]) =
      (1 - weight) * movingAverage weight start values + weight * value := by
  rw [movingAverage, List.foldl_append]
  rfl

variable [LinearOrder R] [IsStrictOrderedRing R] {weight bound : R} {values : List R}

/-- Values up to a bound bring the average up to the bound and no further than what
is left of the start. -/
theorem upper (start : R) (positive : 0 ≤ weight) (share : weight ≤ 1)
    (below : ∀ value ∈ values, value ≤ bound) :
    movingAverage weight start values ≤
      bound + (1 - weight) ^ values.length * (start - bound) := by
  induction values using List.reverseRecOn with
  | nil =>
      rw [movingAverage, List.foldl_nil, List.length_nil, pow_zero, one_mul]
      linarith
  | append_singleton values value ih =>
      have earlier := ih fun other member => below other (List.mem_append_left _ member)
      have newest := below value (List.mem_append_right _ List.mem_cons_self)
      have kept := mul_le_mul_of_nonneg_left earlier (sub_nonneg.mpr share)
      have added := mul_le_mul_of_nonneg_left newest positive
      rw [next, List.length_append, List.length_singleton, pow_succ]
      calc
        (1 - weight) * movingAverage weight start values + weight * value ≤
            (1 - weight) * (bound + (1 - weight) ^ values.length * (start - bound)) +
              weight * bound := add_le_add kept added
        _ = bound + (1 - weight) ^ values.length * (1 - weight) * (start - bound) := by ring

theorem lower (start : R) (positive : 0 ≤ weight) (share : weight ≤ 1)
    (above : ∀ value ∈ values, bound ≤ value) :
    bound + (1 - weight) ^ values.length * (start - bound) ≤
      movingAverage weight start values := by
  induction values using List.reverseRecOn with
  | nil =>
      rw [movingAverage, List.foldl_nil, List.length_nil, pow_zero, one_mul]
      linarith
  | append_singleton values value ih =>
      have earlier := ih fun other member => above other (List.mem_append_left _ member)
      have newest := above value (List.mem_append_right _ List.mem_cons_self)
      have kept := mul_le_mul_of_nonneg_left earlier (sub_nonneg.mpr share)
      have added := mul_le_mul_of_nonneg_left newest positive
      rw [next, List.length_append, List.length_singleton, pow_succ]
      calc
        bound + (1 - weight) ^ values.length * (1 - weight) * (start - bound) =
            (1 - weight) * (bound + (1 - weight) ^ values.length * (start - bound)) +
              weight * bound := by ring
        _ ≤ (1 - weight) * movingAverage weight start values + weight * value :=
          add_le_add kept added

end MovingAverage
