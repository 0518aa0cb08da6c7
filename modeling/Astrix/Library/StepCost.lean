import Mathlib.Algebra.Order.Monoid.Defs
import Astrix.Library.StepMachine

/-!
# What the steps of a run add up to

A cost for each step of a machine, and its sum over a history. A measure of the
states that changes by the cost of each step is the sum of the costs; a
potential that pays for each step bounds it.
-/

set_option autoImplicit false

universe u v w

namespace StepMachine

variable {State : Type u} {Action : Type v} {M : Type w}

/-- The costs of the actions of a history, taken from `state` on. -/
def totalCost [AddMonoid M] (machine : StepMachine State Action) (cost : State → Action → M) :
    State → List Action → M
  | _, [] => 0
  | state, action :: rest =>
      cost state action + match machine.step state action with
        | some later => totalCost machine cost later rest
        | none => 0

variable {machine : StepMachine State Action} {allowed : State → Action → Prop}
  {start middle final : State} {history : List Action}

/-- The steps of a run may use an invariant of the states they start from. -/
theorem Run.keeping (run : machine.Run allowed start history final) (holds : State → Prop)
    (initial : holds start)
    (preserved : ∀ state action later, holds state → allowed state action →
      machine.step state action = some later → holds later) :
    holds final ∧
      machine.Run (fun state action => holds state ∧ allowed state action) start history final := by
  induction run with
  | start => exact ⟨initial, .start⟩
  | next prior permitted stepped ih =>
      exact ⟨preserved _ _ _ ih.1 permitted stepped, .next ih.2 ⟨ih.1, permitted⟩ stepped⟩

section Monoid

variable [AddMonoid M] {cost : State → Action → M}

theorem Run.total_cost_append (run : machine.Run allowed start history middle)
    (later : List Action) :
    machine.totalCost cost start (history ++ later) =
      machine.totalCost cost start history + machine.totalCost cost middle later := by
  induction run generalizing later with
  | start => exact (zero_add _).symm
  | next prior _ stepped ih =>
      rw [List.append_assoc, ih, ih, List.singleton_append, totalCost, totalCost, stepped]
      simp only [totalCost, add_zero, add_assoc]

theorem Run.total_cost_next {action : Action} (run : machine.Run allowed start history middle)
    (stepped : machine.step middle action = some final) :
    machine.totalCost cost start (history ++ [action]) =
      machine.totalCost cost start history + cost middle action := by
  rw [run.total_cost_append, totalCost, stepped]
  simp only [totalCost, add_zero]

/-- A measure that grows by the cost of each step has grown by their sum. -/
theorem Run.accumulates (run : machine.Run allowed start history final) (measure : State → M)
    (each : ∀ state action later, allowed state action → machine.step state action = some later →
      measure later = measure state + cost state action) :
    measure final = measure start + machine.totalCost cost start history := by
  induction run with
  | start => exact (add_zero _).symm
  | next prior permitted stepped ih =>
      rw [each _ _ _ permitted stepped, ih, prior.total_cost_next stepped, add_assoc]

end Monoid

section Ordered

variable [AddCommMonoid M] [PartialOrder M] [IsOrderedAddMonoid M] {cost : State → Action → M}

/-- A potential that pays for each step pays for all of them. -/
theorem Run.amortized (run : machine.Run allowed start history final) (potential : State → M)
    (pays : ∀ state action later, allowed state action → machine.step state action = some later →
      cost state action + potential later ≤ potential state) :
    machine.totalCost cost start history + potential final ≤ potential start := by
  induction run with
  | start => exact le_of_eq (zero_add _)
  | @next history state later action prior permitted stepped ih =>
      calc
        machine.totalCost cost start (history ++ [action]) + potential later =
            machine.totalCost cost start history + (cost state action + potential later) := by
          rw [prior.total_cost_next stepped, add_assoc]
        _ ≤ machine.totalCost cost start history + potential state :=
          add_le_add_right (pays _ _ _ permitted stepped) _
        _ ≤ potential start := ih

/-- A measure that gains the cost of each step has gained all of them. -/
theorem Run.gains (run : machine.Run allowed start history final) (measure : State → M)
    (each : ∀ state action later, allowed state action → machine.step state action = some later →
      measure state + cost state action ≤ measure later) :
    measure start + machine.totalCost cost start history ≤ measure final := by
  induction run with
  | start => exact le_of_eq (add_zero _)
  | @next history state later action prior permitted stepped ih =>
      calc
        measure start + machine.totalCost cost start (history ++ [action]) =
            measure start + machine.totalCost cost start history + cost state action := by
          rw [prior.total_cost_next stepped, add_assoc]
        _ ≤ measure state + cost state action := add_le_add_left ih _
        _ ≤ measure later := each _ _ _ permitted stepped

end Ordered

end StepMachine
