import Mathlib.Algebra.FreeMonoid.Basic
import Astrix.Library.StepCost

/-!
# A queue that is served in turns

Steps take from the front of a queue and add behind it, and a turn takes a batch
or everything there is. So what was taken and what is left are what was queued,
in order, and each turn brings the front a batch further.
-/

set_option autoImplicit false

universe u v w

namespace StepMachine

variable {State : Type u} {Action : Type v} {Item : Type w}

/-- What the steps of a history take, one after the other. -/
def totalTaken (machine : StepMachine State Action) (taken : State → Action → List Item)
    (state : State) (history : List Action) : List Item :=
  (machine.totalCost (fun reached action => FreeAddMonoid.ofList (taken reached action)) state
    history).toList

/-- What one step does with a queue. -/
structure Serves (batch : Nat) (queue later taken : List Item) (turns : Nat) : Prop where
  moved : ∃ added, taken ++ later = queue ++ added
  once : turns ≤ 1
  served : 0 < turns → batch ≤ taken.length ∨ later = []

section Runs

variable {machine : StepMachine State Action} {allowed : State → Action → Prop}
  {start final : State} {history : List Action} {batch : Nat} {queue : State → List Item}
  {taken : State → Action → List Item} {turns : State → Action → Nat}

theorem Run.total_taken_next {action : Action} {later : State}
    (run : machine.Run allowed start history final)
    (stepped : machine.step final action = some later) :
    machine.totalTaken taken start (history ++ [action]) =
      machine.totalTaken taken start history ++ taken final action := by
  rw [totalTaken, run.total_cost_next stepped]
  rfl

/-- What the turns of a run have taken of the queue of its first state. -/
structure ServedSoFar (batch : Nat) (first later taken : List Item) (turns : Nat) : Prop where
  moved : ∃ added, taken ++ later = first ++ added
  progress : batch * turns ≤ taken.length ∨ first.length ≤ taken.length

theorem ServedSoFar.next {first middle later before more : List Item} {turns turn : Nat}
    (soFar : ServedSoFar batch first middle before turns)
    (serves : Serves batch middle later more turn) :
    ServedSoFar batch first later (before ++ more) (turns + turn) := by
  obtain ⟨queued, earlier⟩ := soFar.moved
  obtain ⟨added, now⟩ := serves.moved
  have moved : before ++ more ++ later = first ++ (queued ++ added) := by
    rw [List.append_assoc, now, ← List.append_assoc, earlier, List.append_assoc]
  refine ⟨⟨queued ++ added, moved⟩, ?_⟩
  rw [List.length_append]
  rcases soFar.progress with onTime | all
  · rcases Nat.eq_zero_or_pos turn with none | some
    · left
      rw [none, Nat.add_zero]
      omega
    · have one : turn = 1 := Nat.le_antisymm serves.once some
      rw [one, Nat.mul_add, Nat.mul_one]
      rcases serves.served some with whole | emptied
      · left
        omega
      · right
        have length := congrArg List.length moved
        rw [emptied, List.append_nil, List.length_append, List.length_append] at length
        omega
  · right
    omega

/-- After `n` turns at least the first `batch * n` items of the queue are taken. -/
theorem Run.served_in_turn (run : machine.Run allowed start history final)
    (each : ∀ state action later, allowed state action → machine.step state action = some later →
      Serves batch (queue state) (queue later) (taken state action) (turns state action)) :
    (∃ added, machine.totalTaken taken start history ++ queue final = queue start ++ added) ∧
      (queue start).take (batch * machine.totalCost turns start history) <+:
        machine.totalTaken taken start history := by
  have soFar : ServedSoFar batch (queue start) (queue final)
      (machine.totalTaken taken start history) (machine.totalCost turns start history) := by
    induction run with
    | start => exact ⟨⟨[], (List.append_nil _).symm⟩, .inl (Nat.zero_le _)⟩
    | next prior permitted stepped ih =>
        rw [prior.total_taken_next stepped, prior.total_cost_next stepped]
        exact ih.next (each _ _ _ permitted stepped)
  obtain ⟨added, moved⟩ := soFar.moved
  refine ⟨⟨added, moved⟩, ?_⟩
  apply List.prefix_of_prefix_length_le
  · exact (List.take_prefix _ _).trans (List.prefix_append _ added)
  · rw [← moved]
    exact List.prefix_append _ _
  · rw [List.length_take]
    rcases soFar.progress with onTime | all <;> omega

end Runs

end StepMachine
