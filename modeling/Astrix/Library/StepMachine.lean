import Mathlib.Data.List.Basic

/-!
# Partial step machines, runs and invariants

A machine is a partial step function on states and actions; an action that is
not enabled yields `none`. A run carries its action history and, for every
step, the fact that the step was allowed. The invariant rules below are the
only inductions over runs: a development states what one step preserves and
applies them.
-/

set_option autoImplicit false

universe u v

structure StepMachine (State : Type u) (Action : Type v) where
  step : State → Action → Option State

namespace StepMachine

variable {State : Type u} {Action : Type v} (machine : StepMachine State Action)

/-- Runs whose every step satisfies `allowed`, with the history in order. -/
inductive Run (allowed : State → Action → Prop) (start : State) :
    List Action → State → Prop where
  | start : Run allowed start [] start
  | next {history : List Action} {state later : State} {action : Action}
      (prior : Run allowed start history state) (permitted : allowed state action)
      (stepped : machine.step state action = some later) :
      Run allowed start (history ++ [action]) later

/-- Every step is allowed. -/
def anyStep : State → Action → Prop := fun _ _ => True

instance (state : State) (action : Action) : Decidable (anyStep state action) :=
  isTrue trivial

variable {machine} {allowed : State → Action → Prop} {start final : State}
  {history : List Action}

theorem Run.invariant_with_history {property : List Action → State → Prop}
    (run : machine.Run allowed start history final)
    (initial : property [] start)
    (preserved : ∀ past state action later, property past state → allowed state action →
      machine.step state action = some later → property (past ++ [action]) later) :
    property history final := by
  induction run with
  | start => exact initial
  | next prior permitted stepped ih => exact preserved _ _ _ _ ih permitted stepped

theorem Run.invariant {property : State → Prop}
    (run : machine.Run allowed start history final) (initial : property start)
    (preserved : ∀ state action later, property state → allowed state action →
      machine.step state action = some later → property later) :
    property final :=
  @Run.invariant_with_history _ _ _ _ _ _ _ (fun _ state => property state) run initial
    fun _ state action later => preserved state action later

theorem Run.weaken {weaker : State → Action → Prop}
    (run : machine.Run allowed start history final)
    (implies : ∀ state action, allowed state action → weaker state action) :
    machine.Run weaker start history final := by
  induction run with
  | start => exact .start
  | next prior permitted stepped ih => exact .next ih (implies _ _ permitted) stepped

theorem Run.trans {middle : State} {later : List Action}
    (first : machine.Run allowed start history middle)
    (second : machine.Run allowed middle later final) :
    machine.Run allowed start (history ++ later) final := by
  induction second with
  | start => simpa using first
  | next prior permitted stepped ih =>
      rw [← List.append_assoc]
      exact .next ih permitted stepped

theorem Run.single {action : Action} (permitted : allowed start action)
    (stepped : machine.step start action = some final) :
    machine.Run allowed start [action] final :=
  @Run.next _ _ _ _ _ [] _ _ _ .start permitted stepped

/-- Executes a list of actions, checking before each that it is allowed. -/
def exec (machine : StepMachine State Action) (allowed : State → Action → Prop)
    [∀ state action, Decidable (allowed state action)] :
    State → List Action → Option State
  | state, [] => some state
  | state, action :: rest =>
      if allowed state action then
        (machine.step state action).bind fun later => exec machine allowed later rest
      else none

theorem run_of_exec [∀ state action, Decidable (allowed state action)]
    (actions : List Action) (executed : machine.exec allowed start actions = some final) :
    machine.Run allowed start actions final := by
  induction actions generalizing start with
  | nil =>
      cases executed
      exact .start
  | cons action rest ih =>
      simp only [exec] at executed
      split_ifs at executed with permitted
      obtain ⟨later, stepped, continued⟩ := Option.bind_eq_some_iff.mp executed
      exact (Run.single permitted stepped).trans (ih continued)

/-- An execution whose last state passes a check is a run to such a state. -/
theorem run_of_exec_any [∀ state action, Decidable (allowed state action)]
    {check : State → Bool} (actions : List Action)
    (passed : (machine.exec allowed start actions).any check = true) :
    ∃ last, machine.Run allowed start actions last ∧ check last = true := by
  obtain ⟨last, executed, checked⟩ := (Option.any_eq_true _ _).mp passed
  exact ⟨last, run_of_exec actions executed, checked⟩

end StepMachine
