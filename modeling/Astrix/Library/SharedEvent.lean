import Mathlib.Logic.Function.Basic
import Mathlib.Tactic.SplitIfs

/-!
# An event that many tasks clear and wait for

`asyncio.Event` with waits that a timer can end. Setting the event wakes every
task that waits; a task that begins to wait clears it first, also for the tasks
that were woken and have not run yet. The waits are nevertheless private: a task
is woken exactly when the event was set since its own wait began.
-/

set_option autoImplicit false

universe u

/-- A wait that has not ended yet. A timer that fires ends it also when the task was
already woken and has only to run. -/
inductive Wait where
  | waiting
  | woken
  | timedOut
  deriving DecidableEq, Repr

structure SharedEvent (Task : Type u) where
  value : Bool
  waits : Task → Option Wait

namespace SharedEvent

variable {Task : Type u}

def new : SharedEvent Task where
  value := false
  waits _ := none

def wake : Wait → Wait
  | .waiting => .woken
  | other => other

/-- Setting an event that is set does nothing. -/
def set (event : SharedEvent Task) : SharedEvent Task :=
  if event.value then event
  else { value := true, waits := fun task => (event.waits task).map wake }

/-- What the wait of a task returns once the task can run. -/
def result (event : SharedEvent Task) (task : Task) : Option Bool :=
  match event.waits task with
  | some .woken => some true
  | some .timedOut => some false
  | _ => none

/-- Every wait is cancelled. -/
def abandon (event : SharedEvent Task) : SharedEvent Task := { event with waits := fun _ => none }

section Tasks

variable [DecidableEq Task]

/-- `clear` and then `wait`, with no suspension between them. -/
def clearAndWait (event : SharedEvent Task) (task : Task) : SharedEvent Task where
  value := false
  waits := Function.update event.waits task (some .waiting)

/-- The timer of a wait fires. -/
def timeOut (event : SharedEvent Task) (task : Task) : Option (SharedEvent Task) :=
  match event.waits task with
  | some .waiting | some .woken =>
      some { event with waits := Function.update event.waits task (some .timedOut) }
  | _ => none

def leave (event : SharedEvent Task) (task : Task) : SharedEvent Task :=
  { event with waits := Function.update event.waits task none }

end Tasks

/-- What a wait says that began when the event had been set `began` times, with `sets`
times by now. -/
def Tells (began sets : Nat) : Wait → Prop
  | .waiting => began = sets
  | .woken => began < sets
  | .timedOut => began ≤ sets

/-- The waits say whether the event was set since they began, and an event that is
set has nobody waiting. -/
structure Private (sets : Nat) (began : Task → Nat) (event : SharedEvent Task) : Prop where
  tells : ∀ task wait, event.waits task = some wait → Tells (began task) sets wait
  awake : event.value = true → ∀ task, event.waits task ≠ some .waiting

variable {sets : Nat} {began : Task → Nat} {event later : SharedEvent Task} {task : Task}

theorem private_new (sets : Nat) (began : Task → Nat) :
    (new : SharedEvent Task).Private sets began where
  tells _ _ present := by cases present
  awake already := by cases already

theorem Tells.le {start : Nat} {wait : Wait} (tells : Tells start sets wait) : start ≤ sets := by
  cases wait with
  | waiting => exact Nat.le_of_eq tells
  | woken => exact Nat.le_of_lt tells
  | timedOut => exact tells

theorem Tells.wake {start : Nat} {wait : Wait} (tells : Tells start sets wait) :
    Tells start (sets + 1) (wake wait) := by
  have before := Nat.lt_succ_of_le tells.le
  cases wait with
  | waiting | woken => exact before
  | timedOut => exact Nat.le_of_lt before

theorem Private.set (keeps : event.Private sets began) : event.set.Private (sets + 1) began := by
  rw [SharedEvent.set]
  split_ifs with already
  · refine ⟨fun task wait present => ?_, fun _ => keeps.awake already⟩
    have tells := (keeps.tells task wait present).wake
    cases wait with
    | waiting => exact absurd present (keeps.awake already task)
    | woken | timedOut => exact tells
  · constructor
    · intro task wait present
      obtain ⟨before, there, rfl⟩ := Option.map_eq_some_iff.mp present
      exact (keeps.tells task before there).wake
    · intro _ task present
      obtain ⟨before, _, woken⟩ := Option.map_eq_some_iff.mp present
      cases before <;> cases woken

theorem Private.abandon : event.abandon.Private sets began where
  tells _ _ present := by cases present
  awake _ _ present := by cases present

theorem set_waits (event : SharedEvent Task) (task : Task) :
    (event.set.waits task).isSome = (event.waits task).isSome := by
  rw [SharedEvent.set]
  split_ifs
  · rfl
  · exact Option.isSome_map

/-- A wait can end with `True` when the event was set since it began and its timer has
not fired, with `False` when its timer has fired, and else not at all. -/
theorem Private.result_iff (keeps : event.Private sets began)
    (waits : (event.waits task).isSome = true) (heard : Bool) :
    event.result task = some heard ↔
      (heard = true ∧ began task < sets ∧ event.waits task ≠ some .timedOut) ∨
        (heard = false ∧ event.waits task = some .timedOut) := by
  obtain ⟨wait, present⟩ := Option.isSome_iff_exists.mp waits
  have tells := keeps.tells task wait present
  rw [result, present]
  cases wait with
  | waiting =>
      have same : began task = sets := tells
      simp [same]
  | woken =>
      have since : began task < sets := tells
      cases heard <;> simp [since]
  | timedOut => cases heard <;> simp

variable [DecidableEq Task]

/-- One task's wait changes. -/
theorem Private.update {value : Bool} {wait : Option Wait} {start : Nat}
    (keeps : event.Private sets began) (task : Task) (cleared : value = true → event.value = true)
    (tells : ∀ now, wait = some now → Tells start sets now)
    (awake : value = true → wait ≠ some .waiting) :
    ({ value := value, waits := Function.update event.waits task wait } :
      SharedEvent Task).Private sets (Function.update began task start) := by
  constructor
  · intro other now there
    by_cases own : other = task
    · simp only [own, Function.update_self] at there ⊢
      exact tells now there
    · simp only [Function.update_of_ne own] at there ⊢
      exact keeps.tells other now there
  · intro already other there
    by_cases own : other = task
    · simp only [own, Function.update_self] at there
      exact awake already there
    · simp only [Function.update_of_ne own] at there
      exact keeps.awake (cleared already) other there

theorem Private.clearAndWait (keeps : event.Private sets began) (task : Task) :
    (event.clearAndWait task).Private sets (Function.update began task sets) := by
  apply keeps.update task
  · intro unset
    cases unset
  · intro now present
    cases present
    rfl
  · intro unset
    cases unset

theorem time_out_cases (fired : event.timeOut task = some later) :
    ∃ wait, event.waits task = some wait ∧
      later = { event with waits := Function.update event.waits task (some .timedOut) } := by
  unfold SharedEvent.timeOut at fired
  split at fired
  · next present => exact ⟨_, present, (Option.some.inj fired).symm⟩
  · next present => exact ⟨_, present, (Option.some.inj fired).symm⟩
  · cases fired

theorem time_out_waits (fired : event.timeOut task = some later) (other : Task) :
    (later.waits other).isSome = (event.waits other).isSome := by
  obtain ⟨wait, present, rfl⟩ := time_out_cases fired
  dsimp only
  by_cases own : other = task
  · rw [own, Function.update_self, present]
    rfl
  · rw [Function.update_of_ne own]

theorem Private.timeOut (keeps : event.Private sets began)
    (fired : event.timeOut task = some later) : later.Private sets began := by
  obtain ⟨wait, present, rfl⟩ := time_out_cases fired
  have before := (keeps.tells task wait present).le
  rw [← Function.update_eq_self task began]
  apply keeps.update task id
  · intro now same
    cases same
    exact before
  · intro _ same
    cases same

theorem Private.leave (keeps : event.Private sets began) (task : Task) :
    (event.leave task).Private sets began := by
  rw [← Function.update_eq_self task began]
  apply keeps.update task id
  · intro now same
    cases same
  · intro _ same
    cases same

end SharedEvent
