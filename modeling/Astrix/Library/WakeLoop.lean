import Astrix.Library.StepMachine

/-!
# A reader that waits for an event

Items are put on a queue and every put sets the event; it may also be set with
nothing new queued. The reader waits for the event, clears it, and takes items
one at a time until the queue is empty or an item stops it; every other item is
written out. Any moves of others may come between two of its own.
-/

set_option autoImplicit false

universe u v

namespace WakeLoop

inductive Phase where
  | waiting
  | draining
  | ended
  deriving DecidableEq, Repr

inductive Move (Item : Type u) where
  | idle
  | put (item : Item)
  | set
  | wake
  | take

end WakeLoop

/-- `given` and `taken` are all items put and taken so far. -/
structure WakeLoop (Item : Type u) (Byte : Type v) where
  queue : List Item
  event : Bool
  phase : WakeLoop.Phase
  given : List Item
  taken : List Item
  written : List Byte

namespace WakeLoop

variable {Item : Type u} {Byte : Type v} (stops : Item → Bool) (render : Item → List Byte)

def start (Item : Type u) (Byte : Type v) : WakeLoop Item Byte where
  queue := []
  event := false
  phase := .waiting
  given := []
  taken := []
  written := []

/-- Looking at an empty queue sends the reader back to the event. -/
def takeNext (loop : WakeLoop Item Byte) : WakeLoop Item Byte :=
  match loop.queue with
  | [] => { loop with phase := .waiting }
  | item :: rest =>
      { loop with
        queue := rest
        phase := if stops item then .ended else .draining
        taken := loop.taken ++ [item]
        written := loop.written ++ if stops item then [] else render item }

def step (loop : WakeLoop Item Byte) : Move Item → Option (WakeLoop Item Byte)
  | .idle => some loop
  | .put item =>
      some { loop with
        queue := loop.queue ++ [item]
        event := true
        given := loop.given ++ [item] }
  | .set => some { loop with event := true }
  | .wake =>
      if loop.phase = .waiting ∧ loop.event = true then
        some { loop with event := false, phase := .draining }
      else none
  | .take => if loop.phase = .draining then some (loop.takeNext stops render) else none

/-- Nothing is lost or reordered, a reader that would sleep has nothing left to
take, and an item that stops the reader is the last one it takes. -/
structure Sound (loop : WakeLoop Item Byte) : Prop where
  conserved : loop.taken ++ loop.queue = loop.given
  output : loop.written = (loop.taken.filter fun item => !stops item).flatMap render
  awake : loop.phase = .waiting → loop.event = false → loop.queue = []
  running : loop.phase ≠ .ended → ∀ item ∈ loop.taken, stops item = false
  stopped : loop.phase = .ended →
    ∃ before last, loop.taken = before ++ [last] ∧ stops last = true ∧
      ∀ item ∈ before, stops item = false

variable {stops} {render} {loop later : WakeLoop Item Byte}

theorem start_sound : (start Item Byte).Sound stops render where
  conserved := rfl
  output := rfl
  awake _ _ := rfl
  running _ _ taken := by cases taken
  stopped ended := by cases ended

theorem Sound.put (sound : loop.Sound stops render) (item : Item) :
    ({ loop with
        queue := loop.queue ++ [item]
        event := true
        given := loop.given ++ [item] } : WakeLoop Item Byte).Sound stops render where
  conserved := by rw [← sound.conserved, List.append_assoc]
  output := sound.output
  awake _ unset := by cases unset
  running := sound.running
  stopped := sound.stopped

theorem Sound.set (sound : loop.Sound stops render) :
    ({ loop with event := true } : WakeLoop Item Byte).Sound stops render where
  conserved := sound.conserved
  output := sound.output
  awake _ unset := by cases unset
  running := sound.running
  stopped := sound.stopped

theorem Sound.wake (sound : loop.Sound stops render) (waiting : loop.phase = .waiting) :
    ({ loop with event := false, phase := .draining } : WakeLoop Item Byte).Sound stops render where
  conserved := sound.conserved
  output := sound.output
  awake waiting := by cases waiting
  running _ := sound.running (by rw [waiting]; decide)
  stopped ended := by cases ended

/-- Only an empty queue sends the reader back to the event. -/
theorem Sound.take (sound : loop.Sound stops render) (draining : loop.phase = .draining) :
    (loop.takeNext stops render).Sound stops render := by
  have passed : ∀ item ∈ loop.taken, stops item = false :=
    sound.running (by rw [draining]; decide)
  have conserved := sound.conserved
  unfold takeNext
  split
  · next empty => exact ⟨conserved, sound.output, fun _ _ => empty, fun _ => passed,
      fun ended => (by cases ended)⟩
  · next item rest queue =>
      rw [queue] at conserved
      constructor
      · simpa using conserved
      · dsimp only
        rw [sound.output]
        cases stop : stops item <;> simp [stop]
      · intro waiting
        dsimp only at waiting
        split_ifs at waiting
      · intro running other member
        have plain : stops item = false := by
          apply Bool.eq_false_iff.mpr
          intro stop
          exact running (if_pos stop)
        rcases List.mem_append.mp member with old | new
        · exact passed other old
        · rw [List.mem_singleton.mp new]
          exact plain
      · intro ended
        dsimp only at ended
        split_ifs at ended with stop
        exact ⟨loop.taken, item, rfl, stop, passed⟩

theorem step_sound {move : Move Item} (sound : loop.Sound stops render)
    (stepped : loop.step stops render move = some later) : later.Sound stops render := by
  cases move with
  | idle =>
      cases stepped
      exact sound
  | put item =>
      cases stepped
      exact sound.put item
  | set =>
      cases stepped
      exact sound.set
  | wake =>
      simp only [step] at stepped
      split_ifs at stepped with ready
      cases stepped
      exact sound.wake ready.1
  | take =>
      simp only [step] at stepped
      split_ifs at stepped with draining
      cases stepped
      exact sound.take draining

/-- The reader writes nothing after it has ended. -/
theorem step_ended {move : Move Item} (ended : loop.phase = .ended)
    (stepped : loop.step stops render move = some later) :
    later.phase = .ended ∧ later.written = loop.written := by
  cases move with
  | idle | put | set =>
      cases stepped
      exact ⟨ended, rfl⟩
  | wake =>
      simp only [step] at stepped
      split_ifs at stepped with ready
      cases ended.symm.trans ready.1
  | take =>
      simp only [step] at stepped
      split_ifs at stepped with draining
      cases ended.symm.trans draining

theorem Sound.ended_of_stop (sound : loop.Sound stops render) {item : Item}
    (member : item ∈ loop.taken) (stop : stops item = true) : loop.phase = .ended := by
  by_contra running
  exact absurd stop (by rw [sound.running running item member]; decide)

section Runs

variable {State Action : Type} {machine : StepMachine State Action}
  {allowed : State → Action → Prop} {first final : State} {history : List Action}
  {view : State → WakeLoop Item Byte} {invariant : State → Prop}

/-- A machine whose steps are moves of a receive loop keeps it sound. -/
theorem run_sound
    (moves : ∀ state action next, invariant state → allowed state action →
      machine.step state action = some next →
      (∃ move, (view state).step stops render move = some (view next)) ∧ invariant next)
    (initial : (view first).Sound stops render) (holds : invariant first)
    (run : machine.Run allowed first history final) :
    (view final).Sound stops render ∧ invariant final := by
  apply run.invariant
  · exact ⟨initial, holds⟩
  · rintro state action next ⟨sound, kept⟩ permitted stepped
    obtain ⟨⟨move, moved⟩, later⟩ := moves state action next kept permitted stepped
    exact ⟨step_sound sound moved, later⟩

theorem run_ended
    (moves : ∀ state action next, invariant state → allowed state action →
      machine.step state action = some next →
      (∃ move, (view state).step stops render move = some (view next)) ∧ invariant next)
    (ended : (view first).phase = .ended) (holds : invariant first)
    (run : machine.Run allowed first history final) :
    (view final).written = (view first).written := by
  have kept : ((view final).phase = .ended ∧ (view final).written = (view first).written) ∧
      invariant final := by
    apply run.invariant
    · exact ⟨⟨ended, rfl⟩, holds⟩
    · rintro state action next ⟨⟨done, same⟩, kept⟩ permitted stepped
      obtain ⟨⟨move, moved⟩, later⟩ := moves state action next kept permitted stepped
      obtain ⟨still, written⟩ := step_ended done moved
      exact ⟨⟨still, written.trans same⟩, later⟩
  exact kept.1.2

end Runs

end WakeLoop
