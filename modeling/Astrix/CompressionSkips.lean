import Astrix.BatchEnvelope
import Astrix.Library.StepMachine
import Astrix.VirtualConn
import Mathlib.Data.List.DropRight

/-!
# Skipping compression

The globals of `encode_batch` over a run of calls. One counter is the number of
failed attempts and, while compression is skipped, the clock of the recheck. A
batch below the minimal size moves the clock as well, over the turn at which a
large one would have been tried.
-/

namespace Astrix

open PyRuntime StepMachine

set_option autoImplicit false

/-- The arguments of one call, with what the compressor does in it. -/
structure EncodeCall where
  prims : Primitives
  nonce : Nonce
  clientId : Bytes
  frames : List Frame

namespace EncodeCall

variable (call : EncodeCall) (adaptive : Adaptive)

/-- What the call writes before it compresses; nothing if it raises. -/
def plaintext : Option Bytes := (batchPlaintext call.clientId call.frames).toOption

/-- The batch is large enough to compress. -/
def large : Bool := call.plaintext.any fun plain => compressMinSize ≤ plain.length - 1

def small : Bool := call.plaintext.any fun plain => plain.length - 1 < compressMinSize

/-- The call tries to compress. -/
def attempts : Bool := call.plaintext.any fun plain => shouldCompress adaptive plain.length

/-- Compression makes the batch shorter. -/
def helps : Bool :=
  call.plaintext.any fun plain =>
    (batchFlagZstd :: call.prims.compress (plain.drop 1)).length < plain.length

/-- Whether the attempt helped, if the call makes one. -/
def outcome : List Bool := if call.attempts adaptive then [call.helps] else []

/-- A small batch is encoded at the turn of a recheck. -/
def TakesTurn : Prop :=
  adaptive.skipActive = true ∧ adaptive.skipCounter % recheckAfter = 0 ∧ call.small = true

instance : Decidable (call.TakesTurn adaptive) := inferInstanceAs (Decidable (_ ∧ _ ∧ _))

end EncodeCall

section Calls

variable (rawForm : Bytes → Bytes)

/-- The globals after a call of `encode_batch`. -/
def Adaptive.after (adaptive : Adaptive) (call : EncodeCall) : Adaptive :=
  match encodeBatchWith rawForm call.prims call.nonce adaptive call.clientId call.frames with
  | .ok (_, later) => later
  | .error _ => adaptive

/-- A process that encodes batches. -/
def encoder : StepMachine Adaptive EncodeCall where
  step adaptive call := some (adaptive.after rawForm call)

/-- For each attempt of a list of calls, whether it helped. -/
def attemptsOf : Adaptive → List EncodeCall → List Bool
  | _, [] => []
  | adaptive, call :: rest =>
      call.outcome adaptive ++ attemptsOf (adaptive.after rawForm call) rest

/-- How many attempts failed since the last one that helped. -/
def failedInARow (attempts : List Bool) : Nat := (attempts.rtakeWhile fun helped => !helped).length

def Adaptive.new : Adaptive := ⟨0, false⟩

/-- A call that raises before it compresses changes nothing. -/
theorem after_raised {adaptive : Adaptive} {call : EncodeCall} (raised : call.plaintext = none) :
    adaptive.after rawForm call = adaptive := by
  unfold EncodeCall.plaintext at raised
  unfold Adaptive.after encodeBatchWith
  cases written : batchPlaintext call.clientId call.frames with
  | error error => rfl
  | ok plain =>
      rw [written] at raised
      cases raised

theorem after_written {adaptive : Adaptive} {call : EncodeCall} {plain : Bytes}
    (written : call.plaintext = some plain) : adaptive.after rawForm call =
      (chooseSealInput call.prims adaptive plain (rawForm plain)).2 := by
  unfold EncodeCall.plaintext at written
  unfold Adaptive.after encodeBatchWith
  cases filled : batchPlaintext call.clientId call.frames with
  | error error =>
      rw [filled] at written
      cases written
  | ok bytes =>
      rw [filled] at written
      cases written
      rfl

/-- A call sets the counter back, counts a failed attempt, or counts while
compression is skipped. -/
theorem after_cases (adaptive : Adaptive) (call : EncodeCall) :
    (call.outcome adaptive = [true] ∧ adaptive.after rawForm call = Adaptive.new) ∨
    (call.outcome adaptive = [false] ∧
      adaptive.after rawForm call = ⟨adaptive.skipCounter + 1,
        if skipCompressionAfter ≤ adaptive.skipCounter + 1 then true else adaptive.skipActive⟩) ∨
    (call.outcome adaptive = [] ∧ (call.large = true ∨ call.small = true) ∧
      adaptive.after rawForm call = if adaptive.skipActive = true then
        ⟨adaptive.skipCounter + 1, true⟩ else adaptive) ∨
    (call.outcome adaptive = [] ∧ call.large = false ∧
      adaptive.after rawForm call = adaptive) := by
  cases written : call.plaintext with
  | none =>
      refine .inr (.inr (.inr ⟨?_, ?_, after_raised rawForm written⟩))
      · simp [EncodeCall.outcome, EncodeCall.attempts, written]
      · simp [EncodeCall.large, written]
  | some plain =>
      rw [after_written rawForm written, chooseSealInput]
      by_cases tries : shouldCompress adaptive plain.length = true
      · rw [if_pos tries]
        by_cases shorter :
            (batchFlagZstd :: call.prims.compress (plain.drop 1)).length < plain.length
        · rw [if_pos shorter]
          refine .inl ⟨?_, rfl⟩
          simpa [EncodeCall.outcome, EncodeCall.attempts, EncodeCall.helps, written, tries]
            using shorter
        · rw [if_neg shorter]
          refine .inr (.inl ⟨?_, rfl⟩)
          simpa [EncodeCall.outcome, EncodeCall.attempts, EncodeCall.helps, written, tries]
            using shorter
      · rw [if_neg tries]
        refine .inr (.inr (.inl ⟨?_, ?_, ?_⟩))
        · simp [EncodeCall.outcome, EncodeCall.attempts, written, tries]
        · simp only [EncodeCall.large, EncodeCall.small, written, Option.any_some,
            decide_eq_true_eq]
          exact (Nat.lt_or_ge _ _).symm
        · split_ifs with active
          · rw [← active]
          · rfl

theorem attempts_of_append (adaptive : Adaptive) (early late : List EncodeCall) :
    attemptsOf rawForm adaptive (early ++ late) = attemptsOf rawForm adaptive early ++
      attemptsOf rawForm (early.foldl (Adaptive.after rawForm) adaptive) late := by
  induction early generalizing adaptive with
  | nil => rfl
  | cons call rest ih =>
      rw [List.cons_append, attemptsOf, ih, attemptsOf, List.append_assoc]
      rfl

end Calls

section Runs

variable {rawForm : Bytes → Bytes} {allowed : Adaptive → EncodeCall → Prop}
  {history : List EncodeCall} {first last : Adaptive}

/-- What holds at the start and is kept by every call holds of the calls of a run,
its attempts and its last state. -/
theorem run_with_attempts {property : List EncodeCall → List Bool → Adaptive → Prop}
    (run : (encoder rawForm).Run allowed first history last) (initial : property [] [] first)
    (preserved : ∀ past attempts state call, property past attempts state → allowed state call →
      property (past ++ [call]) (attempts ++ call.outcome state) (state.after rawForm call)) :
    property history (attemptsOf rawForm first history) last := by
  have both : last = history.foldl (Adaptive.after rawForm) first ∧
      property history (attemptsOf rawForm first history) last := by
    apply @Run.invariant_with_history _ _ _ _ _ _ _ (fun past state =>
      state = past.foldl (Adaptive.after rawForm) first ∧
        property past (attemptsOf rawForm first past) state) run
    · exact ⟨rfl, initial⟩
    · rintro past state call later ⟨prior, holds⟩ permitted stepped
      obtain rfl := Option.some.inj stepped
      have attempted : attemptsOf rawForm first (past ++ [call]) =
          attemptsOf rawForm first past ++ call.outcome state := by
        rw [attempts_of_append, ← prior]
        exact congrArg (attemptsOf rawForm first past ++ ·) (List.append_nil _)
      constructor
      · rw [List.foldl_append, ← prior]
        rfl
      · rw [attempted]
        exact preserved past _ state call holds permitted
  exact both.2

/-- Up to three failed attempts the counter is their number. -/
structure CountsFailures (attempts : List Bool) (adaptive : Adaptive) : Prop where
  active : adaptive.skipActive = true ↔ skipCompressionAfter ≤ failedInARow attempts
  counter : adaptive.skipActive = false → adaptive.skipCounter = failedInARow attempts

theorem failed_helped (attempts : List Bool) : failedInARow (attempts ++ [true]) = 0 := by
  rw [failedInARow, List.rtakeWhile_concat_neg _ _ _ (by decide)]
  rfl

theorem failed_again (attempts : List Bool) :
    failedInARow (attempts ++ [false]) = failedInARow attempts + 1 := by
  rw [failedInARow, List.rtakeWhile_concat_pos _ _ _ (by decide), List.length_append]
  rfl

theorem CountsFailures.after {attempts : List Bool} {adaptive : Adaptive}
    (counts : CountsFailures attempts adaptive) (call : EncodeCall) :
    CountsFailures (attempts ++ call.outcome adaptive) (adaptive.after rawForm call) := by
  obtain ⟨active, counter⟩ := counts
  obtain ⟨helped, later⟩ | ⟨failed, later⟩ | ⟨skips, _, later⟩ | ⟨skips, _, later⟩ :=
    after_cases rawForm adaptive call
  · rw [helped, later]
    constructor
    · rw [failed_helped]
      decide
    · exact fun _ => (failed_helped attempts).symm
  · rw [failed, later]
    cases skipping : adaptive.skipActive with
    | true =>
        have three := active.mp skipping
        rw [ite_self]
        constructor
        · rw [failed_again]
          exact iff_of_true rfl (Nat.le_succ_of_le three)
        · intro stops
          cases stops
    | false =>
        have count := counter skipping
        constructor
        · rw [failed_again, ← count]
          simp
        · rw [failed_again, ← count]
          exact fun _ => rfl
  · rw [skips, later, List.append_nil]
    cases skipping : adaptive.skipActive with
    | true =>
        rw [if_pos rfl]
        constructor
        · exact iff_of_true rfl (active.mp skipping)
        · intro stops
          cases stops
    | false =>
        rw [if_neg (by decide)]
        exact ⟨active, counter⟩
  · rw [skips, later, List.append_nil]
    exact ⟨active, counter⟩

theorem counts_failures (run : (encoder rawForm).Run allowed Adaptive.new history last) :
    CountsFailures (attemptsOf rawForm Adaptive.new history) last := by
  apply @run_with_attempts _ _ _ _ _ (fun _ attempts state => CountsFailures attempts state) run
  · exact ⟨iff_of_false (by decide) (by decide), fun _ => rfl⟩
  · intro past attempts state call counts _
    exact counts.after call

/-- A large batch is tried at the turn of a recheck. -/
theorem large_attempts {adaptive : Adaptive} {call : EncodeCall} (large : call.large = true)
    (turn : adaptive.skipCounter % recheckAfter = 0) : call.outcome adaptive ≠ [] := by
  have tries : call.attempts adaptive = true := by
    obtain ⟨plain, written, size⟩ := (Option.any_eq_true _ _).mp large
    have big := of_decide_eq_true size
    simp [EncodeCall.attempts, written, shouldCompress, big, turn]
  rw [EncodeCall.outcome, if_pos tries]
  exact List.cons_ne_nil _ _

/-- The first turn at or behind a counter. -/
def nextTurn (counter : Nat) : Nat := (counter + (recheckAfter - 1)) / recheckAfter * recheckAfter

/-- Calls without an attempt move the clock by one for each large batch at
least, and not over the next turn where no small batch takes it. -/
theorem clock_of_skipped
    (run : (encoder rawForm).Run (fun adaptive call => ¬ call.TakesTurn adaptive)
      first history last)
    (active : first.skipActive = true) (skipped : attemptsOf rawForm first history = []) :
    first.skipCounter + history.countP EncodeCall.large ≤ last.skipCounter ∧
      last.skipCounter ≤ nextTurn first.skipCounter := by
  have each : attemptsOf rawForm first history = [] → last.skipActive = true ∧
      first.skipCounter + history.countP EncodeCall.large ≤ last.skipCounter ∧
        last.skipCounter ≤ nextTurn first.skipCounter := by
    apply @run_with_attempts _ _ _ _ _ (fun past attempts state => attempts = [] →
      state.skipActive = true ∧
        first.skipCounter + past.countP EncodeCall.large ≤ state.skipCounter ∧
          state.skipCounter ≤ nextTurn first.skipCounter) run
    · intro _
      have below : first.skipCounter ≤ nextTurn first.skipCounter := by
        simp only [nextTurn, recheckAfter]
        omega
      exact ⟨active, Nat.le_refl _, below⟩
    · intro past attempts state call clock keepsTurn none
      obtain ⟨noneBefore, noneNow⟩ := List.append_eq_nil_iff.mp none
      obtain ⟨skipping, moved, below⟩ := clock noneBefore
      rw [List.countP_append, List.countP_singleton]
      obtain ⟨helped, _⟩ | ⟨failed, _⟩ | ⟨_, size, later⟩ | ⟨_, notLarge, later⟩ :=
        after_cases rawForm state call
      · cases helped.symm.trans noneNow
      · cases failed.symm.trans noneNow
      · have noTurn : ¬ state.skipCounter % recheckAfter = 0 := by
          intro turn
          rcases size with large | small
          · exact large_attempts large turn noneNow
          · exact keepsTurn ⟨skipping, turn, small⟩
        rw [later, if_pos skipping]
        refine ⟨rfl, ?_, ?_⟩
        · dsimp only
          split_ifs <;> omega
        · simp only [nextTurn, recheckAfter] at below noTurn ⊢
          omega
      · rw [later, if_neg (by rw [notLarge]; decide)]
        exact ⟨skipping, moved, below⟩
  exact (each skipped).2

end Runs

/-- In a run in which no small batch takes the turn of a recheck, compression is
skipped exactly if the last three attempts or more failed, and while it is, ten
large batches do not pass without an attempt. -/
theorem skipping_rechecks (rawForm : Bytes → Bytes) {history window : List EncodeCall}
    {first last : Adaptive}
    (run : (encoder rawForm).Run (fun adaptive call => ¬ call.TakesTurn adaptive)
      Adaptive.new history first)
    (onward : (encoder rawForm).Run (fun adaptive call => ¬ call.TakesTurn adaptive)
      first window last) :
    (first.skipActive = true ↔
        skipCompressionAfter ≤ failedInARow (attemptsOf rawForm Adaptive.new history)) ∧
      (first.skipActive = true → recheckAfter ≤ window.countP EncodeCall.large →
        attemptsOf rawForm first window ≠ []) := by
  constructor
  · exact (counts_failures run).active
  · intro active ten skipped
    obtain ⟨moved, below⟩ := clock_of_skipped onward active skipped
    simp only [nextTurn, recheckAfter] at below ten
    omega

/-- A chunk that does not compress, in a batch of the size that is tried. -/
def largeCall : EncodeCall where
  prims := tagPrimitives
  nonce := zeroNonce
  clientId := List.replicate ClientIDLen 7
  frames := [dataFrame (List.replicate SessionIDLen 7) 0 (List.replicate 460 0)]

def smallCall : EncodeCall where
  prims := tagPrimitives
  nonce := zeroNonce
  clientId := List.replicate ClientIDLen 7
  frames := [finFrame (List.replicate SessionIDLen 7)]

/-- After three large batches the tenth is tried again. -/
theorem large_batches_rechecked :
    attemptsOf clientRawForm ⟨3, true⟩ (List.replicate 10 largeCall) ≠ [] := by
  have run : (encoder clientRawForm).Run (fun adaptive call => ¬ call.TakesTurn adaptive)
      Adaptive.new (List.replicate 3 largeCall) ⟨3, true⟩ := run_of_exec _ (by decide +kernel)
  have onward : (encoder clientRawForm).Run (fun adaptive call => ¬ call.TakesTurn adaptive)
      ⟨3, true⟩ (List.replicate 10 largeCall) ⟨13, true⟩ := run_of_exec _ (by decide +kernel)
  exact (skipping_rechecks clientRawForm run onward).2 rfl (by decide +kernel)

/-- Seven large batches, a small one at counter ten and three more large ones. -/
def lostTurn : List EncodeCall :=
  List.replicate 7 largeCall ++ smallCall :: List.replicate 3 largeCall

theorem small_batch_takes_turn :
    ¬ ∀ (rawForm : Bytes → Bytes) (history window : List EncodeCall) (first last : Adaptive),
      (encoder rawForm).Run anyStep Adaptive.new history first →
      (encoder rawForm).Run anyStep first window last →
        (first.skipActive = true ↔
            skipCompressionAfter ≤ failedInARow (attemptsOf rawForm Adaptive.new history)) ∧
          (first.skipActive = true → recheckAfter ≤ window.countP EncodeCall.large →
            attemptsOf rawForm first window ≠ []) := by
  intro rechecks
  have run : (encoder clientRawForm).Run anyStep Adaptive.new (List.replicate 3 largeCall)
      ⟨3, true⟩ := run_of_exec _ (by decide +kernel)
  have onward : (encoder clientRawForm).Run anyStep ⟨3, true⟩ lostTurn ⟨14, true⟩ :=
    run_of_exec _ (by decide +kernel)
  exact (rechecks clientRawForm _ lostTurn _ _ run onward).2 rfl (by decide +kernel)
    (by decide +kernel)

end Astrix
