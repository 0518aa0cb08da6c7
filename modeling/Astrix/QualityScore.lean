import Astrix.EndpointBackoff
import Astrix.Library.OrderStatistics

/-!
# Quality scores of endpoints

What an endpoint keeps of its round trip times, the score it derives from them
and the choice of the best endpoint. The window and the score are described by
an invariant that every `record_rtt` carries one time further.
-/

namespace Astrix

set_option autoImplicit false

namespace EndpointState

/-- `EndpointState.score`. -/
def score (ep : EndpointState) : ℚ := ep.qualityScore

/-- The calls of `record_rtt` in order. -/
def recordRtts (ep : EndpointState) (rtts : List ℚ) : EndpointState := rtts.foldl recordRtt ep

/-- The last twenty RTTs, or all of them. -/
def window (rtts : List ℚ) : List ℚ := rtts.drop (rtts.length - 20)

def windowScore (samples : List ℚ) : ℚ := max 10 (100 - median samples / 10)

theorem window_length (rtts : List ℚ) : (window rtts).length = min 20 rtts.length := by
  rw [window, List.length_drop]
  omega

/-- What an endpoint shows behind the given RTTs. -/
structure Scored (rtts : List ℚ) (ep : EndpointState) : Prop where
  samples : ep.rttSamples = window rtts
  initial : rtts.length < _QualityMinSamples → ep.qualityScore = 100
  scored : _QualityMinSamples ≤ rtts.length → ep.qualityScore = windowScore (window rtts)

theorem scored_new : Scored [] new where
  samples := rfl
  initial _ := rfl
  scored enough := absurd enough (by decide)

theorem window_snoc (rtts : List ℚ) (rttMs : ℚ) :
    (if (window rtts ++ [rttMs]).length > 20 then (window rtts ++ [rttMs]).tail
      else window rtts ++ [rttMs]) = window (rtts ++ [rttMs]) := by
  have kept := window_length rtts
  have longer : (rtts ++ [rttMs]).length = rtts.length + 1 := List.length_append
  by_cases full : 20 ≤ rtts.length
  · have more : rtts.length + 1 - 20 = rtts.length - 20 + 1 := by omega
    have room : rtts.length - 20 ≤ rtts.length := Nat.sub_le _ _
    rw [if_pos (by rw [List.length_append, kept, List.length_singleton]; omega), window, window,
      longer, more, ← List.drop_append_of_le_length room, List.tail_drop]
  · have none : rtts.length - 20 = 0 := by omega
    have still : rtts.length + 1 - 20 = 0 := by omega
    rw [if_neg (by rw [List.length_append, kept, List.length_singleton]; omega), window, window,
      longer, none, still, List.drop_zero, List.drop_zero]

/-- One more RTT. -/
theorem Scored.record {rtts : List ℚ} {ep : EndpointState} (before : Scored rtts ep) (rttMs : ℚ) :
    Scored (rtts ++ [rttMs]) (ep.recordRtt rttMs) := by
  have samples : (ep.recordRtt rttMs).rttSamples = window (rtts ++ [rttMs]) := by
    rw [← window_snoc, ← before.samples]
    rfl
  have score : (ep.recordRtt rttMs).qualityScore =
      if (window (rtts ++ [rttMs])).length ≥ _QualityMinSamples then
        windowScore (window (rtts ++ [rttMs])) else ep.qualityScore := by
    rw [← samples]
    rfl
  have kept := window_length (rtts ++ [rttMs])
  have longer : (rtts ++ [rttMs]).length = rtts.length + 1 := List.length_append
  rw [kept, _QualityMinSamples] at score
  constructor
  · exact samples
  · intro few
    rw [_QualityMinSamples] at few
    rw [score, if_neg (by omega)]
    exact before.initial (by rw [_QualityMinSamples]; omega)
  · intro enough
    rw [_QualityMinSamples] at enough
    rw [score, if_pos (by omega)]

theorem Scored.run {done : List ℚ} {ep : EndpointState} (before : Scored done ep)
    (rtts : List ℚ) : Scored (done ++ rtts) (ep.recordRtts rtts) := by
  induction rtts generalizing done ep with
  | nil => rwa [List.append_nil]
  | cons rtt rest ih =>
      rw [List.append_cons]
      exact ih (before.record rtt)

/-- What the RTTs decide of an endpoint. -/
def measured (ep : EndpointState) : List ℚ × ℚ := (ep.rttSamples, ep.qualityScore)

theorem Scored.of_measured {rtts : List ℚ} {before after : EndpointState}
    (scored : Scored rtts before) (same : after.measured = before.measured) :
    Scored rtts after := by
  obtain ⟨samples, score⟩ := Prod.mk.inj same
  exact ⟨samples.trans scored.samples, fun few => score.trans (scored.initial few),
    fun enough => score.trans (scored.scored enough)⟩

section Median

theorem median_nonneg {samples : List ℚ} (nonneg : ∀ sample ∈ samples, 0 ≤ sample) :
    0 ≤ median samples := by
  have item : ∀ k, 0 ≤ samples.mergeSort.getD k 0 := by
    intro k
    by_cases inside : k < samples.mergeSort.length
    · rw [List.getD_eq_getElem _ _ inside]
      exact nonneg _ ((List.mergeSort_perm samples _).mem_iff.mp (List.getElem_mem inside))
    · rw [List.getD_eq_default _ _ (Nat.not_lt.mp inside)]
  unfold median
  dsimp only
  split_ifs
  · exact item _
  · exact div_nonneg (add_nonneg (item _) (item _)) (by decide)

/-- The median of an odd window is one order statistic, that of an even window the
mean of two. -/
theorem median_mono {first second : List ℚ} (below : List.Forall₂ (· ≤ ·) first second) :
    median first ≤ median second := by
  have item := OrderStatistics.merge_sort_mono below
  have same : first.mergeSort.length = second.mergeSort.length := by
    rw [List.length_mergeSort, List.length_mergeSort, below.length_eq]
  unfold median
  dsimp only
  rw [same]
  split_ifs
  · exact item _ _
  · exact div_le_div_of_nonneg_right (add_le_add (item _ _) (item _ _)) (by decide)

theorem window_score_antitone {first second : List ℚ}
    (below : List.Forall₂ (· ≤ ·) first second) : windowScore second ≤ windowScore first :=
  max_le_max le_rfl
    (sub_le_sub_left (div_le_div_of_nonneg_right (median_mono below) (by decide)) _)

theorem window_score_range {samples : List ℚ} (nonneg : ∀ sample ∈ samples, 0 ≤ sample) :
    10 ≤ windowScore samples ∧ windowScore samples ≤ 100 := by
  constructor
  · exact le_max_left _ _
  · apply max_le (by decide)
    exact sub_le_self _ (div_nonneg (median_nonneg nonneg) (by decide))

end Median

theorem Scored.range {rtts : List ℚ} {ep : EndpointState} (scored : Scored rtts ep)
    (nonneg : ∀ rtt ∈ rtts, 0 ≤ rtt) : 10 ≤ ep.score ∧ ep.score ≤ 100 := by
  by_cases enough : _QualityMinSamples ≤ rtts.length
  · rw [score, scored.scored enough]
    exact window_score_range fun sample member => nonneg sample (List.mem_of_mem_drop member)
  · rw [score, scored.initial (Nat.not_le.mp enough)]
    decide

/-- The window, the score of the window, its range, and that a slower window does
not score higher. -/
theorem quality_score_of_window (rtts slower : List ℚ) (nonneg : ∀ rtt ∈ rtts, 0 ≤ rtt) :
    (new.recordRtts rtts).rttSamples = rtts.drop (rtts.length - 20) ∧
      (new.recordRtts rtts).rttSamples.length = min 20 rtts.length ∧
      (3 ≤ rtts.length → (new.recordRtts rtts).score =
        max 10 (100 - median (new.recordRtts rtts).rttSamples / 10)) ∧
      (10 ≤ (new.recordRtts rtts).score ∧ (new.recordRtts rtts).score ≤ 100) ∧
      (3 ≤ (new.recordRtts rtts).rttSamples.length →
        List.Forall₂ (· ≤ ·) (new.recordRtts rtts).rttSamples
          (new.recordRtts slower).rttSamples →
        (new.recordRtts slower).score ≤ (new.recordRtts rtts).score) := by
  have first := scored_new.run rtts
  have second := scored_new.run slower
  rw [List.nil_append] at first second
  have kept := window_length rtts
  have keptSlower := window_length slower
  constructor
  · exact first.samples
  constructor
  · rw [first.samples, kept]
  constructor
  · intro enough
    rw [first.samples]
    exact first.scored enough
  constructor
  · exact first.range nonneg
  · intro enough below
    have same := below.length_eq
    rw [first.samples, second.samples] at same
    rw [first.samples] at enough
    rw [score, score, first.scored (by rw [_QualityMinSamples]; omega),
      second.scored (by rw [_QualityMinSamples]; omega), ← first.samples, ← second.samples]
    exact window_score_antitone below

theorem quality_score_of_three :
    (∀ rtt ∈ [30, 10, (20 : ℚ)], 0 ≤ rtt) ∧
      (new.recordRtts [40, 20, 20]).score ≤ (new.recordRtts [30, 10, 20]).score := by
  have nonneg : ∀ rtt ∈ [30, 10, (20 : ℚ)], 0 ≤ rtt := by decide +kernel
  obtain ⟨_, _, _, _, antitone⟩ := quality_score_of_window [30, 10, 20] [40, 20, 20] nonneg
  have enough : 3 ≤ (new.recordRtts [30, 10, 20]).rttSamples.length := by decide +kernel
  have below : List.Forall₂ (· ≤ ·) (new.recordRtts [30, 10, 20]).rttSamples
      (new.recordRtts [40, 20, 20]).rttSamples := by decide +kernel
  exact ⟨nonneg, antitone enough below⟩

end EndpointState

section Running

theorem health_measured (ep : EndpointState) (event : EndpointEvent) :
    (ep.health event).measured = ep.measured := by
  cases event with
  | markDead | forceFailures =>
      rw [EndpointState.health]
      split_ifs <;> rfl
  | revive => rfl

theorem take_answer_measured (pool : SessionPool) (ep : EndpointState) (frames : List Frame)
    (now : ℚ) (answer : Answer) :
    (takeAnswer pool ep frames now answer).ep.measured = ep.measured := by
  cases answer with
  | frames respFrames bodyLength =>
      rw [takeAnswer, receiveFrames, EndpointState.adaptBatchSize]
      split_ifs <;> rfl
  | emptyBody | unreadable error => rfl
  | failed status =>
      rw [takeAnswer, handleFailure]
      split_ifs <;> rfl

/-- The endpoint is scored by some RTTs that do not run backwards. -/
def FairlyScored (ep : EndpointState) : Prop :=
  ∃ rtts : List ℚ, (∀ rtt ∈ rtts, 0 ≤ rtt) ∧ ep.Scored rtts

theorem fairly_scored_kept : EndpointKept (0 ≤ ·) FairlyScored where
  health ep event fair := by
    obtain ⟨rtts, nonneg, scored⟩ := fair
    exact ⟨rtts, nonneg, scored.of_measured (health_measured ep event)⟩
  answered ep pool frames sent rttMs now answer later fair := by
    obtain ⟨rtts, nonneg, scored⟩ := fair
    have recorded := scored.record rttMs
    refine ⟨rtts ++ [rttMs], ?_, ?_⟩
    · exact List.forall_mem_append.mpr ⟨nonneg, List.forall_mem_singleton.mpr later⟩
    · have same : (ep.recordPost sent rttMs).measured = (ep.recordRtt rttMs).measured := rfl
      exact recorded.of_measured ((take_answer_measured ..).trans same)

/-- In every run of a client whose round trips take no negative time, the score of
each endpoint is that of some RTTs and lies between ten and a hundred. -/
theorem run_scores {start final : RunningClient} {history : List ClientEvent}
    (fresh : ∀ ep ∈ start.client.endpoints, ep = EndpointState.new)
    (run : clientMachine.Run (fun _ => PostTimes (0 ≤ ·)) start history final) :
    ∀ ep ∈ final.client.endpoints, FairlyScored ep ∧ 10 ≤ ep.score ∧ ep.score ≤ 100 := by
  intro ep member
  have initially : ∀ ep ∈ start.client.endpoints, FairlyScored ep := by
    intro ep member
    rw [fresh ep member]
    exact ⟨[], List.forall_mem_nil _, EndpointState.scored_new⟩
  have fair := fairly_scored_kept.run (fun _ _ timed => timed) initially run ep member
  obtain ⟨rtts, nonneg, scored⟩ := fair
  exact ⟨⟨rtts, nonneg, scored⟩, scored.range nonneg⟩

end Running

section BestEndpoint

/-- `max(alive, key=…)`: the first of the endpoints with the highest score. -/
def bestOf (best : EndpointState) (rest : List EndpointState) : EndpointState :=
  rest.foldl (fun best ep => if best.score < ep.score then ep else best) best

/-- `_best_endpoint`. -/
def bestEndpoint (endpoints : List EndpointState) : Option EndpointState :=
  match endpoints.filter fun ep => !ep.isDead with
  | [] => none
  | first :: rest => some (bestOf first rest)

theorem best_of_scores (best : EndpointState) (rest : List EndpointState) :
    bestOf best rest ∈ best :: rest ∧
      ∀ ep ∈ best :: rest, ep.score ≤ (bestOf best rest).score := by
  induction rest generalizing best with
  | nil =>
      constructor
      · exact List.mem_singleton_self best
      · intro ep member
        rw [List.mem_singleton.mp member]
        rfl
  | cons next rest ih =>
      have step : bestOf best (next :: rest) =
          bestOf (if best.score < next.score then next else best) rest := rfl
      obtain ⟨found, highest⟩ := ih (if best.score < next.score then next else best)
      have chosen := highest _ (List.mem_cons_self ..)
      rw [step]
      constructor
      · rcases List.mem_cons.mp found with same | behind
        · rw [same]
          split_ifs <;> simp
        · exact List.mem_cons_of_mem _ (List.mem_cons_of_mem _ behind)
      · intro ep member
        rcases List.mem_cons.mp member with rfl | member
        · apply le_trans _ chosen
          split_ifs with lower
          · exact lower.le
          · exact le_rfl
        rcases List.mem_cons.mp member with rfl | behind
        · apply le_trans _ chosen
          split_ifs with lower
          · exact le_rfl
          · exact not_lt.mp lower
        · exact highest ep (List.mem_cons_of_mem _ behind)

/-- The best endpoint is alive, and no other endpoint that is alive scores higher. -/
theorem best_endpoint_scores {endpoints : List EndpointState} {best : EndpointState}
    (chosen : bestEndpoint endpoints = some best) :
    best ∈ endpoints ∧ best.isDead = false ∧
      ∀ ep ∈ endpoints, ep.isDead = false → ep.score ≤ best.score := by
  unfold bestEndpoint at chosen
  cases alive : endpoints.filter fun ep => !ep.isDead with
  | nil =>
      rw [alive] at chosen
      cases chosen
  | cons first rest =>
      rw [alive] at chosen
      cases chosen
      obtain ⟨found, highest⟩ := best_of_scores first rest
      rw [← alive, List.mem_filter, Bool.not_eq_true'] at found
      constructor
      · exact found.1
      constructor
      · exact found.2
      · intro ep member living
        apply highest ep
        rw [← alive, List.mem_filter, Bool.not_eq_true']
        exact ⟨member, living⟩

end BestEndpoint

end Astrix
