import Mathlib.Data.List.Perm.Basic
import Astrix.ExitServer
import Astrix.Library.JsNumber
import Astrix.Library.StepMachine

/-!
# Counting the invocations of the script

With `ENABLE_INVOCATION_COUNTING` every execution of `doPost` reads the count of
its day from the script's properties, removes the counts of other days if there
is none, and stores the count plus one. Executions of a script overlap, and each
call of the properties service takes effect by itself or raises. A count is a
number of JavaScript, so what is said of counts here is about those below
`2 ^ 53`, where adding one is exact.
-/

namespace Astrix

open PyRuntime JsRuntime

set_option autoImplicit false

abbrev Properties := OrderedDict Text Text

namespace Properties

/-- `setProperty`; the service promises no order of the keys. -/
def setProperty (props : Properties) (key value : Text) : Properties :=
  (props.erase key).insertNew key value
    ((OrderedDict.get_eq_none_iff _ _).mp (OrderedDict.get_erase_self props key))

@[simp] theorem get_set_self (props : Properties) (key value : Text) :
    (props.setProperty key value).get key = some value :=
  OrderedDict.get_insert_new_self _ _ _ _

theorem get_set_of_ne (props : Properties) {key other : Text} (value : Text)
    (different : other ≠ key) : (props.setProperty key value).get other = props.get other := by
  rw [setProperty, OrderedDict.get_insert_new_of_ne _ _ _ _ _ different]
  exact OrderedDict.get_erase_of_ne _ _ _ different

end Properties

def countPrefix : Text := literal "count_"

def countKey (today : Text) : Text := countPrefix ++ today

/-- What is left to do of an execution: to list the keys, to remove those of other
days, to store the count. -/
inductive Counting where
  | listing (today : Text)
  | pruning (today : Text) (keys : List Text)
  | storing (today : Text) (cur : JsNumber)
  deriving DecidableEq, Repr

def Counting.today : Counting → Text
  | .listing today | .pruning today _ | .storing today _ => today

/-- `stored` records the days of the counts that were stored. -/
structure InvocationCounter where
  props : Properties
  running : List Counting
  stored : List Text

inductive CountAction where
  | begin (today : Text)
  | go (index : Nat)
  | fail (index : Nat)
  deriving DecidableEq, Repr

def CountAction.begun : CountAction → List Text
  | .begin today => [today]
  | .go _ | .fail _ => []

namespace InvocationCounter

def start (props : Properties) : InvocationCounter := ⟨props, [], []⟩

/-- `bumpInvocationCount_` up to its first read. -/
def begin (today : Text) (counter : InvocationCounter) : InvocationCounter :=
  let next := match counter.props.get (countKey today) with
    | none => Counting.listing today
    | some raw => .storing today (jsParseInt raw)
  { counter with running := counter.running ++ [next] }

/-- One call of the properties service, or one key that is passed over. -/
def go (counter : InvocationCounter) (index : Nat) : Counting → InvocationCounter
  | .listing today =>
      { counter with running := counter.running.set index (.pruning today counter.props.keys) }
  | .pruning today [] =>
      { counter with running := counter.running.set index (.storing today (.whole 0)) }
  | .pruning today (k :: rest) =>
      { counter with
        props := if countPrefix.isPrefixOf k ∧ k ≠ countKey today then counter.props.erase k
          else counter.props
        running := counter.running.set index (.pruning today rest) }
  | .storing today cur =>
      { props := counter.props.setProperty (countKey today) (jsNumberText cur.succ)
        running := counter.running.eraseIdx index
        stored := counter.stored ++ [today] }

/-- An execution whose call raises ends without a word. -/
def step (counter : InvocationCounter) : CountAction → Option InvocationCounter
  | .begin today => some (counter.begin today)
  | .go index => counter.running[index]?.map (counter.go index)
  | .fail index =>
      counter.running[index]?.map fun _ =>
        { counter with running := counter.running.eraseIdx index }

/-- The count that `doGet` shows. An empty property counts as none. -/
def shown (counter : InvocationCounter) (today : Text) : JsNumber :=
  match counter.props.get (countKey today) with
  | none | some [] => .whole 0
  | some raw => jsParseInt raw

end InvocationCounter

def countMachine : StepMachine InvocationCounter CountAction := ⟨InvocationCounter.step⟩

section Keys

variable {day other key : Text}

theorem count_key_inj (same : countKey day = countKey other) : day = other :=
  List.append_cancel_left same

theorem is_count_key (known : countPrefix.isPrefixOf key = true) : ∃ day, key = countKey day := by
  obtain ⟨day, rfl⟩ := List.isPrefixOf_iff_prefix.mp known
  exact ⟨day, rfl⟩

theorem count_key_known (day : Text) : countPrefix.isPrefixOf (countKey day) = true :=
  List.isPrefixOf_iff_prefix.mpr (List.prefix_append _ _)

theorem other_key (known : countPrefix.isPrefixOf key = false) (day : Text) :
    key ≠ countKey day := by
  intro same
  rw [same, count_key_known] at known
  cases known

end Keys

namespace InvocationCounter

variable {counter later : InvocationCounter} {action : CountAction}

/-- Everything a step can be. -/
inductive Stepped (counter : InvocationCounter) : CountAction → InvocationCounter → Prop where
  | fresh (today : Text) (missing : counter.props.get (countKey today) = none) :
      Stepped counter (.begin today)
        { counter with running := counter.running ++ [.listing today] }
  | known (today raw : Text) (found : counter.props.get (countKey today) = some raw) :
      Stepped counter (.begin today)
        { counter with running := counter.running ++ [.storing today (jsParseInt raw)] }
  | listed (index : Nat) (today : Text)
      (present : counter.running[index]? = some (.listing today)) :
      Stepped counter (.go index)
        { counter with running := counter.running.set index (.pruning today counter.props.keys) }
  | pruned (index : Nat) (today : Text)
      (present : counter.running[index]? = some (.pruning today [])) :
      Stepped counter (.go index)
        { counter with running := counter.running.set index (.storing today (.whole 0)) }
  | removed (index : Nat) (today day : Text) (rest : List Text)
      (present : counter.running[index]? = some (.pruning today (countKey day :: rest)))
      (stale : day ≠ today) :
      Stepped counter (.go index)
        { counter with
          props := counter.props.erase (countKey day)
          running := counter.running.set index (.pruning today rest) }
  | passed (index : Nat) (today key : Text) (rest : List Text)
      (present : counter.running[index]? = some (.pruning today (key :: rest)))
      (kept : ∀ day, key = countKey day → day = today) :
      Stepped counter (.go index)
        { counter with running := counter.running.set index (.pruning today rest) }
  | counted (index : Nat) (today : Text) (cur : JsNumber)
      (present : counter.running[index]? = some (.storing today cur)) :
      Stepped counter (.go index)
        { props := counter.props.setProperty (countKey today) (jsNumberText cur.succ)
          running := counter.running.eraseIdx index
          stored := counter.stored ++ [today] }
  | failed (index : Nat) (phase : Counting) (present : counter.running[index]? = some phase) :
      Stepped counter (.fail index) { counter with running := counter.running.eraseIdx index }

theorem step_stepped (stepped : counter.step action = some later) :
    Stepped counter action later := by
  cases action with
  | begin today =>
      cases stepped
      rw [InvocationCounter.begin]
      cases found : counter.props.get (countKey today) with
      | none => exact .fresh today found
      | some raw => exact .known today raw found
  | fail index =>
      obtain ⟨phase, present, rfl⟩ := Option.map_eq_some_iff.mp stepped
      exact .failed index phase present
  | go index =>
      obtain ⟨phase, present, rfl⟩ := Option.map_eq_some_iff.mp stepped
      cases phase with
      | listing today => exact .listed index today present
      | storing today cur => exact .counted index today cur present
      | pruning today keys =>
          cases keys with
          | nil => exact .pruned index today present
          | cons key rest =>
              rw [go]
              split_ifs with stale
              · obtain ⟨day, rfl⟩ := is_count_key stale.1
                exact .removed index today day rest present fun same => stale.2 (same ▸ rfl)
              · refine .passed index today key rest present fun day same => ?_
                by_contra different
                refine stale ⟨same ▸ count_key_known day, fun equal => different ?_⟩
                exact count_key_inj (same.symm.trans equal)

/-- The count that a day had at the start. A count below zero is taken as none:
executions that find none for their day begin at zero again. -/
def countBefore (initial : Properties) (day : Text) : Int :=
  match (start initial).shown day with
  | .whole count => max 0 count
  | .infinite _ | .nan => 0

/-- Counts are bounded by the stores, and nothing else is touched. -/
structure NeverMore (initial : Properties) (counter : InvocationCounter) : Prop where
  others : ∀ key, countPrefix.isPrefixOf key = false → counter.props.get key = initial.get key
  counts : ∀ day raw n, counter.props.get (countKey day) = some raw →
    jsParseInt raw = .whole n → n ≤ countBefore initial day + counter.stored.count day
  pending : ∀ day n, .storing day (.whole n) ∈ counter.running →
    n ≤ countBefore initial day + counter.stored.count day

theorem count_before_nonneg (initial : Properties) (day : Text) : 0 ≤ countBefore initial day := by
  rw [countBefore]
  split
  · exact Int.le_max_left _ _
  · exact Int.le_refl 0
  · exact Int.le_refl 0

theorem start_never_more (initial : Properties) : NeverMore initial (start initial) := by
  refine ⟨fun _ _ => rfl, fun day raw n found read => ?_, fun _ _ => by simp [start]⟩
  have seen : (start initial).shown day = .whole n := by
    have present : (start initial).props.get (countKey day) = some raw := found
    rw [shown, present]
    cases raw with
    | nil => cases read
    | cons _ _ => exact read
  rw [countBefore, seen]
  simp [start]

/-- What a store leads to is still a number below `2 ^ 53`. -/
theorem step_never_more {initial : Properties} (before : NeverMore initial counter)
    (stepped : counter.step action = some later)
    (room : ∀ day, countBefore initial day + later.stored.count day < safeBound) :
    NeverMore initial later := by
  have replaced : ∀ {index : Nat} {phase : Counting}, (∀ day n, phase = .storing day (.whole n) →
      n ≤ countBefore initial day + counter.stored.count day) →
      ∀ day n, .storing day (.whole n) ∈ counter.running.set index phase →
        n ≤ countBefore initial day + counter.stored.count day := by
    intro index phase fits day n member
    rcases List.mem_or_eq_of_mem_set member with old | new
    · exact before.pending day n old
    · exact fits day n new.symm
  cases step_stepped stepped with
  | fresh today missing =>
      refine ⟨before.others, before.counts, fun day n member => ?_⟩
      rcases List.mem_append.mp member with old | new
      · exact before.pending day n old
      · cases List.mem_singleton.mp new
  | known today raw found =>
      refine ⟨before.others, before.counts, fun day n member => ?_⟩
      rcases List.mem_append.mp member with old | new
      · exact before.pending day n old
      · injection List.mem_singleton.mp new with same read
        subst same
        exact before.counts day raw n found read.symm
  | listed index today present =>
      exact ⟨before.others, before.counts, replaced fun _ _ none => by cases none⟩
  | pruned index today present =>
      refine ⟨before.others, before.counts, replaced fun day n zero => ?_⟩
      injection zero with _ zero
      injection zero with zero
      have positive := count_before_nonneg initial day
      omega
  | removed index today day rest present stale =>
      refine ⟨fun key known => ?_, fun other raw n found read => ?_,
        replaced fun _ _ none => by cases none⟩
      · exact (OrderedDict.get_erase_of_ne _ _ _ (other_key known day)).trans
          (before.others key known)
      · exact before.counts other raw n (OrderedDict.get_erase_some _ _ _ _ found) read
  | passed index today key rest present kept =>
      exact ⟨before.others, before.counts, replaced fun _ _ none => by cases none⟩
  | counted index today cur present =>
      have more : ∀ day, counter.stored.count day ≤ (counter.stored ++ [today]).count day :=
        fun day => List.Sublist.count_le _ (List.sublist_append_left _ _)
      have member := List.mem_of_getElem? present
      refine ⟨fun key known => ?_, fun day raw n found read => ?_, fun day n pending => ?_⟩
      · exact (Properties.get_set_of_ne _ _ (other_key known today)).trans
          (before.others key known)
      · by_cases same : day = today
        · subst same
          have most := room day
          have nonneg := count_before_nonneg initial day
          dsimp only at most ⊢
          rw [Properties.get_set_self] at found
          rw [List.count_append, List.count_singleton_self] at most ⊢
          cases found
          have bound := parse_succ_le (by omega)
            (fun m whole => before.pending day m (whole ▸ member)) (by omega) read
          omega
        · rw [Properties.get_set_of_ne _ _ fun equal => same (count_key_inj equal)] at found
          have bound := before.counts day raw n found read
          have grown := more day
          dsimp only
          omega
      · have bound := before.pending day n (List.mem_of_mem_eraseIdx pending)
        have grown := more day
        dsimp only
        omega
  | failed index phase present =>
      exact ⟨before.others, before.counts, fun day n member =>
        before.pending day n (List.mem_of_mem_eraseIdx member)⟩

/-- One execution at a time, and no call raises. -/
def OneAtATime (counter : InvocationCounter) : CountAction → Prop
  | .begin _ => counter.running = []
  | .go _ => True
  | .fail _ => False

instance (counter : InvocationCounter) : DecidablePred counter.OneAtATime
  | .begin _ => inferInstanceAs (Decidable (counter.running = []))
  | .go _ => isTrue trivial
  | .fail _ => isFalse id

end InvocationCounter

/-- How many days at the end are this one. -/
def lastBlock (days : List Text) (day : Text) : Nat :=
  (days.reverse.takeWhile fun other => other = day).length

section Blocks

variable {days : List Text} {day today : Text}

theorem last_block_same : lastBlock (days ++ [day]) day = lastBlock days day + 1 := by
  simp [lastBlock]

theorem last_block_other (different : day ≠ today) : lastBlock (days ++ [today]) day = 0 := by
  simp [lastBlock, different.symm]

/-- Only one day is at the end. -/
theorem last_block_only (counted : lastBlock days today ≠ 0) (different : day ≠ today) :
    lastBlock days day = 0 := by
  cases days using List.reverseRecOn with
  | nil => rfl
  | append_singleton before last =>
      by_cases here : day = last
      · subst here
        exact absurd (last_block_other different.symm) counted
      · exact last_block_other here

end Blocks

namespace InvocationCounter

variable {counter later : InvocationCounter} {action : CountAction}

/-- The property of a day that was counted so many times. -/
def countText : Nat → Option Text
  | 0 => none
  | count + 1 => some (decimalText (count + 1))

/-- What the one execution that runs has brought about. -/
def Reached (counter : InvocationCounter) : Counting → Prop
  | .listing today =>
      counter.props.get (countKey today) = none ∧ lastBlock counter.stored today = 0
  | .pruning today keys =>
      lastBlock counter.stored today = 0 ∧
        ∀ day, counter.props.get (countKey day) ≠ none → countKey day ∈ keys ∧ day ≠ today
  | .storing today cur =>
      cur = .whole (lastBlock counter.stored today) ∧
        ∀ day, day ≠ today → counter.props.get (countKey day) = none

inductive InTurn (counter : InvocationCounter) : Prop where
  | idle (none : counter.running = [])
      (counts : ∀ day, counter.props.get (countKey day) =
        countText (lastBlock counter.stored day))
  | busy (phase : Counting) (one : counter.running = [phase])
      (reached : counter.Reached phase)

theorem count_text_none {count : Nat} (missing : countText count = none) : count = 0 := by
  cases count with
  | zero => rfl
  | succ count => cases missing

/-- A count reads back as the number it is of. -/
theorem count_text_some {count : Nat} {raw : Text} (small : count < safeBound)
    (found : countText count = some raw) :
    count ≠ 0 ∧ raw ≠ [] ∧ jsParseInt raw = .whole count := by
  cases count with
  | zero => cases found
  | succ count =>
      cases found
      refine ⟨Nat.succ_ne_zero _, decimal_text_nonempty _, ?_⟩
      rw [parse_decimal]
      exact JsNumber.of_int_small small

/-- The text of the next count. -/
theorem count_text_succ {count : Nat} (small : count + 1 < safeBound) :
    some (jsNumberText (JsNumber.succ (.whole count))) = countText (count + 1) := by
  have positive : ¬ (count : Int) + 1 < 0 := by omega
  rw [JsNumber.succ, JsNumber.of_int_small (by omega), jsNumberText, if_neg positive, wholeText,
    if_pos (by omega)]
  rfl

theorem last_block_le (days : List Text) (day : Text) : lastBlock days day ≤ days.count day := by
  rw [lastBlock, ← List.count_reverse]
  have same : (days.reverse.takeWhile fun other => other = day).count day =
      (days.reverse.takeWhile fun other => other = day).length := by
    rw [List.count_eq_length]
    intro other member
    have here := List.mem_takeWhile_imp member
    exact (of_decide_eq_true here).symm
  rw [← same]
  exact (List.takeWhile_sublist _).count_le _

theorem in_turn_begin {today : Text} (turn : InTurn counter) (alone : counter.running = [])
    (small : ∀ day, counter.stored.count day < safeBound) : InTurn (counter.begin today) := by
  cases turn with
  | busy _ one => cases alone.symm.trans one
  | idle _ counts =>
      have here := counts today
      rw [InvocationCounter.begin, alone]
      cases found : counter.props.get (countKey today) with
      | none =>
          rw [found] at here
          exact .busy _ rfl ⟨found, count_text_none here.symm⟩
      | some raw =>
          rw [found] at here
          obtain ⟨counted, _, read⟩ :=
            count_text_some ((last_block_le _ _).trans_lt (small today)) here.symm
          refine .busy _ rfl ⟨read, fun day different => ?_⟩
          dsimp only
          rw [counts, last_block_only counted different]
          rfl

/-- The execution that goes on is the one that runs. -/
theorem in_turn_present {index : Nat} {phase : Counting} (turn : InTurn counter)
    (present : counter.running[index]? = some phase) :
    (∀ next, counter.running.set index next = [next]) ∧ counter.running.eraseIdx index = [] ∧
      counter.Reached phase := by
  cases turn with
  | idle none =>
      rw [none] at present
      cases present
  | busy only one reached =>
      rw [one, List.getElem?_singleton] at present
      split_ifs at present with first
      cases present
      rw [one, first]
      exact ⟨fun _ => rfl, rfl, reached⟩

theorem in_turn_go {index : Nat} (turn : InTurn counter)
    (stepped : Stepped counter (.go index) later)
    (small : ∀ day, later.stored.count day < safeBound) : InTurn later := by
  cases stepped with
  | listed _ today present =>
      obtain ⟨one, _, missing, first⟩ := in_turn_present turn present
      refine .busy _ (one _) ⟨first, fun day found => ⟨?_, fun same => found (same ▸ missing)⟩⟩
      exact not_not.mp fun absent => found ((OrderedDict.get_eq_none_iff _ _).mpr absent)
  | pruned _ today present =>
      obtain ⟨one, _, first, left⟩ := in_turn_present turn present
      refine .busy _ (one _) ⟨?_, fun day _ => ?_⟩
      · rw [first]
        rfl
      · by_contra found
        cases (left day found).1
  | removed _ today day rest present stale =>
      obtain ⟨one, _, first, left⟩ := in_turn_present turn present
      refine .busy _ (one _) ⟨first, fun other found => ?_⟩
      have different : countKey other ≠ countKey day := by
        intro same
        dsimp only at found
        rw [same] at found
        exact found (OrderedDict.get_erase_self _ _)
      dsimp only at found
      rw [OrderedDict.get_erase_of_ne _ _ _ different] at found
      obtain ⟨listed, past⟩ := left other found
      exact ⟨(List.mem_cons.mp listed).resolve_left different, past⟩
  | passed _ today key rest present kept =>
      obtain ⟨one, _, first, left⟩ := in_turn_present turn present
      refine .busy _ (one _) ⟨first, fun day found => ?_⟩
      obtain ⟨listed, past⟩ := left day found
      refine ⟨(List.mem_cons.mp listed).resolve_left fun same => past (kept day same.symm), past⟩
  | counted _ today cur present =>
      obtain ⟨_, none, count, only⟩ := in_turn_present turn present
      refine .idle none fun day => ?_
      dsimp only
      by_cases same : day = today
      · subst same
        have next := (last_block_le _ day).trans_lt (small day)
        dsimp only at next
        rw [last_block_same] at next ⊢
        rw [Properties.get_set_self, count, count_text_succ next]
      · rw [Properties.get_set_of_ne _ _ fun equal => same (count_key_inj equal), only day same,
          last_block_other same]
        rfl

section Days

/-- The days of the executions that began. -/
def begunDays (history : List CountAction) : List Text := history.flatMap CountAction.begun

theorem begun_next (past : List CountAction) (action : CountAction) :
    begunDays (past ++ [action]) = begunDays past ++ action.begun := by
  rw [begunDays, List.flatMap_append, List.flatMap_singleton, begunDays]

def days (counter : InvocationCounter) : List Text := counter.running.map Counting.today

theorem days_set {index : Nat} {phase : Counting} (next : Counting)
    (present : counter.running[index]? = some phase) (same : next.today = phase.today) :
    (counter.running.set index next).map Counting.today = counter.days ++ [] := by
  rw [List.append_nil]
  apply List.ext_getElem?
  intro i
  rw [days, List.getElem?_map, List.getElem?_map]
  by_cases here : index = i
  · rw [← here, List.getElem?_set_self (List.getElem?_eq_some_iff.mp present).1, present,
      Option.map_some, Option.map_some, same]
  · rw [List.getElem?_set_ne here]

theorem days_erase {index : Nat} {phase : Counting}
    (present : counter.running[index]? = some phase) :
    (phase.today :: (counter.running.eraseIdx index).map Counting.today).Perm counter.days := by
  obtain ⟨inside, rfl⟩ := List.getElem?_eq_some_iff.mp present
  exact (List.getElem_cons_eraseIdx_perm inside).map Counting.today

/-- A step begins an execution, goes on with one, or ends one, with its count
stored or not. -/
theorem days_moved (stepped : Stepped counter action later) :
    (later.stored = counter.stored ∧ later.days = counter.days ++ action.begun) ∨
      ∃ today, action.begun = [] ∧ (today :: later.days).Perm counter.days ∧
        (later.stored = counter.stored ++ [today] ∨
          later.stored = counter.stored ∧ ∃ index, action = .fail index) := by
  cases stepped with
  | fresh today | known today => exact .inl ⟨rfl, List.map_append⟩
  | listed index today present =>
      exact .inl ⟨rfl, days_set (.pruning today counter.props.keys) present rfl⟩
  | pruned index today present =>
      exact .inl ⟨rfl, days_set (.storing today (.whole 0)) present rfl⟩
  | removed index today _ rest present =>
      exact .inl ⟨rfl, days_set (.pruning today rest) present rfl⟩
  | passed index today _ rest present =>
      exact .inl ⟨rfl, days_set (.pruning today rest) present rfl⟩
  | counted index today cur present =>
      exact .inr ⟨today, rfl, days_erase present, .inl rfl⟩
  | failed index phase present =>
      exact .inr ⟨phase.today, rfl, days_erase present, .inr ⟨rfl, index, rfl⟩⟩

/-- An execution that has begun stays in the history. -/
theorem count_le_next (past : List CountAction) (action : CountAction) (day : Text) :
    (begunDays past).count day ≤ (begunDays (past ++ [action])).count day := by
  rw [begun_next, List.count_append]
  exact Nat.le_add_right _ _

/-- An execution that stores a count has begun before, and does it once. -/
theorem stored_begun_step {past : List CountAction} {day : Text}
    (before : counter.stored.count day + counter.days.count day ≤ (begunDays past).count day)
    (stepped : counter.step action = some later) :
    later.stored.count day + later.days.count day ≤
      (begunDays (past ++ [action])).count day := by
  rw [begun_next, List.count_append]
  rcases days_moved (step_stepped stepped) with ⟨stored, days⟩ | ⟨today, none, ended, stored⟩
  · rw [stored, days, List.count_append]
    omega
  · have counts := ended.count_eq day
    rw [List.count_cons] at counts
    rw [none, List.count_nil]
    rcases stored with stored | ⟨stored, _⟩
    · rw [stored, List.count_append, List.count_singleton]
      omega
    · rw [stored]
      omega

/-- The stores of a run, and while no count can reach the bound none that is too
high. -/
theorem counted_run {initial : Properties} {history : List CountAction}
    (run : countMachine.Run StepMachine.anyStep (start initial) history counter) :
    (∀ day, counter.stored.count day + counter.days.count day ≤
        (begunDays history).count day) ∧
      ((∀ day, countBefore initial day + (begunDays history).count day < safeBound) →
        NeverMore initial counter) := by
  apply @StepMachine.Run.invariant_with_history _ _ _ _ _ _ _ (fun past counter =>
    (∀ day, counter.stored.count day + counter.days.count day ≤ (begunDays past).count day) ∧
      ((∀ day, countBefore initial day + (begunDays past).count day < safeBound) →
        NeverMore initial counter)) run
  · exact ⟨fun _ => Nat.le_refl _, fun _ => start_never_more initial⟩
  · intro past counter action later before _ stepped
    have begun : ∀ day, later.stored.count day + later.days.count day ≤
        (begunDays (past ++ [action])).count day :=
      fun day => stored_begun_step (before.1 day) stepped
    refine ⟨begun, fun small => ?_⟩
    have never := before.2 fun day => by
      have grown := count_le_next past action day
      have within := small day
      omega
    apply step_never_more never stepped
    intro day
    have stores := begun day
    have within := small day
    omega

/-- One after the other, every execution that began has stored its count or runs. -/
theorem stored_in_turn {initial : Properties} {history : List CountAction}
    (fresh : ∀ day, initial.get (countKey day) = none)
    (small : ∀ day, (begunDays history).count day < safeBound)
    (run : countMachine.Run OneAtATime (start initial) history counter) :
    InTurn counter ∧ begunDays history = counter.stored ++ counter.days := by
  have all : (∀ day, (begunDays history).count day < safeBound) →
      InTurn counter ∧ begunDays history = counter.stored ++ counter.days := by
    apply @StepMachine.Run.invariant_with_history _ _ _ _ _ _ _ (fun past counter =>
      (∀ day, (begunDays past).count day < safeBound) →
        InTurn counter ∧ begunDays past = counter.stored ++ counter.days) run
    · exact fun _ => ⟨.idle rfl fresh, rfl⟩
    · intro past counter action later before enabled stepped small
      obtain ⟨turn, begun⟩ := before fun day => (count_le_next past action day).trans_lt (small day)
      have joined : begunDays (past ++ [action]) = later.stored ++ later.days := by
        rw [begun_next, begun]
        rcases days_moved (step_stepped stepped) with
          ⟨stored, days⟩ | ⟨today, none, ended, stored⟩
        · rw [stored, days, List.append_assoc]
        · have last : today :: later.days = counter.days := by
            cases turn with
            | idle nobody =>
                have empty : counter.days = [] := congrArg (List.map Counting.today) nobody
                rw [empty] at ended
                exact absurd ended.length_eq (Nat.succ_ne_zero _)
            | busy phase one =>
                have single : counter.days = [phase.today] :=
                  congrArg (List.map Counting.today) one
                rw [single] at ended ⊢
                exact List.perm_singleton.mp ended
          rcases stored with stored | ⟨_, index, rfl⟩
          · rw [stored, none, ← last, List.append_nil, List.append_assoc]
            rfl
          · cases enabled
      have stores : ∀ day, later.stored.count day < safeBound := by
        intro day
        have within := small day
        rw [joined, List.count_append] at within
        omega
      refine ⟨?_, joined⟩
      cases action with
      | begin today =>
          cases stepped
          exact in_turn_begin turn enabled stores
      | go index => exact in_turn_go turn (step_stepped stepped) stores
      | fail index => cases enabled
  exact all small

end Days

/-- However the executions overlap and wherever they end, a count that the script
shows is of executions that began on that day, and no other property is touched:
as long as no count can reach `2 ^ 53`, from where on adding one is not exact. -/
theorem counts_bounded {initial : Properties} {history : List CountAction}
    (run : countMachine.Run StepMachine.anyStep (start initial) history counter)
    (small : ∀ day, countBefore initial day + (begunDays history).count day < safeBound) :
    (∀ key, countPrefix.isPrefixOf key = false → counter.props.get key = initial.get key) ∧
      ∀ day n, counter.shown day = .whole n →
        n ≤ countBefore initial day + (begunDays history).count day := by
  obtain ⟨stores, bounded⟩ := counted_run run
  have never := bounded small
  refine ⟨never.others, fun day n seen => ?_⟩
  have begun := stores day
  have positive := count_before_nonneg initial day
  rw [shown] at seen
  split at seen
  · cases seen
    omega
  · cases seen
    omega
  · rename_i raw _ found
    have bound := never.counts day raw n found seen
    omega

/-- Two executions of a day that overlap: both read that there is no count. -/
def overlapping (day : Text) : List CountAction :=
  [.begin day, .begin day, .go 0, .go 0, .go 0, .go 0, .go 0, .go 0]

theorem overlapping_bounded : ∃ counter : InvocationCounter,
    counter.shown [49] = .whole 1 ∧
      (1 : Int) ≤ countBefore .empty [49] + (begunDays (overlapping [49])).count [49] := by
  obtain ⟨counter, run, checked⟩ : ∃ counter,
      countMachine.Run StepMachine.anyStep (start .empty) (overlapping [49]) counter ∧
        (counter.shown [49] == .whole 1) = true := by
    apply StepMachine.run_of_exec_any
    decide +kernel
  have seen := beq_iff_eq.mp checked
  have few : ∀ day, countBefore .empty day + (begunDays (overlapping [49])).count day <
      safeBound := by
    intro day
    have none : countBefore .empty day = 0 := rfl
    have most : (begunDays (overlapping [49])).count day ≤ 2 := List.count_le_length
    rw [none, safeBound]
    omega
  exact ⟨counter, seen, (counts_bounded run few).2 [49] 1 seen⟩

/-- One after the other, executions count right until another day begins: the
count of a day is of the executions since then, below `2 ^ 53`. -/
theorem counts_in_turn {initial : Properties} {history : List CountAction}
    (fresh : ∀ day, initial.get (countKey day) = none)
    (small : ∀ day, (begunDays history).count day < safeBound)
    (run : countMachine.Run OneAtATime (start initial) history counter)
    (ended : counter.running = []) (day : Text) :
    counter.shown day = .whole (lastBlock (begunDays history) day) := by
  obtain ⟨turn, begun⟩ := stored_in_turn fresh small run
  have none : counter.days = [] := congrArg (List.map Counting.today) ended
  have stores : counter.stored.count day < safeBound := by
    have within := small day
    rw [begun, none, List.append_nil] at within
    exact within
  rw [begun, none, List.append_nil, shown]
  cases turn with
  | busy _ one => cases ended.symm.trans one
  | idle _ counts =>
      have here := counts day
      cases found : counter.props.get (countKey day) with
      | none =>
          rw [found] at here
          rw [count_text_none here.symm]
          rfl
      | some raw =>
          rw [found] at here
          obtain ⟨_, solid, read⟩ :=
            count_text_some ((last_block_le _ _).trans_lt stores) here.symm
          cases raw with
          | nil => exact absurd rfl solid
          | cons point rest => exact read

/-- Two executions of one day, one of another, and one of the first day again. -/
def dayReturns : List CountAction :=
  [.begin [49], .go 0, .go 0, .go 0] ++ [.begin [49], .go 0] ++
    [.begin [50], .go 0, .go 0, .go 0, .go 0] ++ [.begin [49], .go 0, .go 0, .go 0, .go 0]

theorem returned_counts_again : ∃ counter : InvocationCounter,
    countMachine.Run OneAtATime (start .empty) dayReturns counter ∧
      counter.shown [49] = .whole 1 := by
  obtain ⟨counter, run, checked⟩ : ∃ counter,
      countMachine.Run OneAtATime (start .empty) dayReturns counter ∧
        (counter.running == []) = true := by
    apply StepMachine.run_of_exec_any
    decide +kernel
  have few : ∀ day, (begunDays dayReturns).count day < safeBound := by
    intro day
    have most : (begunDays dayReturns).count day ≤ 4 := List.count_le_length
    rw [safeBound]
    omega
  exact ⟨counter, run, counts_in_turn (fun _ => rfl) few run (beq_iff_eq.mp checked) [49]⟩

end InvocationCounter

end Astrix
