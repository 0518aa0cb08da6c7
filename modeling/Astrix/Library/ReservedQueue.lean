import Mathlib.Algebra.Order.Group.Multiset
import Mathlib.Data.List.Flatten

/-!
# Queues with reservations

Items are pushed at the end of a queue. A reservation takes items off the front
under a tag; later it is settled, and its items are gone for good, or restored
to the front. Nothing is lost or doubled in any order of operations. When only
the newest reservation is ever restored, what is held keeps the order of the
pushes, and a reservation that is restored leaves no trace.
-/

set_option autoImplicit false

universe u v

section KeyedLog

variable {Key : Type u} {Value : Type v} [DecidableEq Key]

/-- The values that a log of keyed entries has for one key. -/
def valuesAt (key : Key) (entries : List (Key × Value)) : List Value :=
  (entries.filter fun entry => entry.1 = key).map Prod.snd

@[simp] theorem values_at_append (key : Key) (entries more : List (Key × Value)) :
    valuesAt key (entries ++ more) = valuesAt key entries ++ valuesAt key more := by
  simp [valuesAt]

theorem values_at_self (key : Key) (values : List Value) :
    valuesAt key (values.map fun value => (key, value)) = values := by
  induction values with
  | nil => rfl
  | cons value rest ih =>
      rw [valuesAt] at ih
      simp [valuesAt, ih]

theorem values_at_other {key other : Key} (different : key ≠ other) (values : List Value) :
    valuesAt key (values.map fun value => (other, value)) = [] := by
  simp [valuesAt, different.symm]

end KeyedLog

/-- Reservations are kept oldest first. -/
structure ReservedQueue (Item : Type u) where
  queue : List Item
  reserved : List (Nat × List Item)
  settled : List Item

namespace ReservedQueue

variable {Item : Type u}

/-- The items reserved under a tag. -/
def itemsOf (q : ReservedQueue Item) (tag : Nat) : List Item :=
  (q.reserved.filter fun entry => entry.1 = tag).flatMap Prod.snd

def without (q : ReservedQueue Item) (tag : Nat) : List (Nat × List Item) :=
  q.reserved.filter fun entry => entry.1 ≠ tag

inductive Op (Item : Type u) where
  | push (items : List Item)
  | reserve (tag count : Nat)
  | settle (tag : Nat)
  | restore (tag : Nat)

def Op.pushed : Op Item → List Item
  | .push items => items
  | _ => []

def apply (q : ReservedQueue Item) : Op Item → ReservedQueue Item
  | .push items => { q with queue := q.queue ++ items }
  | .reserve tag count =>
      { q with
        queue := q.queue.drop count
        reserved := q.reserved ++ [(tag, q.queue.take count)] }
  | .settle tag =>
      { q with
        reserved := q.without tag
        settled := q.settled ++ q.itemsOf tag }
  | .restore tag =>
      { q with
        queue := q.itemsOf tag ++ q.queue
        reserved := q.without tag }

/-- Reservations followed by the queue. -/
def held (q : ReservedQueue Item) : List Item := q.reserved.flatMap Prod.snd ++ q.queue

/-- The reservations from a tag on, followed by the queue. -/
def heldSince (q : ReservedQueue Item) (tag : Nat) : List Item :=
  (q.reserved.filter fun entry => tag ≤ entry.1).flatMap Prod.snd ++ q.queue

/-- No reservation is newer than `tag`. -/
def Newest (q : ReservedQueue Item) (tag : Nat) : Prop := ∀ entry ∈ q.reserved, entry.1 ≤ tag

/-- Restores take the newest reservation. -/
def LastFirst (q : ReservedQueue Item) : Op Item → Prop
  | .restore tag => q.Newest tag
  | _ => True

/-- Later reservations have greater tags. -/
def Ordered (q : ReservedQueue Item) : Prop :=
  q.reserved.Pairwise fun older newer => older.1 < newer.1

variable (q : ReservedQueue Item)

theorem reserved_split (tag : Nat) :
    (q.itemsOf tag ++ (q.without tag).flatMap Prod.snd).Perm (q.reserved.flatMap Prod.snd) := by
  have split := List.filter_append_perm
    (fun entry : Nat × List Item => decide (entry.1 = tag)) q.reserved
  have both : q.itemsOf tag ++ (q.without tag).flatMap Prod.snd =
      ((q.reserved.filter fun entry => decide (entry.1 = tag)) ++
        q.reserved.filter fun entry => !decide (entry.1 = tag)).flatMap Prod.snd := by
    simp [itemsOf, without]
  rw [both]
  exact split.flatMap_right Prod.snd

/-- Every operation keeps the items, as a multiset, but for what it pushes. -/
theorem apply_conserves (op : Op Item) :
    ((q.apply op).held ++ (q.apply op).settled).Perm (q.held ++ q.settled ++ op.pushed) := by
  rw [← Multiset.coe_eq_coe]
  cases op with
  | push items =>
      simp only [apply, held, Op.pushed, ← Multiset.coe_add]
      ac_rfl
  | reserve tag count =>
      have whole : (q.queue : Multiset Item) = q.queue.take count + q.queue.drop count := by
        rw [Multiset.coe_add, List.take_append_drop]
      simp only [apply, held, Op.pushed, List.flatMap_append, List.flatMap_singleton, whole,
        List.append_nil, ← Multiset.coe_add]
      ac_rfl
  | settle tag =>
      have split := Multiset.coe_eq_coe.mpr (q.reserved_split tag)
      simp only [apply, held, Op.pushed, List.append_nil, ← split, ← Multiset.coe_add]
      ac_rfl
  | restore tag =>
      have split := Multiset.coe_eq_coe.mpr (q.reserved_split tag)
      simp only [apply, held, Op.pushed, List.append_nil, ← split, ← Multiset.coe_add]
      ac_rfl

/-- The newest reservation stands last. -/
theorem newest_last {tag : Nat} (ordered : q.Ordered) (newest : q.Newest tag) :
    q.without tag ++ (q.reserved.filter fun entry => entry.1 = tag) = q.reserved := by
  obtain ⟨queue, reserved, settled⟩ := q
  simp only [without, Ordered, Newest] at ordered newest ⊢
  induction reserved with
  | nil => rfl
  | cons entry rest ih =>
      obtain ⟨later, restOrdered⟩ := List.pairwise_cons.mp ordered
      have others := ih restOrdered fun other member => newest other (List.mem_cons_of_mem _ member)
      by_cases here : entry.1 = tag
      · have last : rest = [] := by
          apply List.eq_nil_iff_forall_not_mem.mpr
          intro other member
          have after := later other member
          have bound := newest other (List.mem_cons_of_mem _ member)
          omega
        simp [last, here]
      · rw [List.filter_cons, if_pos (by simpa using here), List.filter_cons,
          if_neg (by simpa using here), List.cons_append, others]

/-- Under the discipline an operation keeps the order of what is held. -/
theorem apply_held {op : Op Item} (ordered : q.Ordered) (lastFirst : q.LastFirst op) :
    ((q.apply op).held).Sublist (q.held ++ op.pushed) := by
  cases op with
  | push items =>
      simp only [apply, held, Op.pushed, List.append_assoc]
      exact List.Sublist.refl _
  | reserve tag count =>
      simp only [apply, held, Op.pushed, List.flatMap_append, List.flatMap_singleton,
        List.append_assoc, List.take_append_drop, List.append_nil]
      exact List.Sublist.refl _
  | settle tag =>
      simp only [apply, held, Op.pushed, List.append_nil]
      refine List.Sublist.append ?_ (List.Sublist.refl _)
      exact List.Sublist.flatMap List.filter_sublist _
  | restore tag =>
      have split := q.newest_last ordered lastFirst
      have same : (q.apply (.restore tag)).held = q.held := by
        calc
          (q.apply (.restore tag)).held =
              (q.without tag ++ q.reserved.filter fun entry => entry.1 = tag).flatMap Prod.snd ++
                q.queue := by
            simp only [apply, held, itemsOf, List.flatMap_append, List.append_assoc]
          _ = q.held := by rw [split, held]
      rw [same]
      exact List.sublist_append_left _ _

/-- The operation leaves alone what was reserved before `start`, and does not
settle what was reserved from then on. -/
def Undoable (start : Nat) : Op Item → Prop
  | .push _ => True
  | .reserve tag _ => start ≤ tag
  | .settle tag => tag < start
  | .restore tag => start ≤ tag

/-- What is held since a tag only grows by what is pushed. -/
theorem apply_held_since {op : Op Item} {start : Nat} (ordered : q.Ordered)
    (lastFirst : q.LastFirst op) (undoable : Undoable start op) :
    (q.apply op).heldSince start = q.heldSince start ++ op.pushed := by
  cases op with
  | push items => simp only [apply, heldSince, Op.pushed, List.append_assoc]
  | reserve tag count =>
      have since : start ≤ tag := undoable
      simp [apply, heldSince, Op.pushed, List.filter_append, since]
  | settle tag =>
      have before : tag < start := undoable
      have kept : ((q.without tag).filter fun entry => start ≤ entry.1) =
          q.reserved.filter fun entry => start ≤ entry.1 := by
        rw [without, List.filter_filter]
        apply List.filter_congr
        intro entry _
        by_cases since : start ≤ entry.1
        · have other : entry.1 ≠ tag := by omega
          simp [since, other]
        · simp [since]
      simp only [apply, heldSince, Op.pushed, kept, List.append_nil]
  | restore tag =>
      have since : start ≤ tag := undoable
      have split := q.newest_last ordered lastFirst
      have tagged : ((q.reserved.filter fun entry => entry.1 = tag).filter fun entry =>
          start ≤ entry.1) = q.reserved.filter fun entry => entry.1 = tag := by
        apply List.filter_eq_self.mpr
        intro entry member
        have same : entry.1 = tag := by simpa using (List.mem_filter.mp member).2
        simpa [same] using since
      calc
        (q.apply (.restore tag)).heldSince start =
            ((q.without tag ++ q.reserved.filter fun entry => entry.1 = tag).filter fun entry =>
              start ≤ entry.1).flatMap Prod.snd ++ q.queue := by
          simp only [apply, heldSince, itemsOf, List.filter_append, tagged, List.flatMap_append,
            List.append_assoc]
        _ = q.heldSince start ++ Op.pushed (.restore tag) := by
          rw [split]
          exact (List.append_nil _).symm

/-- Once the newest reservation is restored and there is none since its tag, the
queue is all that is held since. -/
theorem held_since_restored {tag : Nat} (newest : q.Newest tag) :
    (q.apply (.restore tag)).heldSince tag = (q.apply (.restore tag)).queue := by
  have none : ((q.without tag).filter fun entry => tag ≤ entry.1) = [] := by
    apply List.filter_eq_nil_iff.mpr
    intro entry member
    obtain ⟨listed, other⟩ := List.mem_filter.mp member
    have bound := newest entry listed
    have different : entry.1 ≠ tag := by simpa using other
    simp only [decide_eq_true_eq]
    omega
  simp only [apply, heldSince, none, List.flatMap_nil, List.nil_append]

theorem held_since_reserved {tag count : Nat} (older : ∀ entry ∈ q.reserved, entry.1 < tag) :
    (q.apply (.reserve tag count)).heldSince tag = q.queue := by
  have none : (q.reserved.filter fun entry => tag ≤ entry.1) = [] := by
    apply List.filter_eq_nil_iff.mpr
    intro entry member
    have bound := older entry member
    simp only [decide_eq_true_eq]
    omega
  simp [apply, heldSince, List.filter_append, none]

end ReservedQueue
