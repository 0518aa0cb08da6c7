import Mathlib.Data.List.Basic
import Mathlib.Data.List.GetD
import Mathlib.Data.List.InsertIdx

/-!
# A relay of carriers between two queues

Items are appended to a buffer; a carrier is loaded with the front of the
buffer; unloading a carrier appends its items to the delivered sequence. The
carriers are kept in loading order. Any carrier may be unloaded next, so the
delivered sequence is a prefix of what was emitted only while no carrier with
items overtakes an earlier one that still holds items.
-/

set_option autoImplicit false

universe u v

structure FifoRelay (Item : Type u) where
  delivered : List Item
  carriers : List (List Item)
  buffer : List Item

namespace FifoRelay

variable {Item : Type u}

/-- All items emitted so far, in the order an undisturbed relay delivers them. -/
def emitted (relay : FifoRelay Item) : List Item :=
  relay.delivered ++ relay.carriers.flatten ++ relay.buffer

def push (relay : FifoRelay Item) (items : List Item) : FifoRelay Item :=
  { relay with buffer := relay.buffer ++ items }

/-- The buffer is split into the load of a new carrier and the rest. -/
def load (relay : FifoRelay Item) (front rest : List Item) : FifoRelay Item :=
  { relay with
    carriers := relay.carriers ++ [front]
    buffer := rest }

def unload (relay : FifoRelay Item) (index : Nat) : FifoRelay Item :=
  { relay with
    delivered := relay.delivered ++ relay.carriers.getD index []
    carriers := relay.carriers.eraseIdx index }

/-- The carrier is empty, or no carrier loaded before it still holds an item. -/
def InOrder (relay : FifoRelay Item) (index : Nat) : Prop :=
  relay.carriers.getD index [] = [] ∨ ∀ earlier ∈ relay.carriers.take index, earlier = []

theorem emitted_push (relay : FifoRelay Item) (items : List Item) :
    (relay.push items).emitted = relay.emitted ++ items := by
  simp [push, emitted]

theorem emitted_load (relay : FifoRelay Item) {front rest : List Item}
    (split : relay.buffer = front ++ rest) : (relay.load front rest).emitted = relay.emitted := by
  simp [load, emitted, split]

/-- A carrier that is taken out of the middle. -/
theorem flatten_erase (carriers : List (List Item)) (index : Nat)
    (inOrder : carriers.getD index [] = [] ∨ ∀ earlier ∈ carriers.take index, earlier = []) :
    carriers.flatten = carriers.getD index [] ++ (carriers.eraseIdx index).flatten := by
  by_cases inside : index < carriers.length
  · have whole : carriers.flatten = (carriers.take index).flatten ++
        (carriers[index] ++ (carriers.drop (index + 1)).flatten) := by
      calc
        carriers.flatten = (carriers.take index ++ carriers.drop index).flatten := by
          rw [List.take_append_drop]
        _ = (carriers.take index).flatten ++
              (carriers[index] ++ (carriers.drop (index + 1)).flatten) := by
          rw [List.flatten_append, List.drop_eq_getElem_cons inside, List.flatten_cons]
    rw [List.getD_eq_getElem _ _ inside] at inOrder ⊢
    rw [whole, List.eraseIdx_eq_take_drop_succ, List.flatten_append]
    rcases inOrder with empty | before
    · rw [empty, List.nil_append, List.nil_append]
    · rw [List.flatten_eq_nil_iff.mpr before, List.nil_append, List.nil_append]
  · have outside : carriers.length ≤ index := Nat.le_of_not_lt inside
    rw [List.getD_eq_default _ _ outside, List.eraseIdx_of_length_le outside, List.nil_append]

/-- Unloading in order moves items along without changing the sequence. -/
theorem emitted_unload (relay : FifoRelay Item) (index : Nat)
    (inOrder : relay.InOrder index) : (relay.unload index).emitted = relay.emitted := by
  simp only [unload, emitted, flatten_erase relay.carriers index inOrder, List.append_assoc]

section Messages

variable {Message : Type v} (content : Message → List Item) (messages : List Message)
  (delivered : List Item)

/-- A message sent with the front of what is buffered and newly pushed. -/
theorem emitted_send (message : Message) {buffer more rest : List Item}
    (split : buffer ++ more = content message ++ rest) :
    (FifoRelay.mk delivered ((messages ++ [message]).map content) rest).emitted =
      (FifoRelay.mk delivered (messages.map content) buffer).emitted ++ more := by
  have loaded : FifoRelay.mk delivered ((messages ++ [message]).map content) rest =
      ((FifoRelay.mk delivered (messages.map content) buffer).push more).load
        (content message) rest := by
    simp only [push, load, List.map_append, List.map_cons, List.map_nil]
  rw [loaded, emitted_load _ split, emitted_push]

/-- A message that is handed over in turn is the carrier that is unloaded. -/
theorem emitted_hand_over (buffer : List Item) {index : Nat} {message : Message}
    (found : messages[index]? = some message)
    (inTurn : content message = [] ∨ ∀ earlier ∈ messages.take index, content earlier = []) :
    (FifoRelay.mk (delivered ++ content message) ((messages.eraseIdx index).map content)
        buffer).emitted =
      (FifoRelay.mk delivered (messages.map content) buffer).emitted := by
  have carrier : (messages.map content).getD index [] = content message := by
    simp [List.getD_eq_getElem?_getD, found]
  have unloaded : FifoRelay.mk (delivered ++ content message)
      ((messages.eraseIdx index).map content) buffer =
        (FifoRelay.mk delivered (messages.map content) buffer).unload index := by
    simp only [unload, carrier, List.eraseIdx_map]
  rw [unloaded]
  apply emitted_unload
  rcases inTurn with empty | before
  · exact .inl (carrier.trans empty)
  · refine .inr fun earlier member => ?_
    rw [← List.map_take] at member
    obtain ⟨other, listed, rfl⟩ := List.mem_map.mp member
    exact before other listed

end Messages

theorem delivered_prefix (relay : FifoRelay Item) : relay.delivered <+: relay.emitted :=
  ⟨relay.carriers.flatten ++ relay.buffer, by simp [emitted]⟩

end FifoRelay
