import Mathlib.Data.List.Dedup
import Mathlib.Data.List.Induction
import Astrix.Library.OrderedDict

/-!
# The keys that a dictionary has over time

Keys are entered and taken out. A key that is entered goes last unless it is
there, and one that is taken out loses its place. So a key is there exactly when
the last note about it entered it, and if none is ever taken out the keys are the
first occurrences of those entered, in their order.
-/

namespace PyRuntime

set_option autoImplicit false

universe u v

variable {Key : Type u}

/-- What is done with a key. -/
inductive KeyNote (Key : Type u) where
  | enters (key : Key)
  | leaves (key : Key)
  deriving DecidableEq

def KeyNote.key : KeyNote Key → Key
  | .enters key | .leaves key => key

/-- The last note about the key entered it. -/
def LastEnters (key : Key) (notes : List (KeyNote Key)) : Prop :=
  ∃ before after, notes = before ++ .enters key :: after ∧ ∀ note ∈ after, note.key ≠ key

theorem last_enters_other {key : Key} {notes : List (KeyNote Key)} {note : KeyNote Key}
    (other : note.key ≠ key) : LastEnters key (notes ++ [note]) ↔ LastEnters key notes := by
  constructor
  · intro last
    obtain ⟨before, after, same, none⟩ := last
    rcases List.eq_nil_or_concat after with rfl | ⟨inner, final, rfl⟩
    · have ends := (List.append_inj' same rfl).2
      cases ends
      exact absurd rfl other
    · rw [List.concat_eq_append, ← List.cons_append, ← List.append_assoc] at same
      obtain ⟨front, _⟩ := List.append_inj' same rfl
      refine ⟨before, inner, front, fun other member => none other ?_⟩
      rw [List.concat_eq_append]
      exact List.mem_append_left _ member
  · intro last
    obtain ⟨before, after, rfl, none⟩ := last
    refine ⟨before, after ++ [note], by rw [List.append_assoc, List.cons_append], ?_⟩
    intro later member
    rcases List.mem_append.mp member with inside | final
    · exact none later inside
    · rw [List.mem_singleton.mp final]
      exact other

namespace OrderedDict

variable {Value : Type v}

theorem insert_new_keys (dict : OrderedDict Key Value) (key : Key) (value : Value)
    (fresh : key ∉ dict.keys) : (dict.insertNew key value fresh).keys = dict.keys ++ [key] := by
  rw [OrderedDict.keys, OrderedDict.insertNew, List.map_append]
  rfl

variable [DecidableEq Key]

theorem erase_keys (dict : OrderedDict Key Value) (key : Key) :
    (dict.erase key).keys = dict.keys.filter fun other => other ≠ key := by
  rw [OrderedDict.keys, OrderedDict.erase, OrderedDict.keys, List.filter_map]
  rfl

end OrderedDict

variable [DecidableEq Key]

/-- A key goes last unless it is there. -/
def enter (keys : List Key) (key : Key) : List Key :=
  if key ∈ keys then keys else keys ++ [key]

/-- The first occurrences, in their order. -/
def firsts (keys : List Key) : List Key := keys.reverse.dedup.reverse

theorem firsts_append (keys : List Key) (key : Key) :
    firsts (keys ++ [key]) = enter (firsts keys) key := by
  rw [firsts, enter, List.reverse_append, List.reverse_singleton, List.singleton_append]
  by_cases known : key ∈ keys
  · rw [List.dedup_cons_of_mem (List.mem_reverse.mpr known), if_pos]
    · rfl
    · simpa [firsts] using known
  · rw [List.dedup_cons_of_notMem fun member => known (List.mem_reverse.mp member), if_neg,
      List.reverse_cons]
    · rfl
    · simpa [firsts] using known

def KeyNote.apply (keys : List Key) : KeyNote Key → List Key
  | .enters key => enter keys key
  | .leaves key => keys.filter fun other => other ≠ key

/-- The keys after all notes. -/
def directory (notes : List (KeyNote Key)) : List Key := notes.foldl KeyNote.apply []

theorem directory_append (notes more : List (KeyNote Key)) :
    directory (notes ++ more) = more.foldl KeyNote.apply (directory notes) :=
  List.foldl_append ..

/-- Where no key is taken out, the first occurrences are there. -/
theorem directory_enters (keys : List Key) : directory (keys.map .enters) = firsts keys := by
  induction keys using List.reverseRecOn with
  | nil => rfl
  | append_singleton keys key ih =>
      rw [List.map_append, directory_append, ih, firsts_append]
      rfl

theorem mem_enter {keys : List Key} {key other : Key} :
    key ∈ enter keys other ↔ key ∈ keys ∨ key = other := by
  rw [enter]
  split_ifs with known
  · constructor
    · exact .inl
    · intro either
      rcases either with member | rfl
      · exact member
      · exact known
  · rw [List.mem_append, List.mem_singleton]

/-- A note about another key. -/
theorem mem_apply_other {keys : List Key} {key : Key} {note : KeyNote Key}
    (other : note.key ≠ key) : key ∈ note.apply keys ↔ key ∈ keys := by
  cases note with
  | enters entered =>
      rw [KeyNote.apply, mem_enter]
      exact ⟨fun either => either.resolve_right fun same => other same.symm, .inl⟩
  | leaves left =>
      rw [KeyNote.apply, List.mem_filter, decide_eq_true_eq]
      exact ⟨fun both => both.1, fun member => ⟨member, fun same => other same.symm⟩⟩

/-- A key is there exactly when the last note about it entered it. -/
theorem mem_directory {key : Key} {notes : List (KeyNote Key)} :
    key ∈ directory notes ↔ LastEnters key notes := by
  induction notes using List.reverseRecOn with
  | nil =>
      refine iff_of_false List.not_mem_nil fun last => ?_
      obtain ⟨before, after, same, _⟩ := last
      exact absurd same (List.append_ne_nil_of_right_ne_nil _ (List.cons_ne_nil _ _)).symm
  | append_singleton notes note ih =>
      have last : directory (notes ++ [note]) = note.apply (directory notes) :=
        directory_append notes [note]
      rw [last]
      by_cases own : note.key = key
      · cases note with
        | enters entered =>
            cases own
            refine iff_of_true (mem_enter.mpr (.inr rfl)) ⟨notes, [], rfl, ?_⟩
            exact List.forall_mem_nil _
        | leaves left =>
            cases own
            refine iff_of_false (fun member => ?_) fun last => ?_
            · exact of_decide_eq_true (List.mem_filter.mp member).2 rfl
            · obtain ⟨before, after, same, none⟩ := last
              rcases List.eq_nil_or_concat after with rfl | ⟨inner, final, rfl⟩
              · cases (List.append_inj' same rfl).2
              · rw [List.concat_eq_append] at none
                rw [List.concat_eq_append, ← List.cons_append, ← List.append_assoc] at same
                cases (List.append_inj' same rfl).2
                exact none _ (List.mem_append_right _ (List.mem_singleton_self _)) rfl
      · rw [mem_apply_other own, ih, last_enters_other own]

end PyRuntime
