import Mathlib.Data.List.Basic
import Mathlib.Data.List.Nodup

/-!
# Insertion-ordered dictionaries

Python `dict`: iteration follows insertion order, a new key goes last, and a
removed key loses its place. Distinctness of the keys is a field.
-/

namespace PyRuntime

set_option autoImplicit false

universe u v

structure OrderedDict (Key : Type u) (Value : Type v) where
  entries : List (Key × Value)
  distinct : (entries.map Prod.fst).Nodup

namespace OrderedDict

variable {Key : Type u} {Value : Type v}

def empty : OrderedDict Key Value := ⟨[], List.nodup_nil⟩

def keys (dict : OrderedDict Key Value) : List Key := dict.entries.map Prod.fst

def values (dict : OrderedDict Key Value) : List Value := dict.entries.map Prod.snd

variable [DecidableEq Key]

/-- `dict.get(key)`. -/
def get (dict : OrderedDict Key Value) (key : Key) : Option Value :=
  (dict.entries.find? fun entry => entry.1 = key).map Prod.snd

/-- `dict[key] = value` for a key that is not present. -/
def insertNew (dict : OrderedDict Key Value) (key : Key) (value : Value)
    (fresh : key ∉ dict.keys) : OrderedDict Key Value where
  entries := dict.entries ++ [(key, value)]
  distinct := by
    rw [List.map_append, List.nodup_append]
    refine ⟨dict.distinct, List.nodup_singleton _, ?_⟩
    intro present presentMember other otherMember same
    rw [List.map_singleton, List.mem_singleton] at otherMember
    rw [same, otherMember] at presentMember
    exact fresh presentMember

/-- `dict.pop(key, None)`, the dictionary part. -/
def erase (dict : OrderedDict Key Value) (key : Key) : OrderedDict Key Value where
  entries := dict.entries.filter fun entry => entry.1 ≠ key
  distinct := (List.filter_sublist.map Prod.fst).nodup dict.distinct

theorem get_eq_some_iff (dict : OrderedDict Key Value) (key : Key) (value : Value) :
    dict.get key = some value ↔ (key, value) ∈ dict.entries := by
  obtain ⟨entries, distinct⟩ := dict
  simp only [get]
  induction entries with
  | nil => simp
  | cons entry rest ih =>
      obtain ⟨first, held⟩ := entry
      simp only [List.map_cons, List.nodup_cons] at distinct
      by_cases same : first = key
      · subst same
        have later : (first, value) ∉ rest := fun member =>
          distinct.1 (List.mem_map_of_mem member)
        simp [later, eq_comm]
      · simp [same, Ne.symm same, ih distinct.2]

theorem get_eq_none_iff (dict : OrderedDict Key Value) (key : Key) :
    dict.get key = none ↔ key ∉ dict.keys := by
  simp only [get, Option.map_eq_none_iff, List.find?_eq_none, keys, List.mem_map,
    decide_eq_true_eq, not_exists, not_and]

theorem get_insert_new_self (dict : OrderedDict Key Value) (key : Key) (value : Value)
    (fresh : key ∉ dict.keys) : (dict.insertNew key value fresh).get key = some value := by
  rw [get_eq_some_iff]
  simp [insertNew]

theorem get_insert_new_of_ne (dict : OrderedDict Key Value) (key other : Key) (value : Value)
    (fresh : key ∉ dict.keys) (different : other ≠ key) :
    (dict.insertNew key value fresh).get other = dict.get other := by
  simp only [get, insertNew, List.find?_append]
  cases dict.entries.find? fun entry => entry.1 = other with
  | some entry => rfl
  | none => simp [Ne.symm different]

theorem get_erase_self (dict : OrderedDict Key Value) (key : Key) :
    (dict.erase key).get key = none := by
  rw [get_eq_none_iff]
  simp [keys, erase]

theorem get_erase_of_ne (dict : OrderedDict Key Value) (key other : Key)
    (different : other ≠ key) : (dict.erase key).get other = dict.get other := by
  apply Option.ext
  intro value
  rw [get_eq_some_iff, get_eq_some_iff]
  simp [erase, different]

theorem get_erase_some (dict : OrderedDict Key Value) (key other : Key) (value : Value)
    (found : (dict.erase key).get other = some value) : dict.get other = some value := by
  by_cases same : other = key
  · rw [same, get_erase_self] at found
    cases found
  · rwa [get_erase_of_ne dict key other same] at found

end OrderedDict

end PyRuntime
