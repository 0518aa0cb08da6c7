import Astrix.Library.OrderedDict
import Astrix.Library.TextEdits
import Mathlib.Data.List.Forall2
import Mathlib.Data.Rat.Defs

/-!
# JSON values

What `json.load` returns and what a program may do with it without a check of
its own: `get`, `int`, truth, `strip`, iteration and `in`, each with the
exception that a value of another type raises. A value that is written with
`json.dump` is read back as itself, so a file is the value in it.
-/

namespace PyRuntime

set_option autoImplicit false

/-- The pairs of an object are in the order of the text. The finite numbers with
a point or an exponent are rational, and `infinite` is what one past the range
of a double is read as. -/
inductive Json where
  | null
  | bool (value : Bool)
  | integer (value : Int)
  | real (value : ℚ)
  | infinite (negative : Bool)
  | string (text : Text)
  | array (items : List Json)
  | object (fields : List (Text × Json))

/-- The exception classes that reading a configuration can end in. Texts are those
of the program; `invalidLiteral` is the `ValueError` of `int` and of `bytes.fromhex` on a
text, and `invalidUrl` that of `urlparse`. -/
inductive LoadError where
  | valueError (message : Text)
  | fileNotFoundError (message : Text)
  | invalidLiteral
  | invalidUrl
  | jsonDecodeError
  | typeError
  | attributeError
  | overflowError
  | unicodeEncodeError
  | zeroDivisionError
  | indexError
  deriving DecidableEq

/-- `if condition: raise error`. -/
def failIf (condition : Prop) [Decidable condition] (error : LoadError) : Except LoadError Unit :=
  if condition then .error error else .ok ()

theorem fail_if_ok_iff (condition : Prop) [Decidable condition] (error : LoadError)
    (result : Unit) : failIf condition error = .ok result ↔ ¬condition := by
  unfold failIf
  split_ifs with holds <;> simp [holds]

/-- A list is worked through item by item. -/
theorem map_m_ok_iff {ε α β : Type} (f : α → Except ε β) (items : List α) (results : List β) :
    items.mapM f = .ok results ↔
      List.Forall₂ (fun item result => f item = .ok result) items results := by
  induction items generalizing results with
  | nil =>
      rw [List.mapM_nil, List.forall₂_nil_left_iff]
      constructor
      · intro same
        cases same
        rfl
      · intro same
        rcases same with rfl
        rfl
  | cons item rest ih =>
      rw [List.mapM_cons, bind_ok_iff]
      simp only [bind_ok_iff, ih]
      constructor
      · intro given
        rcases given with ⟨first, isFirst, others, areOthers, same⟩
        cases same
        exact .cons isFirst areOthers
      · intro given
        rcases given with _ | ⟨isFirst, areOthers⟩
        exact ⟨_, isFirst, _, areOthers, rfl⟩

theorem map_m_ok_mem {ε α β : Type} {f : α → Except ε β} {items : List α} {results : List β}
    (mapped : items.mapM f = .ok results) :
    ∀ result ∈ results, ∃ item ∈ items, f item = .ok result := by
  have related := (map_m_ok_iff f items results).mp mapped
  clear mapped
  induction related with
  | nil => exact List.forall_mem_nil _
  | cons isFirst _ ih =>
      rw [List.forall_mem_cons]
      constructor
      · exact ⟨_, List.mem_cons_self .., isFirst⟩
      · intro result member
        obtain ⟨item, inside, isItem⟩ := ih result member
        exact ⟨item, List.mem_cons_of_mem _ inside, isItem⟩

/-- `str(number)`. -/
def integerText : Int → Text
  | .ofNat number => decimalText number
  | .negSucc number => 45 :: decimalText (number + 1)

/-- The value of a key in the pairs of an object; the last pair counts. -/
def lookup (fields : List (Text × Json)) (key : Text) : Option Json :=
  (fields.reverse.find? fun field => field.1 = key).map Prod.snd

/-- With distinct keys an object is a dictionary. -/
theorem lookup_of_mem {fields : List (Text × Json)} {key : Text} {value : Json}
    (distinct : (fields.map Prod.fst).Nodup) (member : (key, value) ∈ fields) :
    lookup fields key = some value := by
  have reversed : (fields.reverse.map Prod.fst).Nodup := by
    rw [List.map_reverse, List.nodup_reverse]
    exact distinct
  have found := (OrderedDict.get_eq_some_iff ⟨fields.reverse, reversed⟩ key value).mpr
    (List.mem_reverse.mpr member)
  exact found

theorem lookup_none {fields : List (Text × Json)} {key : Text}
    (absent : key ∉ fields.map Prod.fst) : lookup fields key = none := by
  rw [lookup, Option.map_eq_none_iff, List.find?_eq_none]
  intro entry member same
  rw [List.mem_reverse] at member
  exact absent (List.mem_map.mpr ⟨entry, member, of_decide_eq_true same⟩)

namespace Json

/-- `bool(value)`. -/
def truthy : Json → Bool
  | .null => false
  | .bool value => value
  | .integer value => value ≠ 0
  | .real value => value ≠ 0
  | .infinite _ => true
  | .string text => !text.isEmpty
  | .array items => !items.isEmpty
  | .object fields => !fields.isEmpty

/-- `value.get(key, default)`. -/
def get (value : Json) (key : Text) (default : Json) : Except LoadError Json :=
  match value with
  | .object fields => .ok ((lookup fields key).getD default)
  | _ => .error .attributeError

/-- `int(value)`. -/
def toInt : Json → Except LoadError Int
  | .bool value => .ok (if value then 1 else 0)
  | .integer value => .ok value
  | .real value => .ok (value.num.tdiv value.den)
  | .infinite _ => .error .overflowError
  | .string text =>
      match parseInt text with
      | some value => .ok value
      | none => .error .invalidLiteral
  | _ => .error .typeError

/-- A value on which only the methods of a text are called. -/
def asText : Json → Except LoadError Text
  | .string text => .ok text
  | _ => .error .attributeError

/-- `value.strip()`. -/
def stripped (value : Json) : Except LoadError Text := do
  let text ← value.asText
  .ok (strip text)

/-- The items of `for item in value`. -/
def iterate : Json → Except LoadError (List Json)
  | .array items => .ok items
  | .object fields => .ok ((fields.map Prod.fst).eraseDups.map .string)
  | .string text => .ok (text.map fun point => .string [point])
  | _ => .error .typeError

def isString (text : Text) : Json → Bool
  | .string other => other = text
  | _ => false

/-- `text in value`. -/
def contains (text : Text) : Json → Except LoadError Bool
  | .string other => .ok (text <:+: other)
  | .array items => .ok (items.any (isString text))
  | .object fields => .ok ((fields.map Prod.fst).contains text)
  | _ => .error .typeError

theorem as_text_ok_iff {value : Json} {text : Text} :
    value.asText = .ok text ↔ value = .string text := by
  cases value <;> simp [asText]

theorem stripped_ok_iff {value : Json} {text : Text} :
    value.stripped = .ok text ↔ ∃ raw, value = .string raw ∧ strip raw = text := by
  rw [stripped, bind_ok_iff]
  simp only [as_text_ok_iff, Except.ok.injEq]

theorem get_object (fields : List (Text × Json)) (key : Text) (default : Json) :
    (Json.object fields).get key default = .ok ((lookup fields key).getD default) := rfl

/-- What counts as true has an item, if it has items at all. -/
theorem iterate_some {value : Json} {items : List Json} (given : value.truthy = true)
    (iterated : value.iterate = .ok items) : items ≠ [] := by
  cases value with
  | array items =>
      cases iterated
      intro same
      rcases same with rfl
      cases given
  | object fields =>
      cases iterated
      cases fields with
      | nil => cases given
      | cons entry rest =>
          rw [List.map_cons, List.eraseDups_cons]
          exact List.cons_ne_nil _ _
  | string text =>
      cases iterated
      cases text with
      | nil => cases given
      | cons point rest => exact List.cons_ne_nil _ _
  | null | bool | integer | real | infinite => cases iterated

end Json

end PyRuntime
