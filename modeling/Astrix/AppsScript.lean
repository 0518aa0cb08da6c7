import Mathlib.Data.Nat.Find
import Astrix.ExitServer
import Astrix.Library.DecimalText
import Astrix.Library.UrlSplit

/-!
# The Apps Script relay

`doPost` hands the body of a request to the relays one after the other and
answers with the text of the first that has status 200, else with a text about
the last one. What `UrlFetchApp.fetch` does is a choice of the environment. The
answer of `doPost` itself always has status 200.
-/

namespace Astrix

open PyRuntime

set_option autoImplicit false

/-- `GAS_RELAY_LOOP_RE_.test`. The pattern has only ASCII characters, and in a
match without case no other character is one of them. -/
def isRelayLoop (url : Text) : Bool :=
  (literal "http://script.google.com/macros/").isPrefixOf (url.map asciiLower) ||
    (literal "https://script.google.com/macros/").isPrefixOf (url.map asciiLower)

def relayLoopDetected : Text :=
  literal ("relay_loop_detected: RELAY_URLS must point to your VPS /tunnel endpoint, " ++
    "not Apps Script")

section Json

/-- The UTF-16 code units of a character. -/
def codeUnits (point : CodePoint) : List Nat :=
  if point.val < 0x10000 then [point.val]
  else [0xd800 + (point.val - 0x10000) / 0x400, 0xdc00 + (point.val - 0x10000) % 0x400]

def hexDigits (width unit : Nat) : Text :=
  let digits := Nat.toDigits 16 unit
  charsText (List.replicate (width - digits.length) '0' ++ digits)

def isSurrogateUnit (first unit : Nat) : Bool := first ≤ unit && unit < first + 0x400

/-- A code unit as `JSON.stringify` writes it when it does not pair with another. -/
def jsonUnit (unit : Nat) : Text :=
  if unit = 0x22 ∨ unit = 0x5c then [92, Fin.ofNat 0x110000 unit]
  else if unit = 8 then literal "\\b"
  else if unit = 12 then literal "\\f"
  else if unit = 10 then literal "\\n"
  else if unit = 13 then literal "\\r"
  else if unit = 9 then literal "\\t"
  else if unit < 0x20 ∨ isSurrogateUnit 0xd800 unit ∨ isSurrogateUnit 0xdc00 unit then
    literal "\\u" ++ hexDigits 4 unit
  else [Fin.ofNat 0x110000 unit]

def jsonUnits : List Nat → Text
  | [] => []
  | [unit] => jsonUnit unit
  | unit :: next :: rest =>
      if isSurrogateUnit 0xd800 unit && isSurrogateUnit 0xdc00 next then
        Fin.ofNat 0x110000 (0x10000 + (unit - 0xd800) * 0x400 + (next - 0xdc00)) :: jsonUnits rest
      else jsonUnit unit ++ jsonUnits (next :: rest)

end Json

/-- What is answered of a relay with another status than 200: the status, and the
first 1024 code units of its text. -/
def upstreamStatus (status : Nat) (text : Text) : Text :=
  literal "\x7b\"e\":\"upstream_status\",\"status\":" ++ decimalText status ++
    literal ",\"body\":\"" ++ jsonUnits ((text.flatMap codeUnits).take 1024) ++
      literal "\"\x7d"

/-- What a fetch gives: a response, or an exception with its text. -/
inductive Fetched where
  | response (status : Nat) (text : Text)
  | raised (message : Text)
  deriving DecidableEq, Repr

/-- The text that a fetch leaves in `lastText`. -/
def Fetched.lastText : Fetched → Text
  | .response status text => if status = 200 then text else upstreamStatus status text
  | .raised message => message

def Fetched.succeeds : Fetched → Bool
  | .response status _ => status == 200
  | .raised _ => false

/-- The answer of `doPost` with the fetches it made. -/
structure Relayed where
  text : Text
  fetched : List (Text × Text)
  deriving DecidableEq, Repr

/-- The loop over the relays; `fetch i` is what the fetch of relay `i` gives. -/
def tryRelays (payload : Text) (fetch : Nat → Fetched) : Nat → Text → List Text → Relayed
  | _, lastText, [] => ⟨lastText, []⟩
  | i, _, url :: rest =>
      if (fetch i).succeeds then ⟨(fetch i).lastText, [(url, payload)]⟩
      else
        let later := tryRelays payload fetch (i + 1) (fetch i).lastText rest
        { later with fetched := (url, payload) :: later.fetched }

/-- `doPost`; `contents` is `e.postData.contents` where there is one. -/
def doPost (relayUrls : List Text) (contents : Option Text) (fetch : Nat → Fetched) : Relayed :=
  if relayUrls.any isRelayLoop then ⟨relayLoopDetected, []⟩
  else tryRelays (contents.getD []) fetch 0 [] relayUrls

section Relays

variable {payload lastText : Text} {fetch : Nat → Fetched} {i : Nat} {urls : List Text}

/-- All relays fail. -/
theorem try_relays_fail (fails : ∀ k < urls.length, (fetch (i + k)).succeeds = false) :
    tryRelays payload fetch i lastText urls =
      ⟨((List.range urls.length).map fun k => (fetch (i + k)).lastText).getLastD lastText,
        urls.map fun url => (url, payload)⟩ := by
  induction urls generalizing i lastText with
  | nil => rfl
  | cons url rest ih =>
      have first := fails 0 (Nat.succ_pos _)
      rw [Nat.add_zero] at first
      have later : ∀ k < rest.length, (fetch (i + 1 + k)).succeeds = false := by
        intro k inside
        rw [Nat.add_assoc, Nat.add_comm 1 k]
        exact fails (k + 1) (Nat.succ_lt_succ inside)
      rw [tryRelays, first, if_neg (by decide), ih later, List.length_cons, List.range_succ_eq_map]
      have shift : ∀ k, (fetch (i + 1 + k)).lastText = (fetch (i + (k + 1))).lastText := by
        intro k
        rw [Nat.add_assoc, Nat.add_comm 1 k]
      simp only [List.map_cons, List.map_map, Nat.add_zero, List.getLastD_cons]
      congr 2
      apply List.map_congr_left
      intro k _
      exact shift k

/-- Relay `k` is the first to succeed. -/
theorem try_relays_succeed {k : Nat} (inside : k < urls.length)
    (fails : ∀ j < k, (fetch (i + j)).succeeds = false)
    (succeeds : (fetch (i + k)).succeeds = true) :
    tryRelays payload fetch i lastText urls =
      ⟨(fetch (i + k)).lastText, (urls.take (k + 1)).map fun url => (url, payload)⟩ := by
  induction urls generalizing i lastText k with
  | nil => exact absurd inside (Nat.not_lt_zero k)
  | cons url rest ih =>
      cases k with
      | zero =>
          rw [Nat.add_zero] at succeeds
          rw [tryRelays, if_pos succeeds]
          rfl
      | succ k =>
          have first := fails 0 (Nat.succ_pos _)
          rw [Nat.add_zero] at first
          have shift : ∀ j, i + 1 + j = i + (j + 1) := by
            intro j
            omega
          rw [tryRelays, first, if_neg (by decide),
            ih (i := i + 1) (k := k) (Nat.lt_of_succ_lt_succ inside)]
          · rw [shift]
            rfl
          · intro j below
            rw [shift]
            exact fails (j + 1) (Nat.succ_lt_succ below)
          · rw [shift]
            exact succeeds

end Relays

/-- Relay `k` is the first whose fetch has status 200. -/
def FirstSuccess (fetch : Nat → Fetched) (k : Nat) : Prop :=
  (∀ j < k, (fetch j).succeeds = false) ∧ (fetch k).succeeds = true

/-- The relays are asked in their order, each once and with the payload as it came,
up to the first that succeeds, and its text is the answer; when none succeeds it is
the last one's text. A script that could call itself asks nobody. -/
theorem relays_tried_in_order (relayUrls : List Text) (contents : Option Text)
    (fetch : Nat → Fetched) :
    let sent := fun url => (url, contents.getD [])
    relayUrls.any isRelayLoop = true ∧ doPost relayUrls contents fetch = ⟨relayLoopDetected, []⟩ ∨
      relayUrls.any isRelayLoop = false ∧
        ((∃ k < relayUrls.length, FirstSuccess fetch k ∧
            doPost relayUrls contents fetch =
              ⟨(fetch k).lastText, (relayUrls.take (k + 1)).map sent⟩) ∨
          (∀ k < relayUrls.length, (fetch k).succeeds = false) ∧
            doPost relayUrls contents fetch =
              ⟨((List.range relayUrls.length).map fun k => (fetch k).lastText).getLastD [],
                relayUrls.map sent⟩) := by
  intro sent
  rw [doPost]
  cases loops : relayUrls.any isRelayLoop with
  | true => exact .inl ⟨rfl, rfl⟩
  | false =>
      refine .inr ⟨rfl, ?_⟩
      rw [if_neg (by decide)]
      by_cases some : ∃ k, k < relayUrls.length ∧ (fetch k).succeeds = true
      · have inside := Nat.find_spec some
        have first : ∀ j < Nat.find some, (fetch j).succeeds = false := by
          intro j below
          have bound := below.trans inside.1
          exact Bool.eq_false_iff.mpr fun succeeds => Nat.find_min some below ⟨bound, succeeds⟩
        refine .inl ⟨Nat.find some, inside.1, ⟨first, inside.2⟩, ?_⟩
        have found := @try_relays_succeed (contents.getD []) [] fetch 0 relayUrls (Nat.find some)
          inside.1
        simp only [Nat.zero_add] at found
        exact found first inside.2
      · have fails : ∀ k < relayUrls.length, (fetch k).succeeds = false := by
          intro k bound
          exact Bool.eq_false_iff.mpr fun succeeds => some ⟨k, bound, succeeds⟩
        refine .inr ⟨fails, ?_⟩
        have none := @try_relays_fail (contents.getD []) [] fetch 0 relayUrls
        simp only [Nat.zero_add] at none
        exact none fails

end Astrix
