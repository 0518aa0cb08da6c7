import Astrix.Library.HexText
import Astrix.Library.JsonValue

/-!
# Fields of a configuration file

What `load_client_config` and `load_server_config` do alike: the file, the port,
the key of the tunnel and the counts. For each there is one lemma that says when
it is read and as what.
-/

namespace Astrix

open PyRuntime

set_option autoImplicit false

/-- The files that hold JSON, as the value in each. -/
abbrev Files := Text → Option Json

def Files.write (files : Files) (path : Text) (value : Json) : Files :=
  Function.update files path (some value)

@[simp] theorem files_write_same (files : Files) (path : Text) (value : Json) :
    files.write path value path = some value := Function.update_self ..

/-- `os.path.exists(path)` and `json.load`. -/
def readFile (files : Files) (path : Text) (template : String) : Except LoadError Json :=
  match files path with
  | some data => .ok data
  | none =>
      .error (.fileNotFoundError (literal "config file '" ++ path ++
        literal "' not found.\n  Fix: copy the example and edit it:\n      cp " ++
          literal template ++ literal " " ++ path))

/-- `data.get(name, default)` of an object. -/
def field (fields : List (Text × Json)) (name : String) (default : Json) : Json :=
  (lookup fields (literal name)).getD default

/-- `int(data.get(name, default))`, a port. -/
def readPort (data : Json) (name : String) (default : Int) : Except LoadError Int := do
  let raw ← data.get (literal name) (.integer default)
  let port ← raw.toInt
  failIf (¬ (1 ≤ port ∧ port ≤ 65535))
    (.valueError (literal name ++ literal " out of range: " ++ integerText port))
  .ok port

/-- `data.get(name, "").strip()`. -/
def readStripped (data : Json) (name : String) : Except LoadError Text := do
  let raw ← data.get (literal name) (.string [])
  raw.stripped

/-- The checks of `tunnel_key`; client and server differ in the placeholder and in
the hint. -/
def readTunnelKey (data : Json) (placeholder hint : String) : Except LoadError Text := do
  let rawKey ← readStripped data "tunnel_key"
  failIf (rawKey = [] ∨ rawKey = literal placeholder)
    (.valueError (literal "tunnel_key is empty or placeholder.\n  Fix: " ++ literal hint))
  failIf (rawKey.length ≠ 64)
    (.valueError (literal "tunnel_key must be 64 hex chars, got " ++ decimalText rawKey.length))
  failIf (fromHex rawKey = none) (.valueError (literal "tunnel_key contains non-hex characters"))
  .ok rawKey

/-- `int(data.get(name, 0))`, not negative. -/
def readCount (data : Json) (name : String) : Except LoadError Int := do
  let raw ← data.get (literal name) (.integer 0)
  let count ← raw.toInt
  failIf (count < 0) (.valueError (literal name ++ literal " must be >= 0"))
  .ok count

section Read

variable {fields : List (Text × Json)} {name : String}

theorem read_port_iff {default port : Int} :
    readPort (.object fields) name default = .ok port ↔
      (field fields name (.integer default)).toInt = .ok port ∧ 1 ≤ port ∧ port ≤ 65535 := by
  rw [readPort, Json.get_object, bind_ok_iff]
  simp only [Except.ok.injEq, exists_eq_left', bind_ok_iff, fail_if_ok_iff, exists_const, not_not]
  constructor
  · intro given
    rcases given with ⟨_, read, inRange, rfl⟩
    exact ⟨read, inRange⟩
  · intro given
    rcases given with ⟨read, inRange⟩
    exact ⟨port, read, inRange, rfl⟩

theorem read_stripped_iff {text : Text} :
    readStripped (.object fields) name = .ok text ↔
      ∃ raw, field fields name (.string []) = .string raw ∧ strip raw = text := by
  rw [readStripped, Json.get_object, bind_ok_iff]
  simp only [Except.ok.injEq, exists_eq_left', Json.stripped_ok_iff]
  rfl

/-- A key that the loader takes. It has the right length and is read as bytes, of
which there are fewer than half as many if there is white space in it. -/
structure LoadedKey (placeholder : String) (key : Text) : Prop where
  real : key ≠ literal placeholder
  long : key.length = 64
  read : ∃ bytes, fromHex key = some bytes

theorem read_tunnel_key_iff {placeholder hint : String} {key : Text} :
    readTunnelKey (.object fields) placeholder hint = .ok key ↔
      (∃ raw, field fields "tunnel_key" (.string []) = .string raw ∧ strip raw = key) ∧
        LoadedKey placeholder key := by
  rw [readTunnelKey, bind_ok_iff]
  simp only [read_stripped_iff, bind_ok_iff, fail_if_ok_iff, exists_const, not_not, not_or]
  constructor
  · intro given
    rcases given with ⟨_, given, ⟨_, real⟩, long, read, same⟩
    cases same
    exact ⟨given, real, long, Option.ne_none_iff_exists'.mp read⟩
  · intro given
    rcases given with ⟨given, real, long, read⟩
    refine ⟨key, given, ⟨?_, real⟩, long, Option.ne_none_iff_exists'.mpr read, rfl⟩
    intro same
    rcases same with rfl
    cases long

theorem read_count_iff {count : Int} :
    readCount (.object fields) name = .ok count ↔
      (field fields name (.integer 0)).toInt = .ok count ∧ 0 ≤ count := by
  rw [readCount, Json.get_object, bind_ok_iff]
  simp only [Except.ok.injEq, exists_eq_left', bind_ok_iff, fail_if_ok_iff, exists_const, Int.not_lt]
  constructor
  · intro given
    rcases given with ⟨_, read, nonneg, rfl⟩
    exact ⟨read, nonneg⟩
  · intro given
    rcases given with ⟨read, nonneg⟩
    exact ⟨count, read, nonneg, rfl⟩

end Read

section Keys

variable {placeholder : String} {key : Text} {bytes : Bytes}

/-- The key is one of sixty-four digits. -/
def HexKey (key : Text) : Prop := key.length = 64 ∧ ∀ point ∈ key, isHexDigit point = true

/-- No white space is within the key. -/
def Solid (key : Text) : Prop := ∀ point ∈ key, isAsciiSpace point = false

instance solidDecidable (key : Text) : Decidable (Solid key) :=
  decidable_of_iff (key.any isAsciiSpace = false) (by rw [List.any_eq_false]; simp [Solid])

theorem LoadedKey.bytes_iff (loaded : LoadedKey placeholder key) (read : fromHex key = some bytes) :
    bytes.length = 32 ↔ Solid key := by
  have long := loaded.long
  rw [Solid, ← from_hex_solid_iff read]
  omega

/-- A loaded key is of hexadecimal digits where it has no white space. -/
theorem LoadedKey.hex_iff (loaded : LoadedKey placeholder key) : HexKey key ↔ Solid key := by
  obtain ⟨bytes, read⟩ := loaded.read
  constructor
  · intro hex point member
    exact hex_digit_solid (hex.2 point member)
  · intro solid
    refine ⟨loaded.long, fun point member => ?_⟩
    rcases from_hex_digits read point member with digit | space
    · exact digit
    · rw [solid point member] at space
      cases space

end Keys

end Astrix
