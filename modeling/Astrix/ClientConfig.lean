import Astrix.ConfigFields
import Astrix.ScriptKeys

/-!
# The client's configuration

`load_client_config` and the two commands of the shell that write the loaded
configuration to a file. The loader is characterised by what each field of the
result is read from; the theorems about loaded configurations start there.
-/

namespace Astrix

open PyRuntime

set_option autoImplicit false

/-- Hosts are any JSON value of the file, and `relay_urls` too; `Value` is what the
ids and accounts of the script keys are. -/
structure ClientConfig (Value : Type) where
  socksHost : Json
  socksPort : Int
  socksUser : Text
  socksPass : Text
  googleHost : Json
  sniHosts : List Text
  scriptKeys : List (ScriptKeyEntry Value)
  tunnelKey : Text
  relayUrls : Json
  debugTiming : Bool
  coalesceStepMs : Int
  idleSlotsPerBucket : Int

def defaultSni : List Text := [literal "www.google.com"]

/-- `_parse_sni`. -/
def parseSni (raw : Json) : Except LoadError (List Text) :=
  if raw.truthy then
    match raw with
    | .string host => .ok (if strip host ≠ [] then [strip host] else defaultSni)
    | .array items => do
        let stripped ← items.mapM Json.stripped
        let hosts := stripped.filter fun host => host ≠ []
        .ok (if hosts ≠ [] then hosts else defaultSni)
    | _ => .ok defaultSni
  else .ok defaultSni

/-- `script_keys`, which only a configuration with `relay_urls` may leave out. -/
def readScriptKeys (data relayUrls : Json) : Except LoadError (List (ScriptKeyEntry Text)) :=
  if relayUrls.truthy then .ok []
  else do
    let raw ← data.get (literal "script_keys") (.array [])
    failIf (raw.truthy = false) (.valueError (literal "script_keys is empty"))
    parseScriptKeys raw

/-- `idle_slots_per_bucket`; zero stands for the default. -/
def readSlots (data : Json) : Except LoadError Int := do
  let raw ← data.get (literal "idle_slots_per_bucket") (.integer 2)
  let slots ← raw.toInt
  failIf (slots < 0 ∨ slots > 3) (.valueError (literal "idle_slots_per_bucket must be 0-3"))
  .ok (if slots > 0 then slots else 2)

def clientPlaceholder : String := "REPLACE_WITH_64_HEX_CHARACTER_RANDOM_KEY"

def readClientConfig (data : Json) : Except LoadError (ClientConfig Text) := do
  let socksHost ← data.get (literal "socks_host") (.string (literal "127.0.0.1"))
  let socksPort ← readPort data "socks_port" 1080
  let socksUser ← readStripped data "socks_user"
  let socksPass ← readStripped data "socks_pass"
  failIf (¬ (socksUser = [] ↔ socksPass = []))
    (.valueError (literal "socks_user and socks_pass must both be set or both empty"))
  let googleHost ← data.get (literal "google_host") (.string (literal "216.239.38.120"))
  let sni ← data.get (literal "sni") .null
  let sniHosts ← parseSni sni
  let relayUrls ← data.get (literal "relay_urls") (.array [])
  let scriptKeys ← readScriptKeys data relayUrls
  let tunnelKey ← readTunnelKey data clientPlaceholder "openssl rand -hex 32"
  let debugTiming ← data.get (literal "debug_timing") (.bool false)
  let coalesceStepMs ← readCount data "coalesce_step_ms"
  let idleSlotsPerBucket ← readSlots data
  .ok {
    socksHost := socksHost
    socksPort := socksPort
    socksUser := socksUser
    socksPass := socksPass
    googleHost := googleHost
    sniHosts := sniHosts
    scriptKeys := scriptKeys
    tunnelKey := tunnelKey
    relayUrls := relayUrls
    debugTiming := debugTiming.truthy
    coalesceStepMs := coalesceStepMs
    idleSlotsPerBucket := idleSlotsPerBucket }

/-- `load_client_config`. -/
def loadClientConfig (files : Files) (path : Text) : Except LoadError (ClientConfig Text) := do
  let data ← readFile files path "client_config.example.json"
  readClientConfig data

/-- What `_save_config` and `_export_config` write. -/
def ClientConfig.saved (config : ClientConfig Text) : List (Text × Json) :=
  [(literal "debug_timing", .bool config.debugTiming),
    (literal "socks_host", config.socksHost),
    (literal "socks_port", .integer config.socksPort),
    (literal "socks_user", .string config.socksUser),
    (literal "socks_pass", .string config.socksPass),
    (literal "google_host", config.googleHost),
    (literal "sni", .array (config.sniHosts.map .string)),
    (literal "script_keys", .array (config.scriptKeys.map savedScriptKey)),
    (literal "tunnel_key", .string config.tunnelKey),
    (literal "coalesce_step_ms", .integer config.coalesceStepMs),
    (literal "idle_slots_per_bucket", .integer config.idleSlotsPerBucket)]

/-- The part of the shell that loading and saving use. -/
structure ClientShell where
  config : Option (ClientConfig Text)
  configPath : Text
  files : Files

namespace ClientShell

/-- `_load_config` with the path from the prompt; an exception is shown. -/
def loadConfig (shell : ClientShell) (path : Text) : ClientShell :=
  match loadClientConfig shell.files path with
  | .ok config => { shell with config := some config, configPath := path }
  | .error _ => shell

/-- `_save_config` with the path from the prompt. -/
def saveConfig (shell : ClientShell) (path : Text) : ClientShell :=
  match shell.config with
  | some config =>
      { shell with files := shell.files.write path (.object config.saved), configPath := path }
  | none => shell

/-- `_export_config`. -/
def exportConfig (shell : ClientShell) (path : Text) : ClientShell :=
  match shell.config with
  | some config => { shell with files := shell.files.write path (.object config.saved) }
  | none => shell

end ClientShell

section Sni

variable {raw : Json} {hosts : List Text}

/-- A list of server names that the loader may come to. -/
structure SniList (hosts : List Text) : Prop where
  some : hosts ≠ []
  trimmed : ∀ host ∈ hosts, strip host = host ∧ host ≠ []

theorem sni_list_default : SniList defaultSni where
  some := List.cons_ne_nil _ _
  trimmed := by decide +kernel

theorem parse_sni_list (parsed : parseSni raw = .ok hosts) : SniList hosts := by
  unfold parseSni at parsed
  split_ifs at parsed with given
  · split at parsed
    · next host =>
        cases parsed
        split_ifs with some
        · exact ⟨List.cons_ne_nil _ _, List.forall_mem_singleton.mpr ⟨strip_strip host, some⟩⟩
        · exact sni_list_default
    · next items =>
        obtain ⟨stripped, each, result⟩ := (bind_ok_iff _ _ _).mp parsed
        cases result
        split_ifs with some
        · refine ⟨some, fun host member => ?_⟩
          obtain ⟨inside, kept⟩ := List.mem_filter.mp member
          obtain ⟨item, _, isItem⟩ := map_m_ok_mem each host inside
          obtain ⟨raw, _, rfl⟩ := Json.stripped_ok_iff.mp isItem
          exact ⟨strip_strip raw, of_decide_eq_true kept⟩
        · exact sni_list_default
    · cases parsed
      exact sni_list_default
  · cases parsed
    exact sni_list_default

/-- Such a list is read as it was written. -/
theorem SniList.parse (list : SniList hosts) : parseSni (.array (hosts.map .string)) = .ok hosts := by
  have each : (hosts.map Json.string).mapM Json.stripped = .ok hosts := by
    rw [map_m_ok_iff, List.forall₂_map_left_iff, List.forall₂_same]
    intro host member
    exact Json.stripped_ok_iff.mpr ⟨host, rfl, (list.trimmed host member).1⟩
  have kept : (hosts.filter fun host => host ≠ []) = hosts := by
    rw [List.filter_eq_self]
    intro host member
    exact decide_eq_true (list.trimmed host member).2
  have given : (Json.array (hosts.map .string)).truthy = true := by
    rw [Json.truthy, List.isEmpty_map, Bool.not_eq_true', List.isEmpty_eq_false_iff]
    exact list.some
  rw [parseSni, if_pos given]
  refine (bind_ok_iff _ _ _).mpr ⟨hosts, each, ?_⟩
  dsimp only
  rw [kept, if_pos list.some]

end Sni

/-- What each field of a loaded configuration is read from. -/
structure LoadedClient (fields : List (Text × Json)) (config : ClientConfig Text) : Prop where
  socksHost : config.socksHost = field fields "socks_host" (.string (literal "127.0.0.1"))
  socksPort : (field fields "socks_port" (.integer 1080)).toInt = .ok config.socksPort
  portRange : 1 ≤ config.socksPort ∧ config.socksPort ≤ 65535
  socksUser : ∃ raw, field fields "socks_user" (.string []) = .string raw ∧
    strip raw = config.socksUser
  socksPass : ∃ raw, field fields "socks_pass" (.string []) = .string raw ∧
    strip raw = config.socksPass
  credentials : config.socksUser = [] ↔ config.socksPass = []
  googleHost : config.googleHost = field fields "google_host" (.string (literal "216.239.38.120"))
  sniHosts : parseSni (field fields "sni" .null) = .ok config.sniHosts
  relayUrls : config.relayUrls = field fields "relay_urls" (.array [])
  scriptKeys : if config.relayUrls.truthy then config.scriptKeys = []
    else (field fields "script_keys" (.array [])).truthy = true ∧
      parseScriptKeys (field fields "script_keys" (.array [])) = .ok config.scriptKeys
  tunnelKey : ∃ raw, field fields "tunnel_key" (.string []) = .string raw ∧
    strip raw = config.tunnelKey
  keyLoaded : LoadedKey clientPlaceholder config.tunnelKey
  debugTiming : config.debugTiming = (field fields "debug_timing" (.bool false)).truthy
  coalesce : (field fields "coalesce_step_ms" (.integer 0)).toInt = .ok config.coalesceStepMs
  coalesceRange : 0 ≤ config.coalesceStepMs
  slots : ∃ raw, (field fields "idle_slots_per_bucket" (.integer 2)).toInt = .ok raw ∧
    0 ≤ raw ∧ raw ≤ 3 ∧ config.idleSlotsPerBucket = if raw > 0 then raw else 2

section Loader

variable {fields : List (Text × Json)} {config : ClientConfig Text}

theorem read_script_keys_iff {relayUrls : Json} {keys : List (ScriptKeyEntry Text)} :
    readScriptKeys (.object fields) relayUrls = .ok keys ↔
      if relayUrls.truthy then keys = []
      else (field fields "script_keys" (.array [])).truthy = true ∧
        parseScriptKeys (field fields "script_keys" (.array [])) = .ok keys := by
  unfold readScriptKeys
  split_ifs with relays
  · rw [Except.ok.injEq, eq_comm]
  · rw [Json.get_object, bind_ok_iff]
    simp only [Except.ok.injEq, exists_eq_left', bind_ok_iff, fail_if_ok_iff, exists_const,
      Bool.not_eq_false]
    rfl

theorem read_slots_iff {slots : Int} :
    readSlots (.object fields) = .ok slots ↔
      ∃ raw, (field fields "idle_slots_per_bucket" (.integer 2)).toInt = .ok raw ∧
        0 ≤ raw ∧ raw ≤ 3 ∧ slots = if raw > 0 then raw else 2 := by
  rw [readSlots, Json.get_object, bind_ok_iff]
  simp only [Except.ok.injEq, exists_eq_left', bind_ok_iff, fail_if_ok_iff, exists_const, not_or,
    Int.not_lt, and_assoc]
  constructor
  · intro given
    rcases given with ⟨raw, read, low, high, same⟩
    exact ⟨raw, read, low, high, same.symm⟩
  · intro given
    rcases given with ⟨raw, read, low, high, same⟩
    exact ⟨raw, read, low, high, same.symm⟩

theorem read_client_iff :
    readClientConfig (.object fields) = .ok config ↔ LoadedClient fields config := by
  unfold readClientConfig
  simp only [Json.get_object, bind_ok_iff, Except.ok.injEq, exists_eq_left', read_port_iff,
    read_stripped_iff, fail_if_ok_iff, exists_const, not_not, read_script_keys_iff,
    read_tunnel_key_iff, read_count_iff, read_slots_iff]
  constructor
  · intro given
    rcases given with ⟨port, ⟨readPort, portRange⟩, user, readUser, pass, readPass, credentials,
      hosts, readHosts, keys, readKeys, key, ⟨readKey, keyLoaded⟩, step, ⟨readStep, stepRange⟩,
        slots, readSlots, rfl⟩
    exact {
      socksHost := rfl, socksPort := readPort, portRange := portRange, socksUser := readUser
      socksPass := readPass, credentials := credentials, googleHost := rfl, sniHosts := readHosts
      relayUrls := rfl, scriptKeys := readKeys, tunnelKey := readKey, keyLoaded := keyLoaded
      debugTiming := rfl, coalesce := readStep, coalesceRange := stepRange, slots := readSlots }
  · intro loaded
    obtain ⟨socksHost, socksPort, socksUser, socksPass, googleHost, sniHosts, scriptKeys, tunnelKey,
      relayUrls, debugTiming, coalesceStepMs, idleSlots⟩ := config
    obtain ⟨rfl, readPort, portRange, readUser, readPass, credentials, rfl, readHosts, rfl, readKeys,
      readKey, keyLoaded, rfl, readStep, stepRange, readSlots⟩ := loaded
    exact ⟨_, ⟨readPort, portRange⟩, _, readUser, _, readPass, credentials, _, readHosts, _, readKeys,
      _, ⟨readKey, keyLoaded⟩, _, ⟨readStep, stepRange⟩, _, readSlots, rfl⟩

theorem load_client_iff {files : Files} {path : Text} {data : Json}
    (present : files path = some data) :
    loadClientConfig files path = .ok config ↔ readClientConfig data = .ok config := by
  rw [loadClientConfig, readFile, present]
  rfl

end Loader

end Astrix
