import Astrix.RunnableConfigs

/-!
# Environment variables over a loaded configuration

`apply_env_overrides` of client and server. It replaces fields that the loader
has checked by what the variables hold, and checks little itself. The decoding
of a JSON text and the lower case of a text are given from outside.
-/

namespace Astrix

open PyRuntime

set_option autoImplicit false

/-- `os.environ.get`. -/
abbrev Environ := String → Option Text

/-- The value that passes `if value:`. -/
def Environ.given (env : Environ) (name : String) : Option Text :=
  (env name).filter fun text => text ≠ []

/-- `json.loads` and `str.lower`. -/
structure TextRules where
  loads : Text → Except LoadError Json
  lower : Text → Text

/-- `int(value)` where there is one. -/
def overrideInt (given : Option Text) (current : Int) : Except LoadError Int :=
  match given with
  | none => .ok current
  | some text =>
      match parseInt text with
      | some number => .ok number
      | none => .error .invalidLiteral

/-- `max(0, min(3, int(value)))` where there is one. -/
def overrideSlots (given : Option Text) (current : Int) : Except LoadError Int :=
  match given with
  | none => .ok current
  | some text =>
      match parseInt text with
      | some number => .ok (max 0 (min 3 number))
      | none => .error .invalidLiteral

/-- `[part.strip() for part in text.split(",") if part.strip()]`. -/
def commaParts (text : Text) : List Text :=
  ((text.splitOn 44).map strip).filter fun part => part ≠ []

/-- An item that is neither a text nor an object is passed over. -/
def listedEntry : Json → Option (ScriptKeyEntry Json)
  | .string id => some { id := .string id, account := .string [] }
  | .object fields =>
      some {
        id := (lookup fields (literal "id")).getD (.string [])
        account := (lookup fields (literal "account")).getD (.string []) }
  | _ => none

def plainEntry (id : Text) : ScriptKeyEntry Json where
  id := .string id
  account := .string []

def ScriptKeyEntry.toJson (entry : ScriptKeyEntry Text) : ScriptKeyEntry Json where
  id := .string entry.id
  account := .string entry.account

/-- The script keys as JSON, or separated by commas if they are none. -/
def overrideKeys (rules : TextRules) (given : Option Text)
    (current : List (ScriptKeyEntry Text)) : Except LoadError (List (ScriptKeyEntry Json)) :=
  match given with
  | none => .ok (current.map ScriptKeyEntry.toJson)
  | some text =>
      match rules.loads text with
      | .ok parsed => do
          let items ← parsed.iterate
          .ok (items.filterMap listedEntry)
      | .error .jsonDecodeError => .ok ((commaParts text).map plainEntry)
      | .error error => .error error

/-- `value.lower() in ("1", "true", "yes")`. -/
def isYes (rules : TextRules) (value : Text) : Bool :=
  [literal "1", literal "true", literal "yes"].contains (rules.lower value)

/-- `apply_env_overrides` of the client. -/
def applyClientEnv (rules : TextRules) (env : Environ) (cfg : ClientConfig Text) :
    Except LoadError (ClientConfig Json) := do
  let socksPort ← overrideInt (env.given "ASTRIX_SOCKS_PORT") cfg.socksPort
  let scriptKeys ← overrideKeys rules (env.given "ASTRIX_SCRIPT_KEYS") cfg.scriptKeys
  let coalesce ← overrideInt (env.given "ASTRIX_COALESCE_STEP_MS") cfg.coalesceStepMs
  let idleSlots ← overrideSlots (env.given "ASTRIX_IDLE_SLOTS") cfg.idleSlotsPerBucket
  .ok {
    socksHost := ((env.given "ASTRIX_SOCKS_HOST").map Json.string).getD cfg.socksHost
    socksPort := socksPort
    socksUser := (env "ASTRIX_SOCKS_USER").getD cfg.socksUser
    socksPass := (env "ASTRIX_SOCKS_PASS").getD cfg.socksPass
    googleHost := ((env.given "ASTRIX_GOOGLE_HOST").map Json.string).getD cfg.googleHost
    sniHosts := ((env.given "ASTRIX_SNI").map commaParts).getD cfg.sniHosts
    scriptKeys := scriptKeys
    tunnelKey := ((env.given "ASTRIX_TUNNEL_KEY").map strip).getD cfg.tunnelKey
    relayUrls := cfg.relayUrls
    debugTiming := ((env "ASTRIX_DEBUG_TIMING").map (isYes rules)).getD cfg.debugTiming
    coalesceStepMs := coalesce
    idleSlotsPerBucket := idleSlots }

/-- `apply_env_overrides` of the server. -/
def applyServerEnv (rules : TextRules) (env : Environ) (cfg : ServerConfig) :
    Except LoadError ServerConfig := do
  let serverPort ← overrideInt (env.given "ASTRIX_SERVER_PORT") cfg.serverPort
  .ok {
    cfg with
    serverHost := ((env.given "ASTRIX_SERVER_HOST").map Json.string).getD cfg.serverHost
    serverPort := serverPort
    tunnelKey := ((env.given "ASTRIX_TUNNEL_KEY").map strip).getD cfg.tunnelKey
    upstreamProxy := ((env "ASTRIX_UPSTREAM_PROXY").map strip).getD cfg.upstreamProxy
    debugTiming := ((env "ASTRIX_DEBUG_TIMING").map (isYes rules)).getD cfg.debugTiming }

/-- Texts that are normalised, valid and distinct. -/
def ValidIds (ids : List Json) : Prop :=
  ∃ texts : List Text, ids = texts.map .string ∧ texts.Nodup ∧
    ∀ id ∈ texts, normalizeDeploymentId id = id ∧
      ∀ index, validateDeploymentId id index = .ok ()

/-- What the client's loader enforces. -/
structure EnforcedClient (config : ClientConfig Json) : Prop where
  port : 1 ≤ config.socksPort ∧ config.socksPort ≤ 65535
  credentials : config.socksUser = [] ↔ config.socksPass = []
  sni : config.sniHosts ≠ []
  ids : ValidIds (config.scriptKeys.map ScriptKeyEntry.id)
  key : HexKey config.tunnelKey
  coalesce : 0 ≤ config.coalesceStepMs

/-- What the server's loader enforces. -/
structure EnforcedServer (config : ServerConfig) : Prop where
  port : 1 ≤ config.serverPort ∧ config.serverPort ≤ 65535
  key : HexKey config.tunnelKey
  proxy : config.upstreamProxy = [] ∨ HostPort config.upstreamProxy

/-- No number. -/
def Unreadable (given : Option Text) : Prop := ∃ text, given = some text ∧ parseInt text = none

/-- A number, if anything, and it is in the range. -/
def InRange (given : Option Text) (range : Int → Prop) : Prop :=
  ∀ text number, given = some text → parseInt text = some number → range number

/-- The items of a JSON text, if it has items. -/
def jsonItems (rules : TextRules) (text : Text) : Except LoadError (List Json) := do
  let parsed ← rules.loads text
  parsed.iterate

/-- A JSON text without items, such as a number. -/
def UnreadableKeys (rules : TextRules) (given : Option Text) : Prop :=
  ∃ text error, given = some text ∧ jsonItems rules text = .error error ∧
    rules.loads text ≠ .error .jsonDecodeError

/-- Distinct ids of the right start and length, without slashes and white space. -/
def CanonicalIds (ids : List Json) : Prop :=
  ∃ texts : List Text, ids = texts.map .string ∧ texts.Nodup ∧ ∀ id ∈ texts, Canonical id

/-- The id of an item as it stands. -/
def listedId (item : Json) : Option Json := (listedEntry item).map ScriptKeyEntry.id

/-- The ids that a variable lists are canonical as they stand. -/
def KeysFit (rules : TextRules) (given : Option Text) : Prop :=
  ∀ text, given = some text →
    (∀ items, jsonItems rules text = .ok items → CanonicalIds (items.filterMap listedId)) ∧
      (rules.loads text = .error .jsonDecodeError →
        CanonicalIds ((commaParts text).map .string))

/-- The key of the variable, or else the loaded one, has digits only. -/
def KeyFits (given : Option Text) (current : Text) : Prop :=
  match given with
  | some text => HexKey (strip text)
  | none => Solid current

/-- A variable of the client that is refused. -/
def ClientEnvRaises (rules : TextRules) (env : Environ) : Prop :=
  Unreadable (env.given "ASTRIX_SOCKS_PORT") ∨ UnreadableKeys rules (env.given "ASTRIX_SCRIPT_KEYS") ∨
    Unreadable (env.given "ASTRIX_COALESCE_STEP_MS") ∨ Unreadable (env.given "ASTRIX_IDLE_SLOTS")

/-- Variables of the client that hold what the loader would take. -/
structure ClientEnvFits (rules : TextRules) (env : Environ) (config : ClientConfig Text) : Prop where
  port : InRange (env.given "ASTRIX_SOCKS_PORT") fun port => 1 ≤ port ∧ port ≤ 65535
  credentials : (env "ASTRIX_SOCKS_USER").getD config.socksUser = [] ↔
    (env "ASTRIX_SOCKS_PASS").getD config.socksPass = []
  sni : ∀ text, env.given "ASTRIX_SNI" = some text → commaParts text ≠ []
  keys : KeysFit rules (env.given "ASTRIX_SCRIPT_KEYS")
  key : KeyFits (env.given "ASTRIX_TUNNEL_KEY") config.tunnelKey
  coalesce : InRange (env.given "ASTRIX_COALESCE_STEP_MS") fun step => 0 ≤ step

/-- Variables of the server that hold what the loader would keep. -/
structure ServerEnvFits (env : Environ) (config : ServerConfig) : Prop where
  port : InRange (env.given "ASTRIX_SERVER_PORT") fun port => 1 ≤ port ∧ port ≤ 65535
  key : KeyFits (env.given "ASTRIX_TUNNEL_KEY") config.tunnelKey
  proxy : ∀ text, env "ASTRIX_UPSTREAM_PROXY" = some text → strip text = [] ∨ HostPort (strip text)

section Fields

variable {given : Option Text} {current result : Int} {rules : TextRules}

theorem override_int_ok_iff :
    (∃ result, overrideInt given current = .ok result) ↔ ¬ Unreadable given := by
  cases given with
  | none => simp [overrideInt, Unreadable]
  | some text => cases read : parseInt text <;> simp [overrideInt, Unreadable, read]

theorem override_slots_ok_iff :
    (∃ result, overrideSlots given current = .ok result) ↔ ¬ Unreadable given := by
  cases given with
  | none => simp [overrideSlots, Unreadable]
  | some text => cases read : parseInt text <;> simp [overrideSlots, Unreadable, read]

/-- A number from a variable is in range if it was so there. -/
theorem override_int_range (range : Int → Prop)
    (overridden : overrideInt given current = .ok result) (loaded : range current) :
    range result ↔ InRange given range := by
  cases given with
  | none =>
      cases overridden
      simp [InRange, loaded]
  | some text =>
      rw [overrideInt] at overridden
      cases read : parseInt text with
      | none =>
          rw [read] at overridden
          cases overridden
      | some number =>
          rw [read] at overridden
          cases overridden
          constructor
          · intro holds other value same isValue
            cases same
            rw [read] at isValue
            cases isValue
            exact holds
          · intro inRange
            exact inRange text _ rfl read

theorem valid_ids_iff {ids : List Json} : ValidIds ids ↔ CanonicalIds ids := by
  simp only [ValidIds, CanonicalIds, canonical_iff]

variable {loadedKeys : List (ScriptKeyEntry Text)}

theorem override_keys_ok_iff :
    (∃ result, overrideKeys rules given loadedKeys = .ok result) ↔ ¬ UnreadableKeys rules given := by
  cases given with
  | none => simp [overrideKeys, UnreadableKeys]
  | some text =>
      cases read : rules.loads text with
      | ok parsed =>
          cases items : parsed.iterate <;>
            simp [overrideKeys, UnreadableKeys, jsonItems, read, items, bind, Except.bind]
      | error error =>
          cases error <;> simp [overrideKeys, UnreadableKeys, jsonItems, read, bind, Except.bind]

theorem loaded_ids_canonical (kept : KeptKeys [] loadedKeys) :
    CanonicalIds ((loadedKeys.map ScriptKeyEntry.toJson).map ScriptKeyEntry.id) := by
  refine ⟨loadedKeys.map ScriptKeyEntry.id, ?_, kept.distinct, ?_⟩
  · rw [List.map_map, List.map_map]
    rfl
  · exact List.forall_mem_map.mpr kept.canonical

theorem listed_ids (items : List Json) :
    (items.filterMap listedEntry).map ScriptKeyEntry.id = items.filterMap listedId := by
  rw [List.map_filterMap]
  rfl

/-- The script keys are canonical if those of the variable are. -/
theorem override_keys_canonical {keys : List (ScriptKeyEntry Json)}
    (overridden : overrideKeys rules given loadedKeys = .ok keys) (kept : KeptKeys [] loadedKeys) :
    CanonicalIds (keys.map ScriptKeyEntry.id) ↔ KeysFit rules given := by
  cases given with
  | none =>
      cases overridden
      constructor
      · intro _ text none
        cases none
      · intro _
        exact loaded_ids_canonical kept
  | some text =>
      simp only [overrideKeys] at overridden
      simp only [KeysFit, Option.some.injEq, forall_eq', jsonItems]
      cases read : rules.loads text with
      | ok parsed =>
          rw [read] at overridden
          obtain ⟨items, iterated, same⟩ := (bind_ok_iff _ _ _).mp overridden
          cases same
          simp [bind, Except.bind, iterated, listed_ids]
      | error error =>
          rw [read] at overridden
          cases error with
          | jsonDecodeError =>
              cases overridden
              rw [List.map_map]
              simp [bind, Except.bind]
              rfl
          | _ => cases overridden

theorem override_key_hex {placeholder : String} {key : Text} (loaded : LoadedKey placeholder key) :
    HexKey ((given.map strip).getD key) ↔ KeyFits given key := by
  cases given with
  | none => exact loaded.hex_iff
  | some text => exact Iff.rfl

end Fields

section Client

variable {rules : TextRules} {env : Environ} {fields : List (Text × Json)}
  {config : ClientConfig Text} {result : ClientConfig Json}

/-- What the overrides return, and that none of the variables was refused. -/
theorem client_env_cases (applied : applyClientEnv rules env config = .ok result) :
    ¬ ClientEnvRaises rules env ∧
      overrideInt (env.given "ASTRIX_SOCKS_PORT") config.socksPort = .ok result.socksPort ∧
      overrideKeys rules (env.given "ASTRIX_SCRIPT_KEYS") config.scriptKeys =
        .ok result.scriptKeys ∧
      overrideInt (env.given "ASTRIX_COALESCE_STEP_MS") config.coalesceStepMs =
        .ok result.coalesceStepMs ∧
      result.socksUser = (env "ASTRIX_SOCKS_USER").getD config.socksUser ∧
      result.socksPass = (env "ASTRIX_SOCKS_PASS").getD config.socksPass ∧
      result.sniHosts = ((env.given "ASTRIX_SNI").map commaParts).getD config.sniHosts ∧
      result.tunnelKey = ((env.given "ASTRIX_TUNNEL_KEY").map strip).getD config.tunnelKey := by
  simp only [applyClientEnv, bind_ok_iff] at applied
  obtain ⟨port, isPort, keys, isKeys, coalesce, isCoalesce, slots, isSlots, same⟩ := applied
  cases same
  have readPort := override_int_ok_iff.mp ⟨port, isPort⟩
  have readKeys := override_keys_ok_iff.mp ⟨keys, isKeys⟩
  have readCoalesce := override_int_ok_iff.mp ⟨coalesce, isCoalesce⟩
  have readSlots := override_slots_ok_iff.mp ⟨slots, isSlots⟩
  refine ⟨?_, isPort, isKeys, isCoalesce, rfl, rfl, rfl, rfl⟩
  intro given
  rcases given with unread | unread | unread | unread
  · exact readPort unread
  · exact readKeys unread
  · exact readCoalesce unread
  · exact readSlots unread

theorem client_env_returns (accepted : ¬ ClientEnvRaises rules env) :
    ∃ result, applyClientEnv rules env config = .ok result := by
  simp only [ClientEnvRaises, not_or] at accepted
  obtain ⟨readPort, readKeys, readCoalesce, readSlots⟩ := accepted
  obtain ⟨port, isPort⟩ := (@override_int_ok_iff _ config.socksPort).mpr readPort
  obtain ⟨keys, isKeys⟩ := (@override_keys_ok_iff _ _ config.scriptKeys).mpr readKeys
  obtain ⟨coalesce, isCoalesce⟩ := (@override_int_ok_iff _ config.coalesceStepMs).mpr readCoalesce
  obtain ⟨slots, isSlots⟩ := (@override_slots_ok_iff _ config.idleSlotsPerBucket).mpr readSlots
  simp only [applyClientEnv, bind_ok_iff]
  exact ⟨_, port, isPort, keys, isKeys, coalesce, isCoalesce, slots, isSlots, rfl⟩

/-- The keys of a loaded configuration. -/
theorem LoadedClient.kept_keys (loaded : LoadedClient fields config) :
    KeptKeys [] config.scriptKeys := by
  have keys := loaded.scriptKeys
  split_ifs at keys
  · rw [keys]
    exact @parse_kept 0 [] [] [] rfl
  · exact parse_keys_kept keys.2

/-- What was enforced is so behind the overrides exactly where the variables fit. -/
theorem client_env_enforced_iff (loaded : LoadedClient fields config)
    (applied : applyClientEnv rules env config = .ok result) :
    EnforcedClient result ↔ ClientEnvFits rules env config := by
  obtain ⟨_, isPort, isKeys, isCoalesce, isUser, isPass, isSni, isKey⟩ := client_env_cases applied
  have port := override_int_range (fun port => 1 ≤ port ∧ port ≤ 65535) isPort loaded.portRange
  have keys := override_keys_canonical isKeys loaded.kept_keys
  have coalesce := override_int_range (fun step => 0 ≤ step) isCoalesce loaded.coalesceRange
  have key := @override_key_hex (env.given "ASTRIX_TUNNEL_KEY") _ _ loaded.keyLoaded
  have sni : result.sniHosts ≠ [] ↔
      ∀ text, env.given "ASTRIX_SNI" = some text → commaParts text ≠ [] := by
    rw [isSni]
    cases env.given "ASTRIX_SNI" with
    | none => simpa using (parse_sni_list loaded.sniHosts).some
    | some text => simp
  constructor
  · intro enforced
    exact {
      port := port.mp enforced.port
      credentials := isUser ▸ isPass ▸ enforced.credentials
      sni := sni.mp enforced.sni
      keys := keys.mp (valid_ids_iff.mp enforced.ids)
      key := key.mp (isKey ▸ enforced.key)
      coalesce := coalesce.mp enforced.coalesce }
  · intro fits
    exact {
      port := port.mpr fits.port
      credentials := by rw [isUser, isPass]; exact fits.credentials
      sni := sni.mpr fits.sni
      ids := valid_ids_iff.mpr (keys.mpr fits.keys)
      key := by rw [isKey]; exact key.mpr fits.key
      coalesce := coalesce.mpr fits.coalesce }

end Client

section Server

variable {rules : TextRules} {env : Environ} {urls : UrlRules} {fields : List (Text × Json)}
  {config result : ServerConfig}

theorem server_env_returns_iff :
    (∃ result, applyServerEnv rules env config = .ok result) ↔
      ¬ Unreadable (env.given "ASTRIX_SERVER_PORT") := by
  rw [← @override_int_ok_iff _ config.serverPort]
  simp only [applyServerEnv, bind_ok_iff]
  constructor
  · intro given
    rcases given with ⟨_, port, isPort, _⟩
    exact ⟨port, isPort⟩
  · intro given
    rcases given with ⟨port, isPort⟩
    exact ⟨_, port, isPort, rfl⟩

theorem server_env_enforced_iff (loaded : LoadedServer urls fields config)
    (applied : applyServerEnv rules env config = .ok result) :
    EnforcedServer result ↔ ServerEnvFits env config := by
  simp only [applyServerEnv, bind_ok_iff] at applied
  obtain ⟨number, isPort, same⟩ := applied
  cases same
  have port := override_int_range (fun port => 1 ≤ port ∧ port ≤ 65535) isPort loaded.portRange
  have key := @override_key_hex (env.given "ASTRIX_TUNNEL_KEY") _ _ loaded.keyLoaded
  have proxy : (((env "ASTRIX_UPSTREAM_PROXY").map strip).getD config.upstreamProxy = [] ∨
      HostPort (((env "ASTRIX_UPSTREAM_PROXY").map strip).getD config.upstreamProxy)) ↔
        ∀ text, env "ASTRIX_UPSTREAM_PROXY" = some text →
          strip text = [] ∨ HostPort (strip text) := by
    cases env "ASTRIX_UPSTREAM_PROXY" with
    | none =>
        obtain ⟨raw, _, proxyOf⟩ := loaded.upstreamProxy
        have kept : config.upstreamProxy = [] ∨ HostPort config.upstreamProxy := by
          by_cases empty : strip raw = []
          · exact .inl (proxyOf.none empty)
          · exact .inr (proxyOf.host_port empty)
        simpa using kept
    | some text => simp
  constructor
  · intro enforced
    exact ⟨port.mp enforced.port, key.mp enforced.key, proxy.mp enforced.proxy⟩
  · intro fits
    exact ⟨port.mpr fits.port, key.mpr fits.key, proxy.mpr fits.proxy⟩

end Server

/-- With what its loader enforces the server starts. -/
theorem EnforcedServer.starts {config : ServerConfig} (enforced : EnforcedServer config) :
    ∃ app, makeApp config = .ok app := by
  obtain ⟨crypto, isCrypto⟩ := enforced.key.crypto
  exact ⟨_, (bind_ok_iff _ _ _).mpr ⟨crypto, isCrypto, rfl⟩⟩

/-- With what its loader enforces the client has a cipher and a session for every
post. -/
theorem EnforcedClient.connects {config : ClientConfig Json} (enforced : EnforcedClient config) :
    (∃ crypto, Crypto.fromHexKey config.tunnelKey = .ok crypto) ∧
      ∀ client index, FrontedClient.new config.googleHost config.sniHosts = .ok client →
        ∃ chosen, ({ client with sniIndex := index } : FrontedClient).nextSession = .ok chosen := by
  constructor
  · exact enforced.key.crypto
  · intro client index built
    exact (fronted_posts built enforced.sni).2 index

/-- Over every accepted configuration the overrides of client and server raise or
keep what the loader enforces, exactly if a variable is refused or all fit. -/
theorem env_overrides_keep_iff (rules : TextRules) (urls : UrlRules) (env serverEnv : Environ)
    (clientFiles serverFiles : Files) (clientPath serverPath : Text)
    (clientFields serverFields : List (Text × Json)) (clientConfig : ClientConfig Text)
    (serverConfig : ServerConfig)
    (clientPresent : clientFiles clientPath = some (.object clientFields))
    (serverPresent : serverFiles serverPath = some (.object serverFields))
    (clientAccepted : loadClientConfig clientFiles clientPath = .ok clientConfig)
    (serverAccepted : loadServerConfig urls serverFiles serverPath = .ok serverConfig) :
    ((∀ result, applyClientEnv rules env clientConfig = .ok result → EnforcedClient result) ↔
        ClientEnvRaises rules env ∨ ClientEnvFits rules env clientConfig) ∧
      ((∀ result, applyServerEnv rules serverEnv serverConfig = .ok result →
          EnforcedServer result) ↔
        Unreadable (serverEnv.given "ASTRIX_SERVER_PORT") ∨
          ServerEnvFits serverEnv serverConfig) := by
  rw [load_client_iff clientPresent, read_client_iff] at clientAccepted
  rw [load_server_iff serverPresent, read_server_iff] at serverAccepted
  constructor
  · constructor
    · intro enforced
      by_cases raises : ClientEnvRaises rules env
      · exact .inl raises
      · obtain ⟨result, applied⟩ := @client_env_returns rules env clientConfig raises
        exact .inr ((client_env_enforced_iff clientAccepted applied).mp (enforced result applied))
    · intro given result applied
      rcases given with raises | fits
      · exact absurd raises (client_env_cases applied).1
      · exact (client_env_enforced_iff clientAccepted applied).mpr fits
  · constructor
    · intro enforced
      by_cases raises : Unreadable (serverEnv.given "ASTRIX_SERVER_PORT")
      · exact .inl raises
      · obtain ⟨result, applied⟩ :=
          (@server_env_returns_iff rules serverEnv serverConfig).mpr raises
        exact .inr ((server_env_enforced_iff serverAccepted applied).mp (enforced result applied))
    · intro given result applied
      rcases given with raises | fits
      · exact absurd raises (server_env_returns_iff.mp ⟨result, applied⟩)
      · exact (server_env_enforced_iff serverAccepted applied).mpr fits

def asciiRules : TextRules where
  loads _ := .error .jsonDecodeError
  lower text := text.map asciiLower

def oneVariable (name : String) (value : Text) : Environ :=
  fun other => if other = name then some value else none

theorem sample_client_key {config : ClientConfig Text}
    (loaded : LoadedClient sampleClientFields config) : Solid config.tunnelKey := by
  obtain ⟨raw, given, same⟩ := loaded.tunnelKey
  cases given
  have solid : Solid (strip sampleKey) := by decide +kernel
  exact same ▸ solid

theorem sample_server_key {config : ServerConfig}
    (loaded : LoadedServer plainRules sampleServerFields config) : Solid config.tunnelKey := by
  obtain ⟨raw, given, same⟩ := loaded.tunnelKey
  cases given
  have solid : Solid (strip sampleKey) := by decide +kernel
  exact same ▸ solid

/-- A port, both credentials, two hosts and a step for the client, and a port and
a proxy for the server. -/
def someVariables : Environ := fun name =>
  ([("ASTRIX_SOCKS_PORT", literal "1090"), ("ASTRIX_SOCKS_USER", literal "user"),
    ("ASTRIX_SOCKS_PASS", literal "secret"),
    ("ASTRIX_SNI", literal "www.google.com, mail.google.com"),
    ("ASTRIX_COALESCE_STEP_MS", literal "15"), ("ASTRIX_SERVER_PORT", literal " 8444 "),
    ("ASTRIX_UPSTREAM_PROXY", literal " 127.0.0.1:40000 ")].find? fun entry =>
      entry.1 = name).map Prod.snd

theorem some_variables_keep : ∃ (clientConfig : ClientConfig Text) (serverConfig : ServerConfig),
    loadClientConfig (filesOf sampleClientFields) [] = .ok clientConfig ∧
      loadServerConfig plainRules (filesOf sampleServerFields) [] = .ok serverConfig ∧
        (∀ result, applyClientEnv asciiRules someVariables clientConfig = .ok result →
          EnforcedClient result) ∧
        ∀ result, applyServerEnv asciiRules someVariables serverConfig = .ok result →
          EnforcedServer result := by
  obtain ⟨clientConfig, clientAccepted, clientLoaded⟩ := sample_client_loaded
  obtain ⟨serverConfig, serverAccepted, serverLoaded⟩ := sample_server_loaded
  obtain ⟨client, server⟩ := env_overrides_keep_iff asciiRules plainRules someVariables
    someVariables (filesOf sampleClientFields) (filesOf sampleServerFields) [] []
    sampleClientFields sampleServerFields clientConfig serverConfig rfl rfl clientAccepted
    serverAccepted
  have clientFits : ClientEnvFits asciiRules someVariables clientConfig := {
    port := by
      intro text number given read
      have here : someVariables.given "ASTRIX_SOCKS_PORT" = some (literal "1090") := by
        decide +kernel
      cases here.symm.trans given
      have value : parseInt (literal "1090") = some 1090 := by decide +kernel
      cases value.symm.trans read
      decide
    credentials := by
      have user : someVariables "ASTRIX_SOCKS_USER" = some (literal "user") := by decide +kernel
      have pass : someVariables "ASTRIX_SOCKS_PASS" = some (literal "secret") := by
        decide +kernel
      rw [user, pass, Option.getD_some, Option.getD_some]
      decide
    sni := by
      intro text given
      have here : someVariables.given "ASTRIX_SNI" =
          some (literal "www.google.com, mail.google.com") := by decide +kernel
      cases here.symm.trans given
      decide +kernel
    keys := fun text none => by cases none
    key := sample_client_key clientLoaded
    coalesce := by
      intro text number given read
      have here : someVariables.given "ASTRIX_COALESCE_STEP_MS" = some (literal "15") := by
        decide +kernel
      cases here.symm.trans given
      have value : parseInt (literal "15") = some 15 := by decide +kernel
      cases value.symm.trans read
      decide }
  have serverFits : ServerEnvFits someVariables serverConfig := {
    port := by
      intro text number given read
      have here : someVariables.given "ASTRIX_SERVER_PORT" = some (literal " 8444 ") := by
        decide +kernel
      cases here.symm.trans given
      have value : parseInt (literal " 8444 ") = some 8444 := by decide +kernel
      cases value.symm.trans read
      decide
    key := sample_server_key serverLoaded
    proxy := by
      intro text given
      have here : someVariables "ASTRIX_UPSTREAM_PROXY" = some (literal " 127.0.0.1:40000 ") := by
        decide +kernel
      cases here.symm.trans given
      exact .inr ⟨literal "127.0.0.1", 40000, by decide, by decide, by decide,
        by decide +kernel⟩ }
  exact ⟨clientConfig, serverConfig, clientAccepted, serverAccepted,
    client.mpr (.inr clientFits), server.mpr (.inr serverFits)⟩

/-- A port of zero is taken from the environment, by the client and by the server. -/
theorem zero_port_taken :
    ¬ (∀ (rules : TextRules) (env : Environ) (files : Files) (path : Text)
        (fields : List (Text × Json)) (config : ClientConfig Text) (result : ClientConfig Json),
        files path = some (.object fields) → loadClientConfig files path = .ok config →
          applyClientEnv rules env config = .ok result → EnforcedClient result) ∧
      ¬ ∀ (rules : TextRules) (urls : UrlRules) (env : Environ) (files : Files) (path : Text)
        (fields : List (Text × Json)) (config result : ServerConfig),
        files path = some (.object fields) → loadServerConfig urls files path = .ok config →
          applyServerEnv rules env config = .ok result → EnforcedServer result := by
  have zero : parseInt (literal "0") = some 0 := by decide +kernel
  constructor
  · intro always
    obtain ⟨config, accepted, loaded⟩ := sample_client_loaded
    have quiet : ¬ ClientEnvRaises asciiRules
        (oneVariable "ASTRIX_SOCKS_PORT" (literal "0")) := by
      intro given
      rcases given with
        ⟨text, given, none⟩ | ⟨text, error, given, _⟩ | ⟨text, given, _⟩ | ⟨text, given, _⟩
      · cases given
        rw [zero] at none
        cases none
      · cases given
      · cases given
      · cases given
    obtain ⟨result, applied⟩ := @client_env_returns _ _ config quiet
    have enforced := always asciiRules _ (filesOf sampleClientFields) [] sampleClientFields config
      result rfl accepted applied
    have fits := (client_env_enforced_iff loaded applied).mp enforced
    exact absurd (fits.port (literal "0") 0 rfl zero).1 (by decide)
  · intro always
    obtain ⟨config, accepted, loaded⟩ := sample_server_loaded
    have quiet : ¬ Unreadable
        ((oneVariable "ASTRIX_SERVER_PORT" (literal "0")).given "ASTRIX_SERVER_PORT") := by
      intro given
      rcases given with ⟨text, given, none⟩
      cases given
      rw [zero] at none
      cases none
    obtain ⟨result, applied⟩ := (@server_env_returns_iff asciiRules _ config).mpr quiet
    have enforced := always asciiRules plainRules _ (filesOf sampleServerFields) []
      sampleServerFields config result rfl accepted applied
    have fits := (server_env_enforced_iff loaded applied).mp enforced
    exact absurd (fits.port (literal "0") 0 rfl zero).1 (by decide)

end Astrix
