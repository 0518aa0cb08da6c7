import Astrix.Carrier
import Astrix.ConfigFiles

/-!
# Building the carrier and the server from a configuration

`Carrier.__init__` with the fronted client in it and `_make_app`, as far as they
depend on the configuration: the arguments of the connectors, of the HTTP
sessions and of the web application are otherwise constants.
-/

namespace Astrix

open PyRuntime

set_option autoImplicit false

/-- `Crypto` as its key, whose size the constructor checks. -/
structure Crypto where
  key : Bytes
  sized : key.length = 32

def Crypto.new (key : Bytes) : Except LoadError Crypto :=
  if sized : key.length = 32 then .ok { key := key, sized := sized }
  else .error (.valueError (literal "AES key must be 32 bytes, got " ++ decimalText key.length))

/-- `Crypto.from_hex_key`. -/
def Crypto.fromHexKey (hexKey : Text) : Except LoadError Crypto :=
  match fromHex hexKey with
  | none => .error .invalidLiteral
  | some key => do
      failIf (key.length ≠ 32)
        (.valueError (literal "hex key must decode to 32 bytes (64 hex chars), got " ++
          decimalText key.length))
      Crypto.new key

/-- An endpoint with the names that it keeps. -/
structure Endpoint extends EndpointState where
  id : Text
  account : Text
  baseUrl : Text

/-- A `_ResolvedConnector`, of which each session has its own. -/
structure Connector where
  googleIp : Json
  googlePort : Nat
  sniHost : Text

structure FrontedClient where
  googleIp : Json
  sniHosts : List Text
  sessions : List Connector
  sniIndex : Nat

/-- The address without a port: `":" in google_ip` and, if so, `google_ip.split(":")[0]`. -/
def googleAddress (googleIp : Json) : Except LoadError Json := do
  let ported ← googleIp.contains (literal ":")
  if ported then
    let text ← googleIp.asText
    .ok (.string (partitionAt 58 text).1)
  else .ok googleIp

def FrontedClient.new (googleIp : Json) (sniHosts : List Text) : Except LoadError FrontedClient := do
  let address ← googleAddress googleIp
  .ok {
    googleIp := address
    sniHosts := sniHosts
    sessions := sniHosts.map fun sni => { googleIp := address, googlePort := 443, sniHost := sni }
    sniIndex := 0 }

/-- `_next_session`. -/
def FrontedClient.nextSession (client : FrontedClient) :
    Except LoadError ((Connector × Text) × FrontedClient) :=
  if client.sessions.length = 0 then .error .zeroDivisionError
  else
    let idx := client.sniIndex % client.sessions.length
    match client.sessions[idx]?, client.sniHosts[idx]? with
    | some session, some sni =>
        .ok ((session, sni), { client with sniIndex := client.sniIndex + 1 })
    | _, _ => .error .indexError

/-- `client_id_bytes`. -/
def clientIdBytes (sha256 : Bytes → Bytes) (tunnelKey : Text) : Except LoadError Bytes :=
  match encodeUtf8 tunnelKey with
  | .ok data => .ok ((sha256 data).take 16)
  | .error _ => .error .unicodeEncodeError

/-- What `Carrier.__init__` sets up from the configuration. -/
structure Carrier where
  crypto : Crypto
  clientId : Bytes
  endpoints : List Endpoint
  fronting : FrontedClient

/-- An endpoint for every script key, also where there are relay URLs. -/
def endpointOf (entry : ScriptKeyEntry Text) : Endpoint where
  toEndpointState := EndpointState.new
  id := entry.id
  account := entry.account
  baseUrl := baseUrl entry.id

def Carrier.new (sha256 : Bytes → Bytes) (config : ClientConfig Text) :
    Except LoadError Carrier := do
  let crypto ← Crypto.fromHexKey config.tunnelKey
  let clientId ← clientIdBytes sha256 config.tunnelKey
  let fronting ← FrontedClient.new config.googleHost config.sniHosts
  .ok {
    crypto := crypto
    clientId := clientId
    endpoints := config.scriptKeys.map endpointOf
    fronting := fronting }

/-- What `_make_app` stores of the configuration. -/
structure WebApp where
  crypto : Crypto
  config : ServerConfig

/-- `_make_app`. -/
def makeApp (config : ServerConfig) : Except LoadError WebApp := do
  let crypto ← Crypto.fromHexKey config.tunnelKey
  .ok { crypto := crypto, config := config }

section Keys

variable {placeholder : String} {key : Text}

theorem crypto_new_ok {bytes : Bytes} (sized : bytes.length = 32) :
    ∃ crypto, Crypto.new bytes = .ok crypto := by
  refine ⟨⟨bytes, sized⟩, ?_⟩
  rw [Crypto.new, dif_pos sized]

/-- A loaded key is one for the cipher exactly without white space in it. -/
theorem LoadedKey.crypto_iff (loaded : LoadedKey placeholder key) :
    (∃ crypto, Crypto.fromHexKey key = .ok crypto) ↔ Solid key := by
  obtain ⟨bytes, read⟩ := loaded.read
  rw [← loaded.bytes_iff read]
  simp only [Crypto.fromHexKey, read, bind_ok_iff, fail_if_ok_iff, exists_const, not_not]
  constructor
  · intro given
    rcases given with ⟨crypto, sized, _⟩
    exact sized
  · intro sized
    obtain ⟨crypto, built⟩ := crypto_new_ok sized
    exact ⟨crypto, sized, built⟩

/-- So is every key of sixty-four digits. -/
theorem HexKey.crypto (hex : HexKey key) : ∃ crypto, Crypto.fromHexKey key = .ok crypto := by
  obtain ⟨long, digits⟩ := hex
  obtain ⟨bytes, read⟩ := from_hex_of_digits digits (by rw [long]; decide)
  have solid : ∀ point ∈ key, isAsciiSpace point = false :=
    fun point member => hex_digit_solid (digits point member)
  have sized : bytes.length = 32 := by
    have twice := (from_hex_solid_iff read).mpr solid
    omega
  obtain ⟨crypto, built⟩ := crypto_new_ok sized
  refine ⟨crypto, ?_⟩
  simp only [Crypto.fromHexKey, read, bind_ok_iff, fail_if_ok_iff, exists_const, not_not]
  exact ⟨sized, built⟩

/-- The characters of a loaded key are ASCII. -/
theorem LoadedKey.scalars (loaded : LoadedKey placeholder key) : NoSurrogates key := by
  obtain ⟨bytes, read⟩ := loaded.read
  intro point member
  have small : point.val < 128 := by
    rcases from_hex_digits read point member with digit | space
    · unfold isHexDigit hexValue at digit
      split_ifs at digit
      · omega
      · omega
      · omega
      · cases digit
    · simp only [isAsciiSpace, Bool.or_eq_true, Bool.and_eq_true, decide_eq_true_eq] at space
      omega
  simp only [isSurrogate, Bool.and_eq_false_iff, decide_eq_false_iff_not]
  omega

theorem LoadedKey.client_id (loaded : LoadedKey placeholder key) (sha256 : Bytes → Bytes) :
    ∃ clientId, clientIdBytes sha256 key = .ok clientId := by
  obtain ⟨data, encoded, _⟩ := encode_utf8_scalars loaded.scalars
  rw [clientIdBytes, encoded]
  exact ⟨_, rfl⟩

end Keys

section Fronting

/-- A host in which the carrier can look for a port. -/
def dialable : Json → Bool
  | .string _ => true
  | .array items => !items.any (Json.isString (literal ":"))
  | .object fields => !(fields.map Prod.fst).contains (literal ":")
  | _ => false

theorem google_address_iff (host : Json) :
    (∃ address, googleAddress host = .ok address) ↔ dialable host = true := by
  cases host with
  | string text =>
      constructor
      · intro _
        rfl
      · intro _
        simp only [googleAddress, Json.contains, Json.asText, bind, Except.bind]
        split_ifs
        · exact ⟨_, rfl⟩
        · exact ⟨_, rfl⟩
  | array items =>
      simp only [googleAddress, Json.contains, Json.asText, bind, Except.bind, dialable]
      cases items.any (Json.isString (literal ":")) <;> simp
  | object fields =>
      simp only [googleAddress, Json.contains, Json.asText, bind, Except.bind, dialable]
      cases (fields.map Prod.fst).contains (literal ":") <;> simp
  | null | bool | integer | real | infinite =>
      constructor
      · intro given
        rcases given with ⟨address, built⟩
        cases built
      · intro never
        cases never

variable {host : Json} {hosts : List Text} {client : FrontedClient}

/-- One session for every server name. -/
theorem fronted_new (built : FrontedClient.new host hosts = .ok client) :
    client.sniHosts = hosts ∧ client.sessions.length = hosts.length := by
  obtain ⟨address, _, same⟩ := (bind_ok_iff _ _ _).mp built
  cases same
  exact ⟨rfl, List.length_map _⟩

/-- With a server name there is a session for every post, whatever their number. -/
theorem next_session_found (paired : client.sessions.length = client.sniHosts.length)
    (some : client.sessions ≠ []) : ∃ chosen, client.nextSession = .ok chosen := by
  have positive : 0 < client.sessions.length := List.length_pos_iff.mpr some
  have inside := Nat.mod_lt client.sniIndex positive
  have insideHosts : client.sniIndex % client.sessions.length < client.sniHosts.length :=
    paired ▸ inside
  rw [FrontedClient.nextSession, if_neg positive.ne']
  dsimp only
  rw [List.getElem?_eq_getElem inside, List.getElem?_eq_getElem insideHosts]
  exact ⟨_, rfl⟩

theorem fronted_posts (built : FrontedClient.new host hosts = .ok client) (some : hosts ≠ []) :
    client.sessions ≠ [] ∧
      ∀ index, ∃ chosen, ({ client with sniIndex := index } : FrontedClient).nextSession =
        .ok chosen := by
  obtain ⟨isHosts, paired⟩ := fronted_new built
  have sessions : client.sessions ≠ [] := by
    rw [← List.length_pos_iff, paired]
    exact List.length_pos_iff.mpr some
  constructor
  · exact sessions
  · intro index
    exact @next_session_found { client with sniIndex := index } (by rw [paired, isHosts]) sessions

end Fronting

/-- The carrier is built with a key of thirty-two bytes, an endpoint and a session
for every post. -/
def CarrierRuns (sha256 : Bytes → Bytes) (config : ClientConfig Text) : Prop :=
  ∃ carrier, Carrier.new sha256 config = .ok carrier ∧
    (∃ key, fromHex config.tunnelKey = some key ∧ key.length = 32) ∧ carrier.endpoints ≠ [] ∧
      carrier.fronting.sessions ≠ [] ∧
        ∀ index, ∃ chosen,
          ({ carrier.fronting with sniIndex := index } : FrontedClient).nextSession = .ok chosen

/-- The key of the file has no white space within it. -/
def SolidKey (fields : List (Text × Json)) : Prop :=
  ∃ raw, field fields "tunnel_key" (.string []) = .string raw ∧ Solid (strip raw)

/-- The file has a key without white space, no relay URLs, and a host in which the
carrier can look for a port. -/
def RunnableClient (fields : List (Text × Json)) : Prop :=
  SolidKey fields ∧ (field fields "relay_urls" (.array [])).truthy = false ∧
    dialable (field fields "google_host" (.string (literal "216.239.38.120"))) = true

section Accepted

variable {fields : List (Text × Json)} {key : Text}

theorem solid_key_iff (given : ∃ raw, field fields "tunnel_key" (.string []) = .string raw ∧
    strip raw = key) : SolidKey fields ↔ Solid key := by
  obtain ⟨raw, isText, rfl⟩ := given
  rw [SolidKey, isText]
  simp only [Json.string.injEq, exists_eq_left']

theorem carrier_runs_iff {config : ClientConfig Text} (sha256 : Bytes → Bytes)
    (loaded : LoadedClient fields config) :
    CarrierRuns sha256 config ↔ RunnableClient fields := by
  obtain ⟨bytes, read⟩ := loaded.keyLoaded.read
  rw [RunnableClient, solid_key_iff loaded.tunnelKey, ← loaded.googleHost, ← loaded.relayUrls,
    ← google_address_iff]
  have keys := loaded.scriptKeys
  constructor
  · intro given
    rcases given with ⟨carrier, built, _, endpoints, _, _⟩
    obtain ⟨crypto, isCrypto, built⟩ := (bind_ok_iff _ _ _).mp built
    obtain ⟨clientId, _, built⟩ := (bind_ok_iff _ _ _).mp built
    obtain ⟨fronting, isFronting, same⟩ := (bind_ok_iff _ _ _).mp built
    obtain ⟨address, isAddress, _⟩ := (bind_ok_iff _ _ _).mp isFronting
    cases same
    refine ⟨loaded.keyLoaded.crypto_iff.mp ⟨crypto, isCrypto⟩, ?_, address, isAddress⟩
    by_contra relays
    rw [if_pos (Bool.not_eq_false _ ▸ relays)] at keys
    exact endpoints (by rw [keys]; rfl)
  · intro given
    rcases given with ⟨solid, noRelays, address, isAddress⟩
    rw [if_neg (by rw [noRelays]; decide)] at keys
    obtain ⟨crypto, isCrypto⟩ := loaded.keyLoaded.crypto_iff.mpr solid
    obtain ⟨clientId, isId⟩ := loaded.keyLoaded.client_id sha256
    obtain ⟨fronting, isFronting⟩ : ∃ fronting,
        FrontedClient.new config.googleHost config.sniHosts = .ok fronting :=
      ⟨_, (bind_ok_iff _ _ _).mpr ⟨address, isAddress, rfl⟩⟩
    have hosts := (parse_sni_list loaded.sniHosts).some
    obtain ⟨sessions, posts⟩ := fronted_posts isFronting hosts
    refine ⟨_, (bind_ok_iff _ _ _).mpr ⟨crypto, isCrypto, (bind_ok_iff _ _ _).mpr
      ⟨clientId, isId, (bind_ok_iff _ _ _).mpr ⟨fronting, isFronting, rfl⟩⟩⟩,
      ⟨bytes, read, (loaded.keyLoaded.bytes_iff read).mpr solid⟩, ?_, sessions, posts⟩
    rw [Ne, List.map_eq_nil_iff]
    exact parse_keys_some keys.1 keys.2

theorem app_built_iff {rules : UrlRules} {config : ServerConfig}
    (loaded : LoadedServer rules fields config) :
    (∃ app, makeApp config = .ok app) ↔ SolidKey fields := by
  rw [solid_key_iff loaded.tunnelKey, ← loaded.keyLoaded.crypto_iff]
  constructor
  · intro given
    rcases given with ⟨app, built⟩
    obtain ⟨crypto, isCrypto, _⟩ := (bind_ok_iff _ _ _).mp built
    exact ⟨crypto, isCrypto⟩
  · intro given
    rcases given with ⟨crypto, isCrypto⟩
    exact ⟨_, (bind_ok_iff _ _ _).mpr ⟨crypto, isCrypto, rfl⟩⟩

end Accepted

/-- When an accepted configuration can run, for client and server. -/
theorem accepted_config_runs_iff (sha256 : Bytes → Bytes) (rules : UrlRules)
    (clientFiles serverFiles : Files) (clientPath serverPath : Text)
    (clientFields serverFields : List (Text × Json)) (clientConfig : ClientConfig Text)
    (serverConfig : ServerConfig)
    (clientPresent : clientFiles clientPath = some (.object clientFields))
    (serverPresent : serverFiles serverPath = some (.object serverFields))
    (clientAccepted : loadClientConfig clientFiles clientPath = .ok clientConfig)
    (serverAccepted : loadServerConfig rules serverFiles serverPath = .ok serverConfig) :
    (CarrierRuns sha256 clientConfig ↔ RunnableClient clientFields) ∧
      ((∃ app, makeApp serverConfig = .ok app) ↔ SolidKey serverFields) := by
  rw [load_client_iff clientPresent, read_client_iff] at clientAccepted
  rw [load_server_iff serverPresent, read_server_iff] at serverAccepted
  exact ⟨carrier_runs_iff sha256 clientAccepted, app_built_iff serverAccepted⟩

theorem sample_config_runs : ∃ (clientConfig : ClientConfig Text) (serverConfig : ServerConfig),
    loadClientConfig (filesOf sampleClientFields) [] = .ok clientConfig ∧
      loadServerConfig plainRules (filesOf sampleServerFields) [] = .ok serverConfig ∧
        CarrierRuns id clientConfig ∧ ∃ app, makeApp serverConfig = .ok app := by
  obtain ⟨clientConfig, clientAccepted, _⟩ := sample_client_loaded
  obtain ⟨serverConfig, serverAccepted, _⟩ := sample_server_loaded
  obtain ⟨runs, app⟩ := accepted_config_runs_iff id plainRules (filesOf sampleClientFields)
    (filesOf sampleServerFields) [] [] sampleClientFields sampleServerFields clientConfig
    serverConfig rfl rfl clientAccepted serverAccepted
  have solid : Solid (strip sampleKey) := by decide +kernel
  have solidClient : SolidKey sampleClientFields := ⟨sampleKey, rfl, solid⟩
  have solidServer : SolidKey sampleServerFields := ⟨sampleKey, rfl, solid⟩
  exact ⟨clientConfig, serverConfig, clientAccepted, serverAccepted,
    runs.mpr ⟨solidClient, rfl, rfl⟩, app.mpr solidServer⟩

/-- Sixty-two digits and two spaces. -/
def spacedKey : Text := List.replicate 30 97 ++ [32, 32] ++ List.replicate 32 97

def spacedClientFields : List (Text × Json) :=
  [(literal "script_keys", .array [.string sampleId]), (literal "tunnel_key", .string spacedKey)]

def spacedServerFields : List (Text × Json) := [(literal "tunnel_key", .string spacedKey)]

/-- The key with spaces is accepted by both loaders, and neither side starts with it. -/
theorem spaced_key_not_run :
    ¬ (∀ (sha256 : Bytes → Bytes) (files : Files) (path : Text) (fields : List (Text × Json))
        (config : ClientConfig Text), files path = some (.object fields) →
        loadClientConfig files path = .ok config → CarrierRuns sha256 config) ∧
      ¬ ∀ (rules : UrlRules) (files : Files) (path : Text) (fields : List (Text × Json))
        (config : ServerConfig), files path = some (.object fields) →
        loadServerConfig rules files path = .ok config → ∃ app, makeApp config = .ok app := by
  have spaced : ¬ Solid (strip spacedKey) := by decide +kernel
  constructor
  · intro always
    obtain ⟨config, accepted, loaded⟩ := @client_loaded_of_ok spacedClientFields (by decide +kernel)
    have runs := always id (filesOf spacedClientFields) [] spacedClientFields config rfl accepted
    obtain ⟨⟨raw, given, solid⟩, _⟩ := (carrier_runs_iff id loaded).mp runs
    cases given
    exact spaced solid
  · intro always
    obtain ⟨config, accepted, loaded⟩ :=
      @server_loaded_of_ok plainRules spacedServerFields (by decide +kernel)
    have built := always plainRules (filesOf spacedServerFields) [] spacedServerFields config rfl
      accepted
    obtain ⟨raw, given, solid⟩ := (app_built_iff loaded).mp built
    cases given
    exact spaced solid

end Astrix
