import Astrix.ClientConfig
import Astrix.ServerConfig

/-!
# Configurations that are saved and loaded again

The writers and the loaders have lists of fields of their own. Each field that a
writer puts into the file is read back as it was; what the writers leave out or
put in another form decides whether the whole configuration is.
-/

namespace Astrix

open PyRuntime

set_option autoImplicit false

section Client

variable {fields : List (Text × Json)} {config : ClientConfig Text}

def clientKeys : List String :=
  ["debug_timing", "socks_host", "socks_port", "socks_user", "socks_pass", "google_host", "sni",
    "script_keys", "tunnel_key", "coalesce_step_ms", "idle_slots_per_bucket"]

theorem client_saved_keys (config : ClientConfig Text) :
    config.saved.map Prod.fst = clientKeys.map literal := rfl

theorem client_saved_field {name : String} {value : Json} (default : Json)
    (member : (literal name, value) ∈ config.saved) : field config.saved name default = value := by
  have distinct : (config.saved.map Prod.fst).Nodup := by
    rw [client_saved_keys]
    decide +kernel
  rw [field, lookup_of_mem distinct member, Option.getD_some]

/-- What the loader finds in a saved file. -/
structure ClientSaved (config : ClientConfig Text) : Prop where
  socksHost : field config.saved "socks_host" (.string (literal "127.0.0.1")) = config.socksHost
  socksPort : field config.saved "socks_port" (.integer 1080) = .integer config.socksPort
  socksUser : field config.saved "socks_user" (.string []) = .string config.socksUser
  socksPass : field config.saved "socks_pass" (.string []) = .string config.socksPass
  googleHost : field config.saved "google_host" (.string (literal "216.239.38.120")) =
    config.googleHost
  sni : field config.saved "sni" .null = .array (config.sniHosts.map .string)
  relayUrls : field config.saved "relay_urls" (.array []) = .array []
  scriptKeys : field config.saved "script_keys" (.array []) =
    .array (config.scriptKeys.map savedScriptKey)
  tunnelKey : field config.saved "tunnel_key" (.string []) = .string config.tunnelKey
  debugTiming : field config.saved "debug_timing" (.bool false) = .bool config.debugTiming
  coalesce : field config.saved "coalesce_step_ms" (.integer 0) = .integer config.coalesceStepMs
  slots : field config.saved "idle_slots_per_bucket" (.integer 2) =
    .integer config.idleSlotsPerBucket

theorem client_saved (config : ClientConfig Text) : ClientSaved config := by
  have absent : literal "relay_urls" ∉ config.saved.map Prod.fst := by
    rw [client_saved_keys]
    decide +kernel
  constructor
  case relayUrls => rw [field, lookup_none absent, Option.getD_none]
  all_goals exact client_saved_field _ (by simp [ClientConfig.saved])

/-- A saved configuration is loaded as it was unless it has relay URLs. -/
theorem load_saved_client (loaded : LoadedClient fields config) :
    LoadedClient config.saved config ↔ config.relayUrls = .array [] := by
  have saved := client_saved config
  constructor
  · intro again
    rw [again.relayUrls, saved.relayUrls]
  · intro none
    have noRelays : ¬ config.relayUrls.truthy = true := by
      rw [none]
      decide
    have keys := loaded.scriptKeys
    rw [if_neg noRelays] at keys
    have kept := parse_keys_kept keys.2
    have given : (Json.array (config.scriptKeys.map savedScriptKey)).truthy = true := by
      rw [Json.truthy, List.isEmpty_map, Bool.not_eq_true', List.isEmpty_eq_false_iff]
      exact parse_keys_some keys.1 keys.2
    have hosts := parse_sni_list loaded.sniHosts
    obtain ⟨user, _, trimmedUser⟩ := loaded.socksUser
    obtain ⟨pass, _, trimmedPass⟩ := loaded.socksPass
    obtain ⟨key, _, trimmedKey⟩ := loaded.tunnelKey
    obtain ⟨slots, _, low, high, isSlots⟩ := loaded.slots
    have positive : config.idleSlotsPerBucket > 0 ∧ config.idleSlotsPerBucket ≤ 3 := by
      rw [isSlots]
      split_ifs <;> omega
    refine {
      socksHost := saved.socksHost.symm, socksPort := ?_, portRange := loaded.portRange
      socksUser := ⟨config.socksUser, saved.socksUser, ?_⟩
      socksPass := ⟨config.socksPass, saved.socksPass, ?_⟩
      credentials := loaded.credentials, googleHost := saved.googleHost.symm, sniHosts := ?_
      relayUrls := ?_, scriptKeys := ?_, tunnelKey := ⟨config.tunnelKey, saved.tunnelKey, ?_⟩
      keyLoaded := loaded.keyLoaded, debugTiming := ?_, coalesce := ?_
      coalesceRange := loaded.coalesceRange
      slots := ⟨config.idleSlotsPerBucket, ?_, Int.le_of_lt positive.1, positive.2, ?_⟩ }
    · rw [saved.socksPort, Json.toInt]
    · rw [← trimmedUser, strip_strip]
    · rw [← trimmedPass, strip_strip]
    · rw [saved.sni]
      exact hosts.parse
    · rw [none, saved.relayUrls]
    · rw [if_neg noRelays, saved.scriptKeys]
      exact ⟨given, saved_parses kept⟩
    · rw [← trimmedKey, strip_strip]
    · rw [saved.debugTiming, Json.truthy]
    · rw [saved.coalesce, Json.toInt]
    · rw [saved.slots, Json.toInt]
    · rw [if_pos positive.1]

variable {shell : ClientShell}

theorem client_load_config {path : Text} (accepted : loadClientConfig shell.files path = .ok config) :
    (shell.loadConfig path).config = some config := by
  rw [ClientShell.loadConfig, accepted]

theorem client_save_file (holds : shell.config = some config) (target : Text) :
    (shell.saveConfig target).files target = some (.object config.saved) := by
  rw [ClientShell.saveConfig, holds]
  exact files_write_same ..

theorem client_export_file (holds : shell.config = some config) (target : Text) :
    (shell.exportConfig target).files target = some (.object config.saved) := by
  rw [ClientShell.exportConfig, holds]
  exact files_write_same ..

/-- A file of a loaded configuration, from which it is loaded again. -/
theorem reload_client_iff {files : Files} {target : Text} (loaded : LoadedClient fields config)
    (written : files target = some (.object config.saved)) :
    loadClientConfig files target = .ok config ↔
      field fields "relay_urls" (.array []) = .array [] := by
  rw [load_client_iff written, read_client_iff, load_saved_client loaded, loaded.relayUrls]

/-- Whatever the shell loads, it saves and exports to a file that is loaded as the
same exactly when `relay_urls` is not given or empty. -/
theorem client_config_round_trip_iff (files : Files) (path target : Text)
    (fields : List (Text × Json)) (config : ClientConfig Text) (shell : ClientShell)
    (present : files path = some (.object fields))
    (accepted : loadClientConfig files path = .ok config) (holds : shell.config = some config) :
    (loadClientConfig (shell.saveConfig target).files target = .ok config ↔
        field fields "relay_urls" (.array []) = .array []) ∧
      (loadClientConfig (shell.exportConfig target).files target = .ok config ↔
        field fields "relay_urls" (.array []) = .array []) := by
  have loaded : LoadedClient fields config := by
    rwa [load_client_iff present, read_client_iff] at accepted
  constructor
  · exact reload_client_iff loaded (client_save_file holds target)
  · exact reload_client_iff loaded (client_export_file holds target)

def sampleKey : Text := List.replicate 64 97

def sampleClientFields : List (Text × Json) :=
  [(literal "script_keys", .array [.string sampleId]), (literal "tunnel_key", .string sampleKey)]

def relayFields : List (Text × Json) :=
  [(literal "relay_urls", .array [.string (literal "https://relay.example/tunnel")]),
    (literal "tunnel_key", .string sampleKey)]

def filesOf (fields : List (Text × Json)) : Files := fun _ => some (.object fields)

theorem loaded_of_ok {ε α : Type} {result : Except ε α} (ok : result.isOk = true) :
    ∃ value, result = .ok value := by
  cases result with
  | ok value => exact ⟨value, rfl⟩
  | error error => cases ok

/-- A shell before anything is loaded, with one file at every path. -/
def clientShellOf (fields : List (Text × Json)) : ClientShell where
  config := none
  configPath := []
  files := filesOf fields

/-- To see that a file is accepted it is enough to run the loader. -/
theorem client_loaded_of_ok (ok : (loadClientConfig (filesOf fields) []).isOk = true) :
    ∃ config, loadClientConfig (filesOf fields) [] = .ok config ∧ LoadedClient fields config := by
  obtain ⟨config, accepted⟩ := loaded_of_ok ok
  have loaded := accepted
  rw [@load_client_iff _ _ _ (.object fields) rfl, read_client_iff] at loaded
  exact ⟨config, accepted, loaded⟩

theorem sample_client_loaded : ∃ config,
    loadClientConfig (filesOf sampleClientFields) [] = .ok config ∧
      LoadedClient sampleClientFields config :=
  client_loaded_of_ok (by decide +kernel)

theorem sample_client_round_trip : ∃ config,
    loadClientConfig (filesOf sampleClientFields) [] = .ok config ∧
      loadClientConfig (((clientShellOf sampleClientFields).loadConfig []).saveConfig []).files [] =
        .ok config := by
  obtain ⟨config, accepted, _⟩ := sample_client_loaded
  have holds := @client_load_config config (clientShellOf sampleClientFields) [] accepted
  have both := client_config_round_trip_iff (filesOf sampleClientFields) [] [] sampleClientFields
    config ((clientShellOf sampleClientFields).loadConfig []) rfl accepted holds
  exact ⟨config, accepted, both.1.mpr rfl⟩

/-- A configuration with a relay is accepted, but its file is not. -/
theorem relay_config_not_reloaded :
    ¬ ∀ (files : Files) (path target : Text) (fields : List (Text × Json))
      (config : ClientConfig Text) (shell : ClientShell), files path = some (.object fields) →
      loadClientConfig files path = .ok config → shell.config = some config →
        loadClientConfig (shell.saveConfig target).files target = .ok config ∧
          loadClientConfig (shell.exportConfig target).files target = .ok config := by
  intro always
  obtain ⟨config, accepted, loaded⟩ := @client_loaded_of_ok relayFields (by decide +kernel)
  have holds := @client_load_config config (clientShellOf relayFields) [] accepted
  have again := (always (filesOf relayFields) [] [] relayFields config
    ((clientShellOf relayFields).loadConfig []) rfl accepted holds).1
  have none := (reload_client_iff loaded (client_save_file holds [])).mp again
  have some : (field relayFields "relay_urls" (.array [])).truthy = true := by decide +kernel
  rw [none] at some
  cases some

end Client

section Server

variable {rules : UrlRules} {fields : List (Text × Json)} {config : ServerConfig}

def serverKeys : List String :=
  ["server_host", "server_port", "tunnel_key", "upstream_proxy", "debug_timing"]

theorem server_saved_keys (config : ServerConfig) :
    config.saved.map Prod.fst = serverKeys.map literal := rfl

theorem server_saved_field {name : String} {value : Json} (default : Json)
    (member : (literal name, value) ∈ config.saved) : field config.saved name default = value := by
  have distinct : (config.saved.map Prod.fst).Nodup := by
    rw [server_saved_keys]
    decide +kernel
  rw [field, lookup_of_mem distinct member, Option.getD_some]

/-- What the loader finds in a saved file. -/
structure ServerSaved (config : ServerConfig) : Prop where
  serverHost : field config.saved "server_host" (.string (literal "0.0.0.0")) = config.serverHost
  serverPort : field config.saved "server_port" (.integer 8443) = .integer config.serverPort
  tunnelKey : field config.saved "tunnel_key" (.string []) = .string config.tunnelKey
  upstreamProxy : field config.saved "upstream_proxy" (.string []) = .string config.upstreamProxy
  debugTiming : field config.saved "debug_timing" (.bool false) = .bool config.debugTiming
  initialBytes : field config.saved "initial_response_bytes_pre_encode" (.integer 0) = .integer 0

theorem server_saved (config : ServerConfig) : ServerSaved config := by
  have absent : literal "initial_response_bytes_pre_encode" ∉ config.saved.map Prod.fst := by
    rw [server_saved_keys]
    decide +kernel
  constructor
  case initialBytes => rw [field, lookup_none absent, Option.getD_none]
  all_goals exact server_saved_field _ (by simp [ServerConfig.saved])

/-- A saved configuration is loaded as it was exactly without a proxy and with the
default of the number that is left out. -/
theorem load_saved_server (loaded : LoadedServer rules fields config) :
    LoadedServer rules config.saved config ↔
      config.upstreamProxy = [] ∧ config.initialResponseBytesPreEncode = 0 := by
  have saved := server_saved config
  constructor
  · intro again
    constructor
    · obtain ⟨raw, _, proxyOf⟩ := loaded.upstreamProxy
      obtain ⟨written, isProxy, rereadAs⟩ := again.upstreamProxy
      rw [saved.upstreamProxy] at isProxy
      cases isProxy
      by_cases empty : strip raw = []
      · exact proxyOf.none empty
      · exact absurd rereadAs (proxyOf.host_port empty).not_reread
    · have initial := again.initialBytes
      rw [saved.initialBytes, Json.toInt] at initial
      exact (Except.ok.inj initial).symm
  · intro given
    rcases given with ⟨noProxy, noInitial⟩
    obtain ⟨key, _, trimmedKey⟩ := loaded.tunnelKey
    refine {
      serverHost := saved.serverHost.symm, serverPort := ?_, portRange := loaded.portRange
      tunnelKey := ⟨config.tunnelKey, saved.tunnelKey, ?_⟩, keyLoaded := loaded.keyLoaded
      upstreamProxy := ⟨config.upstreamProxy, saved.upstreamProxy, ?_⟩, debugTiming := ?_
      initialBytes := ?_, initialRange := loaded.initialRange }
    · rw [saved.serverPort, Json.toInt]
    · rw [← trimmedKey, strip_strip]
    · rw [noProxy]
      exact ⟨fun _ => rfl, fun given => absurd rfl given⟩
    · rw [saved.debugTiming, Json.truthy]
    · rw [saved.initialBytes, noInitial, Json.toInt]

/-- No proxy is given, and nothing is to be sent ahead. -/
def PlainServer (fields : List (Text × Json)) : Prop :=
  (∃ raw, field fields "upstream_proxy" (.string []) = .string raw ∧ strip raw = []) ∧
    (field fields "initial_response_bytes_pre_encode" (.integer 0)).toInt = .ok 0

theorem plain_server_iff (loaded : LoadedServer rules fields config) :
    config.upstreamProxy = [] ∧ config.initialResponseBytesPreEncode = 0 ↔ PlainServer fields := by
  obtain ⟨raw, given, proxyOf⟩ := loaded.upstreamProxy
  have initial := loaded.initialBytes
  have proxy : config.upstreamProxy = [] ↔ strip raw = [] := by
    constructor
    · intro none
      by_contra some
      obtain ⟨host, port, _, _, _, isText⟩ := proxyOf.host_port some
      exact proxy_text_nonempty host port (isText.symm.trans none)
    · exact proxyOf.none
  rw [PlainServer, proxy, given, initial]
  simp only [Json.string.injEq, exists_eq_left', Except.ok.injEq]

variable {shell : ServerShell}

theorem server_load_config {path : Text}
    (accepted : loadServerConfig rules shell.files path = .ok config) :
    (shell.loadConfig rules path).config = some config := by
  rw [ServerShell.loadConfig, accepted]

theorem server_save_file (holds : shell.config = some config) (target : Text) :
    (shell.saveConfig target).files target = some (.object config.saved) := by
  rw [ServerShell.saveConfig, holds]
  exact files_write_same ..

theorem server_export_file (holds : shell.config = some config) (target : Text) :
    (shell.exportConfig target).files target = some (.object config.saved) := by
  rw [ServerShell.exportConfig, holds]
  exact files_write_same ..

theorem reload_server_iff {files : Files} {target : Text}
    (loaded : LoadedServer rules fields config)
    (written : files target = some (.object config.saved)) :
    loadServerConfig rules files target = .ok config ↔ PlainServer fields := by
  rw [load_server_iff written, read_server_iff, load_saved_server loaded, plain_server_iff loaded]

/-- Whatever the shell loads, it saves and exports to a file that is loaded as the
same exactly when no proxy is given and the number that is left out is zero. -/
theorem server_config_round_trip_iff (rules : UrlRules) (files : Files) (path target : Text)
    (fields : List (Text × Json)) (config : ServerConfig) (shell : ServerShell)
    (present : files path = some (.object fields))
    (accepted : loadServerConfig rules files path = .ok config)
    (holds : shell.config = some config) :
    (loadServerConfig rules (shell.saveConfig target).files target = .ok config ↔
        PlainServer fields) ∧
      (loadServerConfig rules (shell.exportConfig target).files target = .ok config ↔
        PlainServer fields) := by
  have loaded : LoadedServer rules fields config := by
    rwa [load_server_iff present, read_server_iff] at accepted
  constructor
  · exact reload_server_iff loaded (server_save_file holds target)
  · exact reload_server_iff loaded (server_export_file holds target)

def sampleServerFields : List (Text × Json) := [(literal "tunnel_key", .string sampleKey)]

def proxyFields : List (Text × Json) :=
  [(literal "tunnel_key", .string sampleKey),
    (literal "upstream_proxy", .string (literal "socks5://127.0.0.1:40000"))]

def serverShellOf (fields : List (Text × Json)) : ServerShell where
  config := none
  configPath := []
  files := filesOf fields

theorem server_loaded_of_ok (ok : (loadServerConfig rules (filesOf fields) []).isOk = true) :
    ∃ config, loadServerConfig rules (filesOf fields) [] = .ok config ∧
      LoadedServer rules fields config := by
  obtain ⟨config, accepted⟩ := loaded_of_ok ok
  have loaded := accepted
  rw [@load_server_iff _ _ _ _ (.object fields) rfl, read_server_iff] at loaded
  exact ⟨config, accepted, loaded⟩

theorem sample_server_loaded : ∃ config,
    loadServerConfig plainRules (filesOf sampleServerFields) [] = .ok config ∧
      LoadedServer plainRules sampleServerFields config :=
  server_loaded_of_ok (by decide +kernel)

theorem sample_server_round_trip : ∃ config,
    loadServerConfig plainRules (filesOf sampleServerFields) [] = .ok config ∧
      loadServerConfig plainRules
        (((serverShellOf sampleServerFields).loadConfig plainRules []).saveConfig []).files [] =
          .ok config := by
  obtain ⟨config, accepted, _⟩ := sample_server_loaded
  have holds := @server_load_config plainRules config (serverShellOf sampleServerFields) [] accepted
  have both := server_config_round_trip_iff plainRules (filesOf sampleServerFields) [] []
    sampleServerFields config ((serverShellOf sampleServerFields).loadConfig plainRules []) rfl
    accepted holds
  have plain : PlainServer sampleServerFields := ⟨⟨[], rfl, rfl⟩, rfl⟩
  exact ⟨config, accepted, both.1.mpr plain⟩

/-- A configuration with a proxy is accepted, but its file is not. -/
theorem proxy_config_not_reloaded :
    ¬ ∀ (rules : UrlRules) (files : Files) (path target : Text) (fields : List (Text × Json))
      (config : ServerConfig) (shell : ServerShell), files path = some (.object fields) →
      loadServerConfig rules files path = .ok config → shell.config = some config →
        loadServerConfig rules (shell.saveConfig target).files target = .ok config ∧
          loadServerConfig rules (shell.exportConfig target).files target = .ok config := by
  intro always
  obtain ⟨config, accepted, loaded⟩ :=
    @server_loaded_of_ok plainRules proxyFields (by decide +kernel)
  have holds := @server_load_config plainRules config (serverShellOf proxyFields) [] accepted
  have again := (always plainRules (filesOf proxyFields) [] [] proxyFields config
    ((serverShellOf proxyFields).loadConfig plainRules []) rfl accepted holds).1
  obtain ⟨⟨raw, given, empty⟩, _⟩ := (reload_server_iff loaded (server_save_file holds [])).mp again
  cases given
  have some : strip (literal "socks5://127.0.0.1:40000") ≠ [] := by decide +kernel
  exact some empty

end Server

end Astrix
