import Astrix.ConfigFields
import Astrix.Library.UrlSplit

/-!
# The server's configuration

`load_server_config` and the two commands of the shell that write the loaded
configuration to a file. The upstream proxy is given as a URL and kept as host
and port.
-/

namespace Astrix

open PyRuntime

set_option autoImplicit false

structure ServerConfig where
  serverHost : Json
  serverPort : Int
  tunnelKey : Text
  upstreamProxy : Text
  debugTiming : Bool
  initialResponseBytesPreEncode : Int

/-- The form in which a proxy is kept. -/
def proxyText (host : Text) (port : Nat) : Text := host ++ literal ":" ++ decimalText port

/-- Port zero counts as none. -/
def proxyPort : Option Nat → Nat
  | some port => if port = 0 then 1080 else port
  | none => 1080

/-- `upstream_proxy`, of which scheme, host and port are looked at. -/
def readUpstreamProxy (rules : UrlRules) (data : Json) : Except LoadError Text := do
  let rawProxy ← readStripped data "upstream_proxy"
  if rawProxy = [] then .ok []
  else
    let parsed ← urlparse rules rawProxy
    failIf (parsed.scheme ≠ literal "socks5")
      (.valueError (literal "upstream_proxy must be socks5:// URL, got '" ++ rawProxy ++
        literal "'"))
    let port ← parsed.port
    .ok (proxyText ((parsed.hostname rules).getD []) (proxyPort port))

def serverPlaceholder : String := "SAME_VALUE_AS_CLIENT_tunnel_key"

def readServerConfig (rules : UrlRules) (data : Json) : Except LoadError ServerConfig := do
  let serverHost ← data.get (literal "server_host") (.string (literal "0.0.0.0"))
  let serverPort ← readPort data "server_port" 8443
  let tunnelKey ← readTunnelKey data serverPlaceholder
    "paste the 64-char key from your client config"
  let upstreamProxy ← readUpstreamProxy rules data
  let debugTiming ← data.get (literal "debug_timing") (.bool false)
  let initialBytes ← readCount data "initial_response_bytes_pre_encode"
  .ok {
    serverHost := serverHost
    serverPort := serverPort
    tunnelKey := tunnelKey
    upstreamProxy := upstreamProxy
    debugTiming := debugTiming.truthy
    initialResponseBytesPreEncode := initialBytes }

/-- `load_server_config`. -/
def loadServerConfig (rules : UrlRules) (files : Files) (path : Text) :
    Except LoadError ServerConfig := do
  let data ← readFile files path "server_config.example.json"
  readServerConfig rules data

/-- What `_save_config` and `_export_config` write. -/
def ServerConfig.saved (config : ServerConfig) : List (Text × Json) :=
  [(literal "server_host", config.serverHost),
    (literal "server_port", .integer config.serverPort),
    (literal "tunnel_key", .string config.tunnelKey),
    (literal "upstream_proxy", .string config.upstreamProxy),
    (literal "debug_timing", .bool config.debugTiming)]

/-- The part of the shell that loading and saving use. -/
structure ServerShell where
  config : Option ServerConfig
  configPath : Text
  files : Files

namespace ServerShell

/-- `_load_config` with the path from the prompt; an exception is shown. -/
def loadConfig (shell : ServerShell) (rules : UrlRules) (path : Text) : ServerShell :=
  match loadServerConfig rules shell.files path with
  | .ok config => { shell with config := some config, configPath := path }
  | .error _ => shell

/-- `_save_config` with the path from the prompt. -/
def saveConfig (shell : ServerShell) (path : Text) : ServerShell :=
  match shell.config with
  | some config =>
      { shell with files := shell.files.write path (.object config.saved), configPath := path }
  | none => shell

/-- `_export_config`; its `upstream_proxy or ""` is the proxy as it is. -/
def exportConfig (shell : ServerShell) (path : Text) : ServerShell :=
  match shell.config with
  | some config => { shell with files := shell.files.write path (.object config.saved) }
  | none => shell

end ServerShell

/-- What the proxy is read from: nothing, or a URL of the scheme. -/
structure ProxyOf (rules : UrlRules) (raw proxy : Text) : Prop where
  none : strip raw = [] → proxy = []
  some : strip raw ≠ [] → ∃ parsed port, urlparse rules (strip raw) = .ok parsed ∧
    parsed.scheme = literal "socks5" ∧ parsed.port = .ok port ∧
      proxy = proxyText ((parsed.hostname rules).getD []) (proxyPort port)

/-- What each field of a loaded configuration is read from. -/
structure LoadedServer (rules : UrlRules) (fields : List (Text × Json)) (config : ServerConfig) :
    Prop where
  serverHost : config.serverHost = field fields "server_host" (.string (literal "0.0.0.0"))
  serverPort : (field fields "server_port" (.integer 8443)).toInt = .ok config.serverPort
  portRange : 1 ≤ config.serverPort ∧ config.serverPort ≤ 65535
  tunnelKey : ∃ raw, field fields "tunnel_key" (.string []) = .string raw ∧
    strip raw = config.tunnelKey
  keyLoaded : LoadedKey serverPlaceholder config.tunnelKey
  upstreamProxy : ∃ raw, field fields "upstream_proxy" (.string []) = .string raw ∧
    ProxyOf rules raw config.upstreamProxy
  debugTiming : config.debugTiming = (field fields "debug_timing" (.bool false)).truthy
  initialBytes : (field fields "initial_response_bytes_pre_encode" (.integer 0)).toInt =
    .ok config.initialResponseBytesPreEncode
  initialRange : 0 ≤ config.initialResponseBytesPreEncode

section Proxies

variable {rules : UrlRules} {raw proxy : Text}

/-- A text with a port, and without slashes. -/
def HostPort (proxy : Text) : Prop :=
  ∃ (host : Text) (port : Nat), 1 ≤ port ∧ port ≤ 65535 ∧ 47 ∉ host ∧ proxy = proxyText host port

theorem proxy_text_free {host : Text} (free : 47 ∉ host) (port : Nat) :
    47 ∉ proxyText host port := by
  intro member
  have colon : (47 : CodePoint) ∉ literal ":" := by decide
  rcases List.mem_append.mp member with front | digit
  · rcases List.mem_append.mp front with inHost | inColon
    · exact free inHost
    · exact colon inColon
  · exact decimal_not_mem port (by decide) digit

theorem proxy_text_nonempty (host : Text) (port : Nat) : proxyText host port ≠ [] := by
  intro empty
  exact decimal_text_nonempty port (List.append_eq_nil_iff.mp empty).2

theorem proxy_port_range {url : SplitUrl} {port : Option Nat} (read : url.port = .ok port) :
    1 ≤ proxyPort port ∧ proxyPort port ≤ 65535 := by
  cases port with
  | none => decide
  | some number =>
      have small : number ≤ 65535 := by
        simp only [SplitUrl.port] at read
        split_ifs at read
        · cases read
        · split at read
          · split_ifs at read with small
            cases read
            exact small
          · cases read
      rw [proxyPort]
      split_ifs <;> omega

/-- What a URL is kept as is a host and a port. -/
theorem ProxyOf.host_port (proxyOf : ProxyOf rules raw proxy) (given : strip raw ≠ []) :
    HostPort proxy := by
  obtain ⟨parsed, port, split, _, isPort, rfl⟩ := proxyOf.some given
  obtain ⟨low, high⟩ := proxy_port_range isPort
  refine ⟨_, _, low, high, ?_, rfl⟩
  cases named : parsed.hostname rules with
  | none => exact List.not_mem_nil
  | some host => exact hostname_free split named

/-- No proxy that was given as a URL is read back as itself: what it is kept as has
no authority, so that neither host nor port would be found in it. -/
theorem HostPort.not_reread (form : HostPort proxy) : ¬ ProxyOf rules proxy proxy := by
  obtain ⟨host, port, _, _, free, rfl⟩ := form
  intro again
  by_cases empty : strip (proxyText host port) = []
  · exact proxy_text_nonempty host port (again.none empty)
  · obtain ⟨parsed, found, split, scheme, isPort, same⟩ := again.some empty
    have freeStrip : 47 ∉ strip (proxyText host port) :=
      fun member => proxy_text_free free port (trim_subset member)
    obtain ⟨noHost, noPort⟩ := parse_without_slash freeStrip split
    rw [noPort] at isPort
    cases isPort
    rw [noHost, Option.getD_none, proxyPort] at same
    have usual : strip (proxyText [] 1080) = 58 :: decimalText 1080 := by decide +kernel
    rw [same, usual] at split
    rw [parse_colon split] at scheme
    cases scheme

end Proxies

section Loader

variable {rules : UrlRules} {fields : List (Text × Json)} {config : ServerConfig}

theorem read_proxy_iff {proxy : Text} :
    readUpstreamProxy rules (.object fields) = .ok proxy ↔
      ∃ raw, field fields "upstream_proxy" (.string []) = .string raw ∧
        ProxyOf rules raw proxy := by
  rw [readUpstreamProxy, bind_ok_iff]
  simp only [read_stripped_iff]
  constructor
  · intro given
    rcases given with ⟨_, ⟨raw, given, rfl⟩, read⟩
    refine ⟨raw, given, ?_⟩
    split_ifs at read with empty
    · cases read
      exact ⟨fun _ => rfl, fun some => absurd empty some⟩
    · simp only [bind_ok_iff, fail_if_ok_iff, exists_const, not_not, Except.ok.injEq] at read
      obtain ⟨parsed, split, scheme, port, isPort, rfl⟩ := read
      exact ⟨fun none => absurd none empty, fun _ => ⟨parsed, port, split, scheme, isPort, rfl⟩⟩
  · intro given
    rcases given with ⟨raw, given, proxyOf⟩
    refine ⟨strip raw, ⟨raw, given, rfl⟩, ?_⟩
    split_ifs with empty
    · rw [proxyOf.none empty]
    · obtain ⟨parsed, port, split, scheme, isPort, rfl⟩ := proxyOf.some empty
      simp only [bind_ok_iff, fail_if_ok_iff, exists_const, not_not, Except.ok.injEq]
      exact ⟨parsed, split, scheme, port, isPort, rfl⟩

theorem read_server_iff :
    readServerConfig rules (.object fields) = .ok config ↔ LoadedServer rules fields config := by
  unfold readServerConfig
  simp only [Json.get_object, bind_ok_iff, Except.ok.injEq, exists_eq_left', read_port_iff,
    read_tunnel_key_iff, read_proxy_iff, read_count_iff]
  constructor
  · intro given
    rcases given with ⟨port, ⟨readPort, portRange⟩, key, ⟨readKey, keyLoaded⟩, proxy, readProxy,
      initial, ⟨readInitial, initialRange⟩, rfl⟩
    exact {
      serverHost := rfl, serverPort := readPort, portRange := portRange, tunnelKey := readKey
      keyLoaded := keyLoaded, upstreamProxy := readProxy, debugTiming := rfl
      initialBytes := readInitial, initialRange := initialRange }
  · intro loaded
    obtain ⟨serverHost, serverPort, tunnelKey, upstreamProxy, debugTiming, initialBytes⟩ := config
    obtain ⟨rfl, readPort, portRange, readKey, keyLoaded, readProxy, rfl, readInitial,
      initialRange⟩ := loaded
    exact ⟨_, ⟨readPort, portRange⟩, _, ⟨readKey, keyLoaded⟩, _, readProxy, _,
      ⟨readInitial, initialRange⟩, rfl⟩

/-- Only an object is loaded. -/
theorem load_server_iff {files : Files} {path : Text} {data : Json}
    (present : files path = some data) :
    loadServerConfig rules files path = .ok config ↔ readServerConfig rules data = .ok config := by
  rw [loadServerConfig, readFile, present]
  rfl

end Loader

end Astrix
