import Astrix.ConfigFiles
import Astrix.Library.StepMachine

/-!
# The configuration menu of the client's shell

The shell loads a configuration, its menus edit it field by field, and it is
written to files. The edits check less than the loader does, so an entry may be
taken that no file with it is loaded again. What `Prompt.ask` and `Confirm.ask`
return are the arguments of an action; an `int` that raises ends the shell.
-/

namespace Astrix

open PyRuntime

set_option autoImplicit false

section Reload

variable {fields : List (Text × Json)} {config : ClientConfig Text}

/-- The configuration is one that the loader can come to, without relay URLs. -/
structure Reloadable (config : ClientConfig Text) : Prop where
  portRange : 1 ≤ config.socksPort ∧ config.socksPort ≤ 65535
  socksUser : strip config.socksUser = config.socksUser
  socksPass : strip config.socksPass = config.socksPass
  credentials : config.socksUser = [] ↔ config.socksPass = []
  sniHosts : SniList config.sniHosts
  relayUrls : config.relayUrls = .array []
  someKey : config.scriptKeys ≠ []
  scriptKeys : KeptKeys [] config.scriptKeys
  tunnelKey : strip config.tunnelKey = config.tunnelKey
  keyLoaded : LoadedKey clientPlaceholder config.tunnelKey
  coalesce : 0 ≤ config.coalesceStepMs
  slots : 1 ≤ config.idleSlotsPerBucket ∧ config.idleSlotsPerBucket ≤ 3

theorem saved_keys_given {entries : List (ScriptKeyEntry Text)} :
    (Json.array (entries.map savedScriptKey)).truthy = true ↔ entries ≠ [] := by
  rw [Json.truthy, List.isEmpty_map, Bool.not_eq_true', List.isEmpty_eq_false_iff]

/-- A configuration is read from its own file exactly when it is of that kind. -/
theorem reloadable_iff : LoadedClient config.saved config ↔ Reloadable config := by
  have saved := client_saved config
  constructor
  · intro loaded
    have none : config.relayUrls = .array [] := loaded.relayUrls.trans saved.relayUrls
    have noRelays : ¬ config.relayUrls.truthy = true := by
      rw [none]
      decide
    have keys := loaded.scriptKeys
    rw [if_neg noRelays, saved.scriptKeys] at keys
    obtain ⟨user, isUser, trimmedUser⟩ := loaded.socksUser
    obtain ⟨pass, isPass, trimmedPass⟩ := loaded.socksPass
    obtain ⟨key, isKey, trimmedKey⟩ := loaded.tunnelKey
    obtain ⟨slots, isSlots, low, high, same⟩ := loaded.slots
    rw [saved.socksUser] at isUser
    rw [saved.socksPass] at isPass
    rw [saved.tunnelKey] at isKey
    cases isUser
    cases isPass
    cases isKey
    refine {
      portRange := loaded.portRange, socksUser := trimmedUser, socksPass := trimmedPass
      credentials := loaded.credentials, sniHosts := parse_sni_list loaded.sniHosts
      relayUrls := none, someKey := saved_keys_given.mp keys.1
      scriptKeys := parse_keys_kept keys.2, tunnelKey := trimmedKey
      keyLoaded := loaded.keyLoaded, coalesce := loaded.coalesceRange, slots := ?_ }
    rw [same]
    split_ifs <;> omega
  · intro given
    have noRelays : ¬ config.relayUrls.truthy = true := by
      rw [given.relayUrls]
      decide
    refine {
      socksHost := saved.socksHost.symm, socksPort := ?_, portRange := given.portRange
      socksUser := ⟨config.socksUser, saved.socksUser, given.socksUser⟩
      socksPass := ⟨config.socksPass, saved.socksPass, given.socksPass⟩
      credentials := given.credentials, googleHost := saved.googleHost.symm, sniHosts := ?_
      relayUrls := given.relayUrls.trans saved.relayUrls.symm, scriptKeys := ?_
      tunnelKey := ⟨config.tunnelKey, saved.tunnelKey, given.tunnelKey⟩
      keyLoaded := given.keyLoaded, debugTiming := ?_, coalesce := ?_
      coalesceRange := given.coalesce
      slots := ⟨config.idleSlotsPerBucket, ?_, by have low := given.slots.1; omega,
        given.slots.2, ?_⟩ }
    · rw [saved.socksPort, Json.toInt]
    · rw [saved.sni]
      exact given.sniHosts.parse
    · rw [if_neg noRelays, saved.scriptKeys]
      exact ⟨saved_keys_given.mpr given.someKey, saved_parses given.scriptKeys⟩
    · rw [saved.debugTiming, Json.truthy]
    · rw [saved.coalesce, Json.toInt]
    · rw [saved.slots, Json.toInt]
    · have low := given.slots.1
      rw [if_pos (by omega)]

theorem load_reloadable (loaded : LoadedClient fields config) :
    Reloadable config ↔ config.relayUrls = .array [] := by
  rw [← reloadable_iff, load_saved_client loaded]

end Reload

/-- What `secrets.token_hex(32)` draws. -/
abbrev RandomKey := {bytes : Bytes // bytes.length = 32}

def comma : CodePoint := 44

/-- The server names of an entry, `[h.strip() for h in sni_str.split(",") if h.strip()]`. -/
def enteredHosts (sni : Text) : List Text :=
  ((sni.splitOn comma).map strip).filter fun host => host ≠ []

def enteredKey (id account : Text) : ScriptKeyEntry Text where
  id := strip id
  account := strip account

/-- The edits of the menu. A host that is not entered is kept as it is. -/
inductive ConfigEdit where
  | socks (host : Option Text) (port : Text) (auth : Option (Text × Text))
  | google (host : Option Text) (sni : Text)
  | addKey (id account : Text)
  | removeKey (number : Text)
  | generateKey (random : RandomKey)
  | enterKey (key : Text)
  | toggleTiming
  | coalesce (value : Text)
  | slots (value : Text)

namespace ClientConfig

variable (config : ClientConfig Text)

/-- `_edit_socks`. -/
def editSocks (host : Option Text) (port : Text) (auth : Option (Text × Text)) :
    Option (ClientConfig Text) :=
  (parseInt port).map fun port =>
    let (user, pass) := auth.getD ([], [])
    { config with
      socksHost := (host.map Json.string).getD config.socksHost
      socksPort := port
      socksUser := user
      socksPass := pass }

/-- `_edit_google`. -/
def editGoogle (host : Option Text) (sni : Text) : ClientConfig Text :=
  { config with
    googleHost := (host.map Json.string).getD config.googleHost
    sniHosts := enteredHosts sni }

/-- Choice `r` of `_manage_script_keys`. -/
def removeScriptKey (number : Text) : Option (ClientConfig Text) :=
  (parseInt number).map fun entered =>
    let idx : Int := entered - 1
    if 0 ≤ idx ∧ idx < config.scriptKeys.length then
      { config with scriptKeys := config.scriptKeys.eraseIdx idx.toNat }
    else config

/-- `_set_tunnel_key` with a key that is entered. -/
def enterTunnelKey (key : Text) : ClientConfig Text :=
  if key.length = 64 ∧ fromHex key ≠ none then { config with tunnelKey := key } else config

/-- `_set_coalesce`. -/
def setCoalesce (value : Text) : Option (ClientConfig Text) :=
  (parseInt value).map fun value => { config with coalesceStepMs := max 0 value }

/-- `_set_idle_slots`. -/
def setIdleSlots (value : Text) : Option (ClientConfig Text) :=
  (parseInt value).map fun value =>
    { config with idleSlotsPerBucket := max 0 (min 3 value) }

def edit : ConfigEdit → Option (ClientConfig Text)
  | .socks host port auth => config.editSocks host port auth
  | .google host sni => some (config.editGoogle host sni)
  | .addKey id account =>
      some { config with scriptKeys := config.scriptKeys ++ [enteredKey id account] }
  | .removeKey number => config.removeScriptKey number
  | .generateKey random => some { config with tunnelKey := toHex random.val }
  | .enterKey key => some (config.enterTunnelKey key)
  | .toggleTiming => some { config with debugTiming := !config.debugTiming }
  | .coalesce value => config.setCoalesce value
  | .slots value => config.setIdleSlots value

end ClientConfig

/-- A port that the loader takes, and a user and a password that it takes together. -/
structure SocksEntries (port : Text) (auth : Option (Text × Text)) : Prop where
  port : ∃ number, parseInt port = some number ∧ 1 ≤ number ∧ number ≤ 65535
  login : ∀ user pass, auth = some (user, pass) →
    strip user = user ∧ strip pass = pass ∧ (user = [] ↔ pass = [])

/-- There is a server name in the entry. -/
def SniEntry (sni : Text) : Prop := ∃ part ∈ sni.splitOn comma, strip part ≠ []

/-- The entry is one that the loader would take. -/
def ConfigEdit.Sound (config : ClientConfig Text) : ConfigEdit → Prop
  | .socks _ port auth => SocksEntries port auth
  | .google _ sni => SniEntry sni
  | .addKey id _ =>
      Canonical (strip id) ∧ strip id ∉ config.scriptKeys.map ScriptKeyEntry.id
  | .removeKey number => ∀ n, parseInt number = some n → 1 ≤ n → n ≤ config.scriptKeys.length →
      2 ≤ config.scriptKeys.length
  | .enterKey key => key.length = 64 → fromHex key ≠ none → strip key = key
  | .slots value => ∀ n, parseInt value = some n → 1 ≤ n
  | .generateKey _ | .toggleTiming | .coalesce _ => True

section Edits

variable {config : ClientConfig Text}

theorem entered_hosts_sni {sni : Text} :
    SniList (enteredHosts sni) ↔ SniEntry sni := by
  have members : ∀ host, host ∈ enteredHosts sni ↔
      ∃ part ∈ sni.splitOn comma, strip part = host ∧ host ≠ [] := by
    intro host
    simp only [enteredHosts, List.mem_filter, List.mem_map, decide_eq_true_eq]
    constructor
    · intro given
      rcases given with ⟨⟨part, inside, same⟩, some⟩
      exact ⟨part, inside, same, some⟩
    · intro given
      rcases given with ⟨part, inside, same, some⟩
      exact ⟨⟨part, inside, same⟩, some⟩
  constructor
  · intro list
    obtain ⟨host, member⟩ := List.exists_mem_of_ne_nil _ list.some
    obtain ⟨part, inside, same, some⟩ := (members host).mp member
    exact ⟨part, inside, same ▸ some⟩
  · intro given
    rcases given with ⟨part, inside, some⟩
    refine ⟨List.ne_nil_of_mem ((members _).mpr ⟨part, inside, rfl, some⟩), ?_⟩
    intro host member
    obtain ⟨other, _, rfl, kept⟩ := (members host).mp member
    exact ⟨strip_strip other, kept⟩

/-- A key behind the others. -/
theorem kept_keys_append {entries : List (ScriptKeyEntry Text)} (kept : KeptKeys [] entries)
    (id account : Text) :
    KeptKeys [] (entries ++ [enteredKey id account]) ↔
      Canonical (strip id) ∧ strip id ∉ entries.map ScriptKeyEntry.id := by
  have last : ∀ {P : ScriptKeyEntry Text → Prop}, (∀ entry ∈ entries, P entry) →
      P (enteredKey id account) → ∀ entry ∈ entries ++ [enteredKey id account], P entry := by
    intro P all new entry member
    rcases List.mem_append.mp member with old | added
    · exact all entry old
    · cases List.mem_singleton.mp added
      exact new
  constructor
  · intro both
    have distinct := both.distinct
    rw [List.map_append, List.map_singleton, List.nodup_append] at distinct
    refine ⟨both.canonical _ (List.mem_append_right _ (List.mem_singleton_self _)), ?_⟩
    intro again
    exact distinct.2.2 _ again _ (List.mem_singleton_self _) rfl
  · intro given
    rcases given with ⟨canonical, new⟩
    refine ⟨last kept.canonical canonical, last kept.trimmed (strip_strip account),
      fun _ _ => List.not_mem_nil, ?_⟩
    rw [List.map_append, List.map_singleton, List.nodup_append]
    refine ⟨kept.distinct, List.nodup_singleton _, ?_⟩
    intro old member added isAdded same
    rw [same, List.mem_singleton.mp isAdded] at member
    exact new member

theorem kept_keys_erase {entries : List (ScriptKeyEntry Text)} (kept : KeptKeys [] entries)
    (index : Nat) : KeptKeys [] (entries.eraseIdx index) := by
  have part := List.eraseIdx_sublist entries index
  refine ⟨?_, ?_, fun _ _ => List.not_mem_nil, kept.distinct.sublist (part.map _)⟩
  · exact fun entry member => kept.canonical entry (part.subset member)
  · exact fun entry member => kept.trimmed entry (part.subset member)

theorem hex_text_strip {text : Text} (digits : ∀ point ∈ text, isHexDigit point = true) :
    strip text = text := by
  apply trim_self
  intro point member
  have digit := digits point member
  unfold isHexDigit hexValue at digit
  simp only [isSpace, isAsciiSpace, isWideSpace, Bool.or_eq_false_iff, Bool.and_eq_false_iff,
    decide_eq_false_iff_not, List.contains_eq_mem, List.mem_cons, List.not_mem_nil, or_false]
  split_ifs at digit
  · omega
  · omega
  · omega
  · cases digit

theorem long_not_placeholder {key : Text} (long : key.length = 64) :
    key ≠ literal clientPlaceholder := by
  intro same
  have short : (literal clientPlaceholder).length ≠ 64 := by decide +kernel
  exact short (same ▸ long)

theorem token_key_loaded (random : RandomKey) :
    strip (toHex random.val) = toHex random.val ∧
      LoadedKey clientPlaceholder (toHex random.val) := by
  have long : (toHex random.val).length = 64 := by rw [to_hex_length, random.property]
  exact ⟨hex_text_strip (to_hex_digits random.val), long_not_placeholder long, long, _,
    from_hex_to_hex random.val⟩

variable {config' : ClientConfig Text}

/-- The part of a configuration that the entries for SOCKS decide. -/
theorem socks_entries_iff {port : Text} {auth : Option (Text × Text)} {number : Int}
    (entered : parseInt port = some number) :
    SocksEntries port auth ↔
      (1 ≤ number ∧ number ≤ 65535) ∧ strip (auth.getD ([], [])).1 = (auth.getD ([], [])).1 ∧
        strip (auth.getD ([], [])).2 = (auth.getD ([], [])).2 ∧
          ((auth.getD ([], [])).1 = [] ↔ (auth.getD ([], [])).2 = []) := by
  constructor
  · intro sound
    obtain ⟨port', isPort, range⟩ := sound.port
    cases entered.symm.trans isPort
    cases auth with
    | none => exact ⟨range, rfl, rfl, Iff.rfl⟩
    | some given => exact ⟨range, sound.login given.1 given.2 rfl⟩
  · intro given
    rcases given with ⟨range, login⟩
    refine ⟨⟨number, entered, range⟩, fun user pass isAuth => ?_⟩
    subst isAuth
    exact login

theorem edit_socks_iff (reloadable : Reloadable config) {host : Option Text} {port : Text}
    {auth : Option (Text × Text)} (edited : config.editSocks host port auth = some config') :
    Reloadable config' ↔ SocksEntries port auth := by
  obtain ⟨number, entered, rfl⟩ := Option.map_eq_some_iff.mp edited
  rw [socks_entries_iff entered]
  constructor
  · exact fun after => ⟨after.portRange, after.socksUser, after.socksPass, after.credentials⟩
  · intro sound
    rcases sound with ⟨range, user, pass, both⟩
    exact { reloadable with
      portRange := range, socksUser := user, socksPass := pass, credentials := both }

theorem add_key_iff (reloadable : Reloadable config) (id account : Text) :
    Reloadable { config with scriptKeys := config.scriptKeys ++ [enteredKey id account] } ↔
      ConfigEdit.Sound config (.addKey id account) := by
  rw [ConfigEdit.Sound, ← kept_keys_append reloadable.scriptKeys id account]
  refine ⟨fun after => after.scriptKeys, fun kept => ?_⟩
  exact { reloadable with someKey := List.append_ne_nil_of_left_ne_nil reloadable.someKey _
                          scriptKeys := kept }

/-- Only the last key must not be taken away. -/
theorem remove_key_iff (reloadable : Reloadable config) {number : Text}
    (edited : config.removeScriptKey number = some config') :
    Reloadable config' ↔ ConfigEdit.Sound config (.removeKey number) := by
  obtain ⟨entered, isNumber, same⟩ := Option.map_eq_some_iff.mp edited
  have known : ConfigEdit.Sound config (.removeKey number) ↔
      (1 ≤ entered → entered ≤ config.scriptKeys.length → 2 ≤ config.scriptKeys.length) := by
    constructor
    · exact fun sound => sound entered isNumber
    · intro sound n isEntered
      cases isNumber.symm.trans isEntered
      exact sound
  rw [known]
  have some := List.length_pos_iff.mpr reloadable.someKey
  dsimp only at same
  split_ifs at same with inside
  · subst same
    have shorter : (config.scriptKeys.eraseIdx (entered - 1).toNat).length =
        config.scriptKeys.length - 1 := List.length_eraseIdx_of_lt (by omega)
    constructor
    · intro after _ _
      have left : 0 < (config.scriptKeys.eraseIdx (entered - 1).toNat).length :=
        List.length_pos_iff.mpr after.someKey
      omega
    · intro sound
      have two := sound (by omega) (by omega)
      have left : config.scriptKeys.eraseIdx (entered - 1).toNat ≠ [] := by
        rw [← List.length_pos_iff]
        omega
      exact { reloadable with
        someKey := left, scriptKeys := kept_keys_erase reloadable.scriptKeys _ }
  · subst same
    exact iff_of_true reloadable fun low high => absurd ⟨by omega, by omega⟩ inside

theorem enter_key_iff (reloadable : Reloadable config) (key : Text) :
    Reloadable (config.enterTunnelKey key) ↔ ConfigEdit.Sound config (.enterKey key) := by
  rw [ClientConfig.enterTunnelKey, ConfigEdit.Sound]
  split_ifs with given
  · rcases given with ⟨long, read⟩
    constructor
    · exact fun after _ _ => after.tunnelKey
    · intro sound
      have loaded : LoadedKey clientPlaceholder key :=
        ⟨long_not_placeholder long, long, Option.ne_none_iff_exists'.mp read⟩
      exact { reloadable with tunnelKey := sound long read, keyLoaded := loaded }
  · exact iff_of_true reloadable fun long read => absurd ⟨long, read⟩ given

/-- The exact condition under which an edit leaves a configuration that its file is
read as. -/
theorem edit_reloadable_iff (reloadable : Reloadable config) {change : ConfigEdit}
    (edited : config.edit change = some config') :
    Reloadable config' ↔ change.Sound config := by
  cases change with
  | socks host port auth => exact edit_socks_iff reloadable edited
  | google host sni =>
      cases edited
      rw [ConfigEdit.Sound, ← entered_hosts_sni]
      exact ⟨fun after => after.sniHosts, fun list => { reloadable with sniHosts := list }⟩
  | addKey id account =>
      cases edited
      exact add_key_iff reloadable id account
  | removeKey number => exact remove_key_iff reloadable edited
  | generateKey random =>
      cases edited
      obtain ⟨trimmed, loaded⟩ := token_key_loaded random
      exact iff_of_true { reloadable with tunnelKey := trimmed, keyLoaded := loaded } trivial
  | enterKey key =>
      cases edited
      exact enter_key_iff reloadable key
  | toggleTiming =>
      cases edited
      exact iff_of_true { reloadable with } trivial
  | coalesce value =>
      obtain ⟨number, _, rfl⟩ := Option.map_eq_some_iff.mp edited
      exact iff_of_true { reloadable with coalesce := Int.le_max_left 0 number } trivial
  | slots value =>
      obtain ⟨number, isNumber, rfl⟩ := Option.map_eq_some_iff.mp edited
      constructor
      · intro after n entered
        cases isNumber.symm.trans entered
        have low : 1 ≤ max 0 (min 3 number) := after.slots.1
        omega
      · intro sound
        have low := sound number isNumber
        have range : 1 ≤ max 0 (min 3 number) ∧ max 0 (min 3 number) ≤ 3 := by omega
        exact { reloadable with slots := range }

end Edits

section Wizard

/-- `ClientConfig()`. -/
def ClientConfig.default : ClientConfig Text where
  socksHost := .string (literal "127.0.0.1")
  socksPort := 1080
  socksUser := []
  socksPass := []
  googleHost := .string (literal "216.239.38.120")
  sniHosts := defaultSni
  scriptKeys := []
  tunnelKey := []
  relayUrls := .array []
  debugTiming := false
  coalesceStepMs := 0
  idleSlotsPerBucket := 2

/-- What the setup wizard is told; the keys end with the first empty id. -/
structure WizardEntries where
  socksHost : Text
  socksPort : Text
  auth : Option (Text × Text)
  googleHost : Text
  sni : Text
  keys : List (Text × Text)
  tunnelKey : RandomKey ⊕ Text
  coalesce : Text
  slots : Text
  path : Text

namespace WizardEntries

variable (entries : WizardEntries)

def scriptKeys : List (ScriptKeyEntry Text) :=
  (entries.keys.takeWhile fun key => key.1 ≠ []).map fun key => enteredKey key.1 key.2

def enteredTunnelKey : Text :=
  match entries.tunnelKey with
  | .inl random => toHex random.val
  | .inr key => key

/-- The configuration when the script keys are entered. -/
def begun (port : Int) : ClientConfig Text :=
  let (user, pass) := entries.auth.getD ([], [])
  { ClientConfig.default with
    socksHost := .string entries.socksHost
    socksPort := port
    socksUser := user
    socksPass := pass
    googleHost := .string entries.googleHost
    sniHosts := enteredHosts entries.sni
    scriptKeys := entries.scriptKeys }

def finished (port coalesce slots : Int) : ClientConfig Text :=
  { entries.begun port with
    tunnelKey := entries.enteredTunnelKey
    coalesceStepMs := coalesce
    idleSlotsPerBucket := slots }

/-- The entries are such as the loader would take. -/
structure Sound : Prop where
  socks : SocksEntries entries.socksPort entries.auth
  sni : SniEntry entries.sni
  someKey : entries.scriptKeys ≠ []
  scriptKeys : KeptKeys [] entries.scriptKeys
  tunnelKey : strip entries.enteredTunnelKey = entries.enteredTunnelKey
  keyLoaded : LoadedKey clientPlaceholder entries.enteredTunnelKey
  coalesce : ∃ number, parseInt entries.coalesce = some number ∧ 0 ≤ number
  slots : ∃ number, parseInt entries.slots = some number ∧ 1 ≤ number ∧ number ≤ 3

variable {entries}

theorem finished_reloadable_iff {port coalesce slots : Int}
    (isPort : parseInt entries.socksPort = some port)
    (isCoalesce : parseInt entries.coalesce = some coalesce)
    (isSlots : parseInt entries.slots = some slots) :
    Reloadable (entries.finished port coalesce slots) ↔ entries.Sound := by
  have socks := @socks_entries_iff entries.socksPort entries.auth port isPort
  constructor
  · intro after
    exact {
      socks := socks.mpr ⟨after.portRange, after.socksUser, after.socksPass, after.credentials⟩
      sni := entered_hosts_sni.mp after.sniHosts, someKey := after.someKey
      scriptKeys := after.scriptKeys, tunnelKey := after.tunnelKey
      keyLoaded := after.keyLoaded, coalesce := ⟨coalesce, isCoalesce, after.coalesce⟩
      slots := ⟨slots, isSlots, after.slots⟩ }
  · intro sound
    obtain ⟨range, user, pass, both⟩ := socks.mp sound.socks
    obtain ⟨coalesce', isCoalesce', nonneg⟩ := sound.coalesce
    obtain ⟨slots', isSlots', few⟩ := sound.slots
    cases isCoalesce.symm.trans isCoalesce'
    cases isSlots.symm.trans isSlots'
    exact {
      portRange := range, socksUser := user, socksPass := pass, credentials := both
      sniHosts := entered_hosts_sni.mpr sound.sni, relayUrls := rfl, someKey := sound.someKey
      scriptKeys := sound.scriptKeys, tunnelKey := sound.tunnelKey
      keyLoaded := sound.keyLoaded, coalesce := nonneg, slots := few }

end WizardEntries

end Wizard

inductive MenuAction where
  | load (path : Text)
  | edit (change : ConfigEdit)
  | save (path : Text)
  | exportTo (path : Text)
  | wizard (entries : WizardEntries)

namespace ClientShell

variable (shell : ClientShell)

/-- `_setup_wizard`; without a script key nothing is written. -/
def setupWizard (entries : WizardEntries) : Option ClientShell := do
  let port ← parseInt entries.socksPort
  if entries.scriptKeys = [] then some { shell with config := some (entries.begun port) }
  else
    let coalesce ← parseInt entries.coalesce
    let slots ← parseInt entries.slots
    let config := entries.finished port coalesce slots
    some {
      config := some config
      configPath := entries.path
      files := shell.files.write entries.path (.object config.saved) }

/-- An edit, for which there must be a configuration. -/
def editConfig (change : ConfigEdit) : Option ClientShell :=
  match shell.config with
  | some config => (config.edit change).map fun config => { shell with config := some config }
  | none => some shell

/-- `_import_config` does what `_load_config` does. -/
def menu : MenuAction → Option ClientShell
  | .load path => some (shell.loadConfig path)
  | .edit change => shell.editConfig change
  | .save path => some (shell.saveConfig path)
  | .exportTo path => some (shell.exportConfig path)
  | .wizard entries => shell.setupWizard entries

/-- The configuration can be saved and loaded again. -/
def Reloads : Prop := ∀ config, shell.config = some config → Reloadable config

end ClientShell

def clientMenu : StepMachine ClientShell MenuAction := ⟨ClientShell.menu⟩

/-- A file with relay URLs cannot be written again; every other entry is judged by
itself. -/
def MenuAction.Sound (shell : ClientShell) : MenuAction → Prop
  | .load path => ∀ config, loadClientConfig shell.files path = .ok config →
      config.relayUrls = .array []
  | .edit change => ∀ config, shell.config = some config → change.Sound config
  | .wizard entries => entries.Sound
  | .save _ | .exportTo _ => True

/-- Every file is as it was before, or one that the loader takes. -/
def FilesLoad (before files : Files) : Prop :=
  ∀ target, files target = before target ∨ ∃ config, loadClientConfig files target = .ok config

section Menu

variable {shell later : ClientShell} {action : MenuAction} {before : Files}

theorem load_config_loaded {files : Files} {path : Text} {config : ClientConfig Text}
    (accepted : loadClientConfig files path = .ok config) :
    Reloadable config ↔ config.relayUrls = .array [] := by
  obtain ⟨data, _, read⟩ := (bind_ok_iff _ _ _).mp accepted
  cases data with
  | object fields => exact load_reloadable (read_client_iff.mp read)
  | null | bool | integer | real | infinite | string | array => cases read

theorem load_reloads_iff (reloads : shell.Reloads) (path : Text) :
    (shell.loadConfig path).Reloads ↔ MenuAction.Sound shell (.load path) := by
  unfold ClientShell.loadConfig
  cases loaded : loadClientConfig shell.files path with
  | error error =>
      refine iff_of_true reloads fun config accepted => ?_
      cases loaded.symm.trans accepted
  | ok config =>
      have both := load_config_loaded loaded
      constructor
      · intro after other accepted
        cases loaded.symm.trans accepted
        exact both.mp (after config rfl)
      · intro sound other holds
        cases holds
        exact both.mpr (sound config loaded)

theorem edit_reloads_iff (reloads : shell.Reloads) {change : ConfigEdit}
    (stepped : shell.editConfig change = some later) :
    later.Reloads ↔ MenuAction.Sound shell (.edit change) := by
  unfold ClientShell.editConfig at stepped
  cases held : shell.config with
  | none =>
      rw [held] at stepped
      cases stepped
      refine iff_of_true reloads fun config holds => ?_
      cases held.symm.trans holds
  | some config =>
      rw [held] at stepped
      obtain ⟨config', edited, rfl⟩ := Option.map_eq_some_iff.mp stepped
      have decided := edit_reloadable_iff (reloads config held) edited
      constructor
      · intro after other holds
        cases held.symm.trans holds
        exact decided.mp (after config' rfl)
      · intro sound other holds
        cases holds
        exact decided.mpr (sound config held)

theorem save_config_held (path : Text) : (shell.saveConfig path).config = shell.config := by
  unfold ClientShell.saveConfig
  split <;> rfl

theorem export_config_held (path : Text) : (shell.exportConfig path).config = shell.config := by
  unfold ClientShell.exportConfig
  split <;> rfl

theorem wizard_reloads_iff {entries : WizardEntries}
    (stepped : shell.setupWizard entries = some later) : later.Reloads ↔ entries.Sound := by
  obtain ⟨port, isPort, stepped⟩ := Option.bind_eq_some_iff.mp stepped
  split_ifs at stepped with none
  · cases stepped
    refine iff_of_false (fun reloads => ?_) fun sound => sound.someKey none
    exact (reloads _ rfl).someKey none
  · obtain ⟨coalesce, isCoalesce, stepped⟩ := Option.bind_eq_some_iff.mp stepped
    obtain ⟨slots, isSlots, same⟩ := Option.bind_eq_some_iff.mp stepped
    cases same
    rw [← WizardEntries.finished_reloadable_iff isPort isCoalesce isSlots]
    constructor
    · exact fun reloads => reloads _ rfl
    · intro reloadable config holds
      cases holds
      exact reloadable

/-- The exact condition under which an action leaves a configuration that can be
saved and loaded again. -/
theorem menu_reloads_iff (reloads : shell.Reloads) (stepped : shell.menu action = some later) :
    later.Reloads ↔ action.Sound shell := by
  cases action with
  | load path =>
      cases stepped
      exact load_reloads_iff reloads path
  | edit change => exact edit_reloads_iff reloads stepped
  | save path =>
      cases stepped
      refine iff_of_true (fun config holds => ?_) trivial
      rw [save_config_held] at holds
      exact reloads config holds
  | exportTo path =>
      cases stepped
      refine iff_of_true (fun config holds => ?_) trivial
      rw [export_config_held] at holds
      exact reloads config holds
  | wizard entries => exact wizard_reloads_iff stepped

/-- What a configuration that can be loaded again is written to is loaded. -/
theorem saved_file_loads {files : Files} {config : ClientConfig Text} {target : Text}
    (reloadable : Reloadable config) (written : files target = some (.object config.saved)) :
    loadClientConfig files target = .ok config := by
  rw [load_client_iff written, read_client_iff]
  exact reloadable_iff.mpr reloadable

/-- It is the meaning of `Reloads` that what is held is loaded from where it is saved. -/
theorem reloads_iff : shell.Reloads ↔ ∀ config target, shell.config = some config →
    loadClientConfig (shell.saveConfig target).files target = .ok config := by
  constructor
  · intro reloads config target holds
    exact saved_file_loads (reloads config holds) (client_save_file holds target)
  · intro again config holds
    have loaded := again config [] holds
    rw [load_client_iff (client_save_file holds []), read_client_iff] at loaded
    exact reloadable_iff.mp loaded

theorem load_same_file {files other : Files} {target : Text} (same : files target = other target) :
    loadClientConfig files target = loadClientConfig other target := by
  rw [loadClientConfig, loadClientConfig, readFile, readFile, same]

theorem files_load_write {files : Files} {config : ClientConfig Text}
    (fine : FilesLoad before files) (reloadable : Reloadable config) (path : Text) :
    FilesLoad before (files.write path (.object config.saved)) := by
  intro target
  by_cases here : target = path
  · subst here
    exact .inr ⟨config, saved_file_loads reloadable (files_write_same ..)⟩
  · have same : files.write path (.object config.saved) target = files target :=
      Function.update_of_ne here ..
    rw [load_same_file same, same]
    exact fine target

theorem menu_files_load (reloads : shell.Reloads) (sound : action.Sound shell)
    (fine : FilesLoad before shell.files) (stepped : shell.menu action = some later) :
    FilesLoad before later.files := by
  have after := (menu_reloads_iff reloads stepped).mpr sound
  cases action with
  | load path =>
      cases stepped
      unfold ClientShell.loadConfig
      split <;> exact fine
  | edit change =>
      unfold ClientShell.menu ClientShell.editConfig at stepped
      dsimp only at stepped
      split at stepped
      · obtain ⟨config, _, rfl⟩ := Option.map_eq_some_iff.mp stepped
        exact fine
      · cases stepped
        exact fine
  | save path =>
      cases stepped
      unfold ClientShell.saveConfig
      split
      · next config held => exact files_load_write fine (reloads config held) path
      · exact fine
  | exportTo path =>
      cases stepped
      unfold ClientShell.exportConfig
      split
      · next config held => exact files_load_write fine (reloads config held) path
      · exact fine
  | wizard entries =>
      obtain ⟨port, _, stepped⟩ := Option.bind_eq_some_iff.mp stepped
      split_ifs at stepped with none
      · cases stepped
        exact fine
      · obtain ⟨coalesce, _, stepped⟩ := Option.bind_eq_some_iff.mp stepped
        obtain ⟨slots, _, same⟩ := Option.bind_eq_some_iff.mp stepped
        cases same
        exact files_load_write fine (after _ rfl) entries.path

/-- In every session of sound entries, what the shell holds is loaded from where it is
saved or exported, and every file it wrote is one that the loader takes; the first
entry that is not sound ends that. -/
theorem menu_session_reloads {files : Files} {configPath : Text} {history : List MenuAction}
    (run : clientMenu.Run (fun shell action => action.Sound shell) ⟨none, configPath, files⟩
      history shell) :
    (∀ config target, shell.config = some config →
        loadClientConfig (shell.saveConfig target).files target = .ok config ∧
          loadClientConfig (shell.exportConfig target).files target = .ok config) ∧
      FilesLoad files shell.files ∧
      ∀ action later, shell.menu action = some later →
        ((∀ config target, later.config = some config →
            loadClientConfig (later.saveConfig target).files target = .ok config) ↔
          action.Sound shell) := by
  obtain ⟨reloads, fine⟩ : shell.Reloads ∧ FilesLoad files shell.files := by
    apply @StepMachine.Run.invariant _ _ _ _ _ _ _
      (fun reached => reached.Reloads ∧ FilesLoad files reached.files) run
    · exact ⟨fun config holds => (by cases holds), fun _ => .inl rfl⟩
    · intro before action after held sound stepped
      exact ⟨(menu_reloads_iff held.1 stepped).mpr sound,
        menu_files_load held.1 sound held.2 stepped⟩
  refine ⟨fun config target holds => ⟨reloads_iff.mp reloads config target holds, ?_⟩, fine, ?_⟩
  · exact saved_file_loads (reloads config holds) (client_export_file holds target)
  · intro action later stepped
    rw [← reloads_iff]
    exact menu_reloads_iff reloads stepped

/-- The sample file is loaded and given a third slot. -/
theorem third_slot_reloads : ∃ (shell : ClientShell) (config : ClientConfig Text),
    clientMenu.Run (fun shell action => action.Sound shell) (clientShellOf sampleClientFields)
        [.load [], .edit (.slots (literal "3"))] shell ∧
      shell.config = some config ∧ config.idleSlotsPerBucket = 3 ∧
      loadClientConfig (shell.saveConfig []).files [] = .ok config := by
  obtain ⟨config, accepted, loaded⟩ := sample_client_loaded
  have held := @client_load_config config (clientShellOf sampleClientFields) [] accepted
  have three : parseInt (literal "3") = some 3 := by decide +kernel
  have loads : MenuAction.Sound (clientShellOf sampleClientFields) (.load []) := by
    intro other again
    cases accepted.symm.trans again
    exact loaded.relayUrls
  have sound : MenuAction.Sound ((clientShellOf sampleClientFields).loadConfig [])
      (.edit (.slots (literal "3"))) := by
    intro _ _ n entered
    cases three.symm.trans entered
    decide
  have edited : ((clientShellOf sampleClientFields).loadConfig []).menu
      (.edit (.slots (literal "3"))) =
        some { (clientShellOf sampleClientFields).loadConfig [] with
          config := some { config with idleSlotsPerBucket := 3 } } := by
    rw [ClientShell.menu, ClientShell.editConfig, held]
    dsimp only
    rw [ClientConfig.edit, ClientConfig.setIdleSlots, three]
    rfl
  have first := @StepMachine.Run.single _ _ clientMenu (fun shell action => action.Sound shell) _ _
    _ loads rfl
  have run := first.next sound edited
  refine ⟨_, _, run, rfl, rfl, ?_⟩
  exact ((menu_session_reloads run).1 _ [] rfl).1

end Menu

end Astrix
