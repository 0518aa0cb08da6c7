import Astrix.Socks5
import Mathlib.Data.List.Induction

/-!
# Authentication of SOCKS clients

What one segment can do to a connection, and from it what holds after any
segments, those that come after a rejection included: with authentication
required nobody gets to a command without valid credentials, and no connection
makes more than one `VirtualConn`.
-/

namespace Astrix

open PyRuntime Socks5Protocol

set_option autoImplicit false

/-- A complete username/password message of a user of the table; anything may
stand behind it. -/
def ValidCredentials (config : SocksConfig) (buf : Bytes) : Prop :=
  ∃ (ulen plen : UInt8) (uname passwd rest : Bytes),
    buf = 0x01 :: ulen :: (uname ++ plen :: (passwd ++ rest)) ∧
      uname.length = ulen.toNat ∧ passwd.length = plen.toNat ∧
        config.users (decodeReplace uname) = some (decodeReplace passwd)

/-- One of the segments completed valid credentials in state 1. -/
def Authenticated (config : SocksConfig) (segments : List Bytes) : Prop :=
  ∃ early data late, segments = early ++ data :: late ∧
    (receive config early).state = .auth ∧
      ValidCredentials config ((receive config early).buffer ++ data)

section Parse

variable {buf : Bytes}

theorem drop_byte {index : Nat} (inside : index < buf.length) :
    buf.drop index = byteOf buf index :: buf.drop (index + 1) := by
  rw [List.drop_eq_getElem_cons inside, byteOf, List.getD_eq_getElem _ _ inside]

/-- `_handle_auth` accepts valid credentials only. -/
theorem auth_advances {config : SocksConfig} {reply : Bytes} {next : SocksState}
    (accepted : handleAuth config buf = .advance reply next) :
    next = .command ∧ ValidCredentials config buf := by
  simp only [handleAuth] at accepted
  split_ifs at accepted with short version name cut wrong
  cases accepted
  obtain ⟨_, known⟩ := not_or.mp wrong
  have first : byteOf buf 0 = 0x01 := not_not.mp version
  have split : buf = 0x01 :: byteOf buf 1 :: (slice buf 2 (2 + (byteOf buf 1).toNat) ++
      byteOf buf (2 + (byteOf buf 1).toNat) ::
        (slice buf (2 + (byteOf buf 1).toNat + 1)
            (2 + (byteOf buf 1).toNat + 1 + (byteOf buf (2 + (byteOf buf 1).toNat)).toNat) ++
          buf.drop
            (2 + (byteOf buf 1).toNat + 1 + (byteOf buf (2 + (byteOf buf 1).toNat)).toNat))) := by
    rw [← drop_slice, ← drop_byte (by omega), ← drop_slice, ← first, ← drop_byte (by omega),
      ← drop_byte (by omega), List.drop_zero]
  exact ⟨rfl, _, _, _, _, _, split, slice_length (by omega),
    slice_length (Nat.not_lt.mp cut), not_not.mp known⟩

end Parse

section Step

variable {config : SocksConfig}

theorem verdict_connects {buf : Bytes} {state : SocksState} {host : Text} {port : Nat}
    (accepted : verdictIn config buf state = .connect host port) : state = .command := by
  cases state with
  | handshake =>
      simp only [verdictIn, handleHandshake] at accepted
      split_ifs at accepted
  | auth =>
      simp only [verdictIn, handleAuth] at accepted
      split_ifs at accepted
  | command => rfl
  | established => cases accepted

theorem command_never_advances (buf reply : Bytes) (next : SocksState) :
    handleCommand buf ≠ .advance reply next := by
  intro accepted
  simp only [handleCommand] at accepted
  split_ifs at accepted
  split at accepted
  · cases accepted
  · split_ifs at accepted

theorem verdict_advances {buf reply : Bytes} {state next : SocksState}
    (accepted : verdictIn config buf state = .advance reply next) :
    (state = .handshake ∧ next = if config.authRequired then .auth else .command) ∨
      (state = .auth ∧ next = .command ∧ ValidCredentials config buf) := by
  cases state with
  | handshake => exact .inl ⟨rfl, handshake_advances accepted⟩
  | auth => exact .inr ⟨rfl, auth_advances accepted⟩
  | command => exact absurd accepted (command_never_advances _ _ _)
  | established => cases accepted

/-- What one segment can do. -/
inductive SegmentEffect (config : SocksConfig) (p : Socks5Protocol) (data : Bytes)
    (later : Socks5Protocol) : Prop where
  | stays (state : later.state = p.state) (created : later.created = p.created)
      (callbacks : later.callbacks = p.callbacks)
  | negotiates (before : p.state = .handshake)
      (state : later.state = if config.authRequired then .auth else .command)
      (created : later.created = p.created) (callbacks : later.callbacks = p.callbacks)
  | authenticates (before : p.state = .auth) (state : later.state = .command)
      (valid : ValidCredentials config (p.buffer ++ data))
      (created : later.created = p.created) (callbacks : later.callbacks = p.callbacks)
  | connects (before : p.state = .command) (state : later.state = .established)
      (target : Text × Nat) (created : later.created = p.created ++ [target])
      (callbacks : later.callbacks = p.callbacks ++ [target])

theorem follow_rejects (p : Socks5Protocol) (reply : Bytes) :
    (p.follow config (.reject reply)).state = p.state ∧
      (p.follow config (.reject reply)).created = p.created ∧
        (p.follow config (.reject reply)).callbacks = p.callbacks := by
  rw [follow, Socks5Protocol.write]
  split_ifs <;> exact ⟨rfl, rfl, rfl⟩

theorem follow_advances (p : Socks5Protocol) (reply : Bytes) (next : SocksState) :
    (p.follow config (.advance reply next)).state = next ∧
      (p.follow config (.advance reply next)).created = p.created ∧
        (p.follow config (.advance reply next)).callbacks = p.callbacks := by
  rw [follow, Socks5Protocol.write]
  split_ifs <;> exact ⟨rfl, rfl, rfl⟩

theorem follow_connects (p : Socks5Protocol) (host : Text) (port : Nat) :
    (p.follow config (.connect host port)).state = .established ∧
      (p.follow config (.connect host port)).created = p.created ++ [(host, port)] ∧
        (p.follow config (.connect host port)).callbacks = p.callbacks ++ [(host, port)] := by
  rw [follow, Socks5Protocol.write]
  split_ifs <;> exact ⟨rfl, rfl, rfl⟩

theorem segment_effect (p : Socks5Protocol) (data : Bytes) :
    SegmentEffect config p data (dataReceived config p data) := by
  by_cases established : p.state = .established
  · rw [dataReceived, if_pos established, handleTunnelData]
    split_ifs <;> exact .stays rfl rfl rfl
  · rw [data_received_open established]
    cases verdict : verdictIn config (p.buffer ++ data) p.state with
    | incomplete => exact .stays rfl rfl rfl
    | reject reply =>
        obtain ⟨state, created, callbacks⟩ :=
          @follow_rejects config { p with buffer := p.buffer ++ data } reply
        exact .stays state created callbacks
    | advance reply next =>
        obtain ⟨state, created, callbacks⟩ :=
          @follow_advances config { p with buffer := p.buffer ++ data } reply next
        rcases verdict_advances verdict with ⟨before, advanced⟩ | ⟨before, advanced, valid⟩
        · exact .negotiates before (state.trans advanced) created callbacks
        · exact .authenticates before (state.trans advanced) valid created callbacks
    | connect host port =>
        obtain ⟨state, created, callbacks⟩ :=
          @follow_connects config { p with buffer := p.buffer ++ data } host port
        exact .connects (verdict_connects verdict) state _ created callbacks

end Step

section Runs

variable {config : SocksConfig}

theorem receive_snoc (segments : List Bytes) (data : Bytes) :
    receive config (segments ++ [data]) = dataReceived config (receive config segments) data := by
  rw [receive, List.foldl_append]
  rfl

theorem Authenticated.later {segments : List Bytes} (done : Authenticated config segments)
    (data : Bytes) : Authenticated config (segments ++ [data]) := by
  obtain ⟨early, valid, late, split, rest⟩ := done
  refine ⟨early, valid, late ++ [data], ?_, rest⟩
  rw [split, List.append_assoc, List.cons_append]

/-- What holds after any segments. -/
structure SocksSound (config : SocksConfig) (segments : List Bytes) (p : Socks5Protocol) :
    Prop where
  authenticated : config.authRequired = true → p.state = .command ∨ p.state = .established →
    Authenticated config segments
  one : p.created.length = if p.state = .established then 1 else 0
  callbacks : p.callbacks.length = p.created.length

theorem socks_sound_step {segments : List Bytes} {p : Socks5Protocol}
    (same : p = receive config segments) (sound : SocksSound config segments p) (data : Bytes) :
    SocksSound config (segments ++ [data]) (dataReceived config p data) := by
  cases segment_effect p data with
  | stays state created callbacks =>
      refine ⟨fun required reached => ?_, ?_, ?_⟩
      · rw [state] at reached
        exact (sound.authenticated required reached).later data
      · rw [created, state]
        exact sound.one
      · rw [callbacks, created]
        exact sound.callbacks
  | negotiates before state created callbacks =>
      have none := sound.one
      rw [before] at none
      refine ⟨fun required reached => ?_, ?_, ?_⟩
      · rw [state, if_pos required] at reached
        rcases reached with impossible | impossible <;> cases impossible
      · rw [created, state, none]
        split_ifs <;> rfl
      · rw [callbacks, created]
        exact sound.callbacks
  | authenticates before state valid created callbacks =>
      have none := sound.one
      rw [before] at none
      refine ⟨fun _ _ => ⟨segments, data, [], rfl, ?_, ?_⟩, ?_, ?_⟩
      · rw [← same]
        exact before
      · rw [← same]
        exact valid
      · rw [created, state, none]
        rfl
      · rw [callbacks, created]
        exact sound.callbacks
  | connects before state target created callbacks =>
      have none := sound.one
      rw [before] at none
      refine ⟨fun required _ => (sound.authenticated required (.inl before)).later data, ?_, ?_⟩
      · rw [created, state, List.length_append, none]
        rfl
      · rw [callbacks, created, List.length_append, List.length_append, sound.callbacks]

theorem receive_sound (config : SocksConfig) (segments : List Bytes) :
    SocksSound config segments (receive config segments) := by
  induction segments using List.reverseRecOn with
  | nil =>
      refine ⟨fun _ reached => ?_, rfl, rfl⟩
      rcases reached with impossible | impossible <;> cases impossible
  | append_singleton segments data ih =>
      rw [receive_snoc]
      exact socks_sound_step rfl ih data

end Runs

/-- With authentication required, a command is taken and a `VirtualConn` is made
only after a segment that completed valid credentials; and in any case there is
at most one `VirtualConn` and one callback. -/
theorem authentication_not_bypassed (config : SocksConfig) (segments : List Bytes) :
    (config.authRequired = true →
      ((receive config segments).state = .command ∨
          (receive config segments).state = .established → Authenticated config segments) ∧
        ∀ data, (receive config (segments ++ [data])).created ≠
            (receive config segments).created → Authenticated config segments) ∧
      (receive config segments).created.length ≤ 1 ∧
        (receive config segments).callbacks.length ≤ 1 := by
  have sound := receive_sound config segments
  refine ⟨fun required => ⟨sound.authenticated required, fun data makes => ?_⟩, ?_, ?_⟩
  · rw [receive_snoc] at makes
    cases segment_effect (receive config segments) data with
    | stays state created callbacks => exact absurd created makes
    | negotiates before state created callbacks => exact absurd created makes
    | authenticates before state valid created callbacks => exact absurd created makes
    | connects before state target created callbacks =>
        exact sound.authenticated required (.inl before)
  · rw [sound.one]
    split_ifs <;> decide
  · rw [sound.callbacks, sound.one]
    split_ifs <;> decide

/-- A server with one user, whose name and password are one letter each. -/
def oneUser : SocksConfig where
  authRequired := true
  users name := if name = [97] then some [98] else none
  sockname := .unknown

/-- The negotiation comes in two segments, the rest message by message. -/
def oneUserSegments : List Bytes :=
  [[5, 1], [2], [1, 1, 97, 1, 98], [5, 1, 0, 1, 127, 0, 0, 1, 0, 80]]

theorem one_user_authenticated :
    (receive oneUser oneUserSegments).created.length = 1 ∧
      Authenticated oneUser oneUserSegments := by
  refine ⟨by decide +kernel, ?_⟩
  exact ((authentication_not_bypassed oneUser oneUserSegments).1 rfl).1 (.inr (by decide +kernel))

end Astrix
