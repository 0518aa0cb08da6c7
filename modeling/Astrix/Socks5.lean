import Astrix.Library.InetAddress
import Mathlib.Data.List.GetD

/-!
# The SOCKS5 handler

`SOCKS5Protocol` of `socks/server.py`, one connection of a SOCKS client. Each
handler decides on the whole buffer; whatever stands in it behind the message
that was accepted is dropped with it, and after a rejection it is kept and read
again with the next segment. `VirtualConn` objects are recorded by the target
they are made for. Nothing is written once the transport is closing.
-/

namespace Astrix

open PyRuntime

set_option autoImplicit false

def SOCKS_VERSION : UInt8 := 0x05
def METHOD_NO_AUTH : UInt8 := 0x00
def METHOD_USER_PASS : UInt8 := 0x02
def METHOD_NO_ACCEPTABLE : UInt8 := 0xFF
def ATYP_IPV4 : UInt8 := 0x01
def ATYP_DOMAINNAME : UInt8 := 0x03
def ATYP_IPV6 : UInt8 := 0x04
def CMD_CONNECT : UInt8 := 0x01
def REP_SUCCESS : UInt8 := 0x00
def REP_COMMAND_NOT_SUPPORTED : UInt8 := 0x07

/-- The `sockname` of the transport, by its packed address. -/
inductive SockName where
  | unknown
  | inet (packed : Bytes) (port : Nat)
  | inet6 (packed : Bytes) (port : Nat)
  deriving DecidableEq, Repr

structure SocksConfig where
  authRequired : Bool
  users : Text → Option Text
  sockname : SockName

/-- `_state`, 0 to 3. -/
inductive SocksState where
  | handshake
  | auth
  | command
  | established
  deriving DecidableEq, Repr

/-- What a handler makes of the buffer. -/
inductive Verdict where
  | incomplete
  | reject (reply : Bytes)
  | advance (reply : Bytes) (state : SocksState)
  | connect (host : Text) (port : Nat)
  deriving DecidableEq, Repr

/-- `buf[index]`, where a check of the length stands before it. -/
def byteOf (buf : Bytes) (index : Nat) : UInt8 := buf.getD index 0

section Handlers

variable (config : SocksConfig) (buf : Bytes)

def handleHandshake : Verdict :=
  if buf.length < 3 then .incomplete
  else if byteOf buf 0 ≠ SOCKS_VERSION then .reject [0xFF, METHOD_NO_ACCEPTABLE]
  else
    let nmethods := (byteOf buf 1).toNat
    if buf.length < 2 + nmethods then .incomplete
    else
      let methods := slice buf 2 (2 + nmethods)
      if config.authRequired ∧ METHOD_USER_PASS ∈ methods then
        .advance [SOCKS_VERSION, METHOD_USER_PASS] .auth
      else if !config.authRequired ∧ METHOD_NO_AUTH ∈ methods then
        .advance [SOCKS_VERSION, METHOD_NO_AUTH] .command
      else .reject [SOCKS_VERSION, METHOD_NO_ACCEPTABLE]

def handleAuth : Verdict :=
  if buf.length < 5 then .incomplete
  else if byteOf buf 0 ≠ 0x01 then .reject [0x01, 0xFF]
  else
    let ulen := (byteOf buf 1).toNat
    if buf.length < 2 + ulen + 1 then .incomplete
    else
      let uname := decodeReplace (slice buf 2 (2 + ulen))
      let off := 2 + ulen
      let plen := (byteOf buf off).toNat
      let off := off + 1
      if buf.length < off + plen then .incomplete
      else
        let passwd := decodeReplace (slice buf off (off + plen))
        if config.users uname = none ∨ config.users uname ≠ some passwd then
          .reject [0x01, 0xFF]
        else .advance [0x01, 0x00] .command

/-- `_parse_addr`; an unknown address type is an empty host. -/
def parseAddr (offset : Nat) (atyp : UInt8) : Option (Text × Nat) :=
  if atyp = ATYP_IPV4 then
    if buf.length < offset + 4 then none
    else some (inetNtoa (slice buf offset (offset + 4)), offset + 4)
  else if atyp = ATYP_IPV6 then
    if buf.length < offset + 16 then none
    else some (inetNtop6 (slice buf offset (offset + 16)), offset + 16)
  else if atyp = ATYP_DOMAINNAME then
    if buf.length < offset + 1 then none
    else
      let dlen := (byteOf buf offset).toNat
      let offset := offset + 1
      if buf.length < offset + dlen then none
      else some (decodeReplace (slice buf offset (offset + dlen)), offset + dlen)
  else some ([], offset)

def handleCommand : Verdict :=
  if buf.length < 4 then .incomplete
  else if byteOf buf 0 ≠ SOCKS_VERSION ∨ byteOf buf 1 ≠ CMD_CONNECT then
    .reject [SOCKS_VERSION, REP_COMMAND_NOT_SUPPORTED, 0x00, 0x01, 0x00, 0x00, 0x00, 0x00, 0x00,
      0x00]
  else
    match parseAddr buf 4 (byteOf buf 3) with
    | none => .incomplete
    | some (host, headerLen) =>
        if buf.length < headerLen + 2 then .incomplete
        else .connect host (readBigEndian (slice buf headerLen (headerLen + 2)))

/-- The handler of a state, up to the tunnel. -/
def verdictIn : SocksState → Verdict
  | .handshake => handleHandshake config buf
  | .auth => handleAuth config buf
  | .command => handleCommand buf
  | .established => .incomplete

end Handlers

/-- `written` holds the bytes given to `transport.write`; `tunnelled` the chunks
given to `VirtualConn.write` while the connection was not closed. -/
structure Socks5Protocol where
  state : SocksState
  buffer : Bytes
  closing : Bool
  virtualClosed : Bool
  written : Bytes
  created : List (Text × Nat)
  callbacks : List (Text × Nat)
  tunnelled : List Bytes
  deriving DecidableEq

namespace Socks5Protocol

def new : Socks5Protocol where
  state := .handshake
  buffer := []
  closing := false
  virtualClosed := false
  written := []
  created := []
  callbacks := []
  tunnelled := []

def write (p : Socks5Protocol) (data : Bytes) : Socks5Protocol :=
  if p.closing then p else { p with written := p.written ++ data }

/-- The reply to a CONNECT. -/
def successReply : SockName → Bytes
  | .unknown => [SOCKS_VERSION, REP_SUCCESS, 0x00, ATYP_IPV4, 0, 0, 0, 0, 0, 0]
  | .inet packed port =>
      [SOCKS_VERSION, REP_SUCCESS, 0x00, ATYP_IPV4] ++ packed ++ bigEndian 2 port
  | .inet6 packed port =>
      [SOCKS_VERSION, REP_SUCCESS, 0x00, ATYP_IPV6] ++ packed ++ bigEndian 2 port

/-- What a handler does with its decision. -/
def follow (config : SocksConfig) (p : Socks5Protocol) : Verdict → Socks5Protocol
  | .incomplete => p
  | .reject reply => { p.write reply with closing := true }
  | .advance reply state => { p.write reply with state := state, buffer := [] }
  | .connect host port =>
      let p := { p with buffer := [], created := p.created ++ [(host, port)] }
      let p := p.write (successReply config.sockname)
      { p with state := .established, callbacks := p.callbacks ++ [(host, port)] }

def handleTunnelData (p : Socks5Protocol) (data : Bytes) : Socks5Protocol :=
  if p.created ≠ [] ∧ !p.virtualClosed then { p with tunnelled := p.tunnelled ++ [data] } else p

def dataReceived (config : SocksConfig) (p : Socks5Protocol) (data : Bytes) : Socks5Protocol :=
  let p := { p with buffer := p.buffer ++ data }
  if p.state = .established then p.handleTunnelData data
  else p.follow config (verdictIn config p.buffer p.state)

/-- The protocol after a client's stream has come in these segments. -/
def receive (config : SocksConfig) (segments : List Bytes) : Socks5Protocol :=
  segments.foldl (dataReceived config) new

end Socks5Protocol

section Stable

variable {config : SocksConfig} {buf : Bytes}

theorem byte_of_append {index : Nat} (inside : index < buf.length) (more : Bytes) :
    byteOf (buf ++ more) index = byteOf buf index :=
  List.getD_append _ _ _ _ inside

theorem slice_append {start stop : Nat} (inside : stop ≤ buf.length) (more : Bytes) :
    slice (buf ++ more) start stop = slice buf start stop := by
  rw [slice, slice, List.take_append_of_le_length inside]

theorem handshake_stable (decided : handleHandshake config buf ≠ .incomplete) (more : Bytes) :
    handleHandshake config (buf ++ more) = handleHandshake config buf := by
  simp only [handleHandshake] at decided ⊢
  by_cases short : buf.length < 3
  · exact absurd (if_pos short) decided
  · have long : ¬ (buf ++ more).length < 3 := by
      rw [List.length_append]
      omega
    rw [if_neg short] at decided ⊢
    rw [if_neg long, byte_of_append (by omega), byte_of_append (by omega)]
    by_cases version : byteOf buf 0 ≠ SOCKS_VERSION
    · rw [if_pos version, if_pos version]
    · rw [if_neg version] at decided ⊢
      rw [if_neg version]
      by_cases cut : buf.length < 2 + (byteOf buf 1).toNat
      · exact absurd (if_pos cut) decided
      · have whole : ¬ (buf ++ more).length < 2 + (byteOf buf 1).toNat := by
          rw [List.length_append]
          omega
        rw [if_neg cut, if_neg whole, slice_append (Nat.not_lt.mp cut)]

theorem auth_stable (decided : handleAuth config buf ≠ .incomplete) (more : Bytes) :
    handleAuth config (buf ++ more) = handleAuth config buf := by
  simp only [handleAuth] at decided ⊢
  by_cases short : buf.length < 5
  · exact absurd (if_pos short) decided
  · have long : ¬ (buf ++ more).length < 5 := by
      rw [List.length_append]
      omega
    rw [if_neg short] at decided ⊢
    rw [if_neg long, byte_of_append (by omega), byte_of_append (by omega)]
    by_cases version : byteOf buf 0 ≠ 0x01
    · rw [if_pos version, if_pos version]
    · rw [if_neg version] at decided ⊢
      rw [if_neg version]
      by_cases name : buf.length < 2 + (byteOf buf 1).toNat + 1
      · exact absurd (if_pos name) decided
      · have named : ¬ (buf ++ more).length < 2 + (byteOf buf 1).toNat + 1 := by
          rw [List.length_append]
          omega
        rw [if_neg name] at decided ⊢
        rw [if_neg named, byte_of_append (by omega), slice_append (by omega)]
        by_cases cut : buf.length <
            2 + (byteOf buf 1).toNat + 1 + (byteOf buf (2 + (byteOf buf 1).toNat)).toNat
        · exact absurd (if_pos cut) decided
        · have whole : ¬ (buf ++ more).length <
              2 + (byteOf buf 1).toNat + 1 + (byteOf buf (2 + (byteOf buf 1).toNat)).toNat := by
            rw [List.length_append]
            omega
          rw [if_neg cut, if_neg whole, slice_append (Nat.not_lt.mp cut)]

theorem parse_addr_stable {offset : Nat} {atyp : UInt8} {addr : Text × Nat}
    (parsed : parseAddr buf offset atyp = some addr) (more : Bytes) :
    parseAddr (buf ++ more) offset atyp = some addr := by
  have longer : buf.length ≤ (buf ++ more).length := by
    rw [List.length_append]
    omega
  simp only [parseAddr] at parsed ⊢
  by_cases ipv4 : atyp = ATYP_IPV4
  · rw [if_pos ipv4] at parsed ⊢
    split_ifs at parsed with cut
    rw [if_neg (by omega), slice_append (by omega)]
    exact parsed
  · rw [if_neg ipv4] at parsed ⊢
    by_cases ipv6 : atyp = ATYP_IPV6
    · rw [if_pos ipv6] at parsed ⊢
      split_ifs at parsed with cut
      rw [if_neg (by omega), slice_append (by omega)]
      exact parsed
    · rw [if_neg ipv6] at parsed ⊢
      by_cases domain : atyp = ATYP_DOMAINNAME
      · rw [if_pos domain] at parsed ⊢
        split_ifs at parsed with first second
        rw [if_neg (by omega), byte_of_append (by omega), if_neg (by omega),
          slice_append (by omega)]
        exact parsed
      · rw [if_neg domain] at parsed ⊢
        exact parsed

theorem command_stable (decided : handleCommand buf ≠ .incomplete) (more : Bytes) :
    handleCommand (buf ++ more) = handleCommand buf := by
  have longer : buf.length ≤ (buf ++ more).length := by
    rw [List.length_append]
    omega
  simp only [handleCommand] at decided ⊢
  by_cases short : buf.length < 4
  · exact absurd (if_pos short) decided
  · rw [if_neg short] at decided ⊢
    rw [if_neg (by omega), byte_of_append (by omega), byte_of_append (by omega),
      byte_of_append (by omega)]
    by_cases other : byteOf buf 0 ≠ SOCKS_VERSION ∨ byteOf buf 1 ≠ CMD_CONNECT
    · rw [if_pos other, if_pos other]
    · rw [if_neg other] at decided ⊢
      rw [if_neg other]
      cases parsed : parseAddr buf 4 (byteOf buf 3) with
      | none =>
          rw [parsed] at decided
          exact absurd rfl decided
      | some addr =>
          obtain ⟨host, headerLen⟩ := addr
          rw [parsed] at decided
          rw [parse_addr_stable parsed]
          dsimp only at decided ⊢
          by_cases cut : buf.length < headerLen + 2
          · exact absurd (if_pos cut) decided
          · rw [if_neg cut, if_neg (by omega), slice_append (Nat.not_lt.mp cut)]

/-- A decision does not depend on what comes behind the bytes it was made on. -/
theorem verdict_stable {state : SocksState} (decided : verdictIn config buf state ≠ .incomplete)
    (more : Bytes) : verdictIn config (buf ++ more) state = verdictIn config buf state := by
  cases state with
  | handshake => exact handshake_stable decided more
  | auth => exact auth_stable decided more
  | command => exact command_stable decided more
  | established => rfl

end Stable

section Decisions

variable {config : SocksConfig}

theorem data_received_open {p : Socks5Protocol}
    (unestablished : p.state ≠ .established) (data : Bytes) :
    p.dataReceived config data = ({ p with buffer := p.buffer ++ data }).follow config
      (verdictIn config (p.buffer ++ data) p.state) := by
  rw [Socks5Protocol.dataReceived]
  exact if_neg unestablished

theorem handshake_advances {buf reply : Bytes} {next : SocksState}
    (accepted : handleHandshake config buf = .advance reply next) :
    next = (if config.authRequired then .auth else .command) := by
  simp only [handleHandshake] at accepted
  split_ifs at accepted with short version cut required free
  · cases accepted
    rw [if_pos required.1]
  · cases accepted
    rw [if_neg (by simpa using free.1)]

end Decisions

end Astrix
