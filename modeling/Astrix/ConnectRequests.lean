import Astrix.Socks5

/-!
# CONNECT requests

The requests of RFC 1928 that ask for a connection, as records of their fields,
and what the command handler makes of a buffer. It takes every such request,
waits for the rest of one, and refuses another version or command. An address
type that is none of the three is read as an address of no bytes.
-/

namespace Astrix

open PyRuntime

set_option autoImplicit false

/-- An address with its type: four bytes, a length with as many bytes, or
sixteen bytes. -/
inductive ConnectAddress where
  | ipv4 (packed : Bytes) (length : packed.length = 4)
  | domain (size : UInt8) (name : Bytes) (length : name.length = size.toNat)
  | ipv6 (packed : Bytes) (length : packed.length = 16)

namespace ConnectAddress

def atyp : ConnectAddress → UInt8
  | ipv4 _ _ => ATYP_IPV4
  | domain _ _ _ => ATYP_DOMAINNAME
  | ipv6 _ _ => ATYP_IPV6

def bytes : ConnectAddress → Bytes
  | ipv4 packed _ => packed
  | domain size name _ => size :: name
  | ipv6 packed _ => packed

/-- The host in text. -/
def host : ConnectAddress → Text
  | ipv4 packed _ => inetNtoa packed
  | domain _ name _ => decodeReplace name
  | ipv6 packed _ => inetNtop6 packed

end ConnectAddress

structure ConnectRequest where
  reserved : UInt8
  address : ConnectAddress
  port : Bytes
  portLength : port.length = 2

def ConnectRequest.bytes (request : ConnectRequest) : Bytes :=
  [SOCKS_VERSION, CMD_CONNECT, request.reserved, request.address.atyp] ++
    (request.address.bytes ++ request.port)

/-- The buffer ends inside a request. -/
def CutRequest (buf : Bytes) : Prop :=
  ∃ (request : ConnectRequest) (more : Bytes), more ≠ [] ∧ request.bytes = buf ++ more

/-- Another version, command or address type. -/
def NoConnect (buf : Bytes) : Prop :=
  byteOf buf 0 ≠ SOCKS_VERSION ∨ byteOf buf 1 ≠ CMD_CONNECT ∨
    byteOf buf 3 ∉ [ATYP_IPV4, ATYP_DOMAINNAME, ATYP_IPV6]

/-- A CONNECT with an address type that the standard does not have. -/
def UnknownAddressType (buf : Bytes) : Prop :=
  4 ≤ buf.length ∧ byteOf buf 0 = SOCKS_VERSION ∧ byteOf buf 1 = CMD_CONNECT ∧
    byteOf buf 3 ∉ [ATYP_IPV4, ATYP_DOMAINNAME, ATYP_IPV6]

instance (buf : Bytes) : Decidable (UnknownAddressType buf) :=
  inferInstanceAs (Decidable (_ ∧ _ ∧ _ ∧ _))

/-- The handler takes requests, refuses what is none and waits for the rest:
`before` has the buffer it decides on. -/
structure HandlesConnect (config : SocksConfig) (before after : Socks5Protocol) : Prop where
  accepts : ∀ (request : ConnectRequest) (rest : Bytes), before.buffer = request.bytes ++ rest →
    after = { before with
      state := .established
      buffer := []
      written := before.written ++ Socks5Protocol.successReply config.sockname
      created := before.created ++ [(request.address.host, readBigEndian request.port)]
      callbacks := before.callbacks ++ [(request.address.host, readBigEndian request.port)] }
  refuses : 4 ≤ before.buffer.length → NoConnect before.buffer →
    ∃ code : UInt8, code ≠ REP_SUCCESS ∧ after = { before with
      closing := true
      written := before.written ++ [SOCKS_VERSION, code, 0x00, 0x01, 0, 0, 0, 0, 0, 0] }
  waits : before.buffer.length < 4 ∨ CutRequest before.buffer → after = before

section Address

variable {buf rest : Bytes} {offset : Nat}

theorem field_inside {field : Bytes} (here : FieldAt buf offset field rest) :
    offset + field.length ≤ buf.length := by
  obtain ⟨written, position, whole⟩ := here
  rw [whole, List.length_append, List.length_append]
  omega

theorem byte_of_field {byte : UInt8} (here : FieldAt buf offset [byte] rest) :
    byteOf buf offset = byte := by
  obtain ⟨written, rfl, rfl⟩ := here
  simp [byteOf]

/-- `_parse_addr` on an address and what follows it. -/
theorem parse_address (address : ConnectAddress)
    (here : FieldAt buf offset address.bytes rest) :
    parseAddr buf offset address.atyp = some (address.host, offset + address.bytes.length) := by
  have inside := field_inside here
  cases address with
  | ipv4 packed length =>
      have fits : ¬ buf.length < offset + 4 := by
        simp only [ConnectAddress.bytes] at inside
        omega
      rw [parseAddr, ConnectAddress.atyp, if_pos rfl, if_neg fits, here.slice length]
      simp only [ConnectAddress.host, ConnectAddress.bytes, length]
  | domain size name length =>
      have atSize : FieldAt buf offset [size] (name ++ rest) := here
      have atName := atSize.advance List.length_singleton
      have nameInside := field_inside atName
      have some : ¬ buf.length < offset + 1 := by omega
      have fits : ¬ buf.length < offset + 1 + size.toNat := by omega
      simp only [parseAddr, ConnectAddress.atyp]
      rw [if_neg (by decide), if_neg (by decide), if_pos trivial, if_neg some, byte_of_field atSize,
        if_neg fits, atName.slice length]
      simp only [ConnectAddress.host, ConnectAddress.bytes, List.length_cons, length]
      rw [Nat.add_right_comm, Nat.add_assoc offset]
  | ipv6 packed length =>
      have fits : ¬ buf.length < offset + 16 := by
        simp only [ConnectAddress.bytes] at inside
        omega
      rw [parseAddr, ConnectAddress.atyp, if_neg (by decide), if_pos rfl, if_neg fits,
        here.slice length]
      simp only [ConnectAddress.host, ConnectAddress.bytes, length]

end Address

section Requests

variable (request : ConnectRequest)

theorem request_length : request.bytes.length = 4 + request.address.bytes.length + 2 := by
  rw [ConnectRequest.bytes, List.length_append, List.length_append, request.portLength]
  simp only [List.length_cons, List.length_nil]
  omega

/-- The address and the port of a request at the front of a buffer. -/
theorem request_fields (rest : Bytes) :
    FieldAt (request.bytes ++ rest) 4 request.address.bytes (request.port ++ rest) := by
  refine ⟨[SOCKS_VERSION, CMD_CONNECT, request.reserved, request.address.atyp], rfl, ?_⟩
  rw [ConnectRequest.bytes, List.append_assoc, List.append_assoc]

/-- A request is taken whatever follows it. -/
theorem command_takes_request (rest : Bytes) : handleCommand (request.bytes ++ rest) =
    .connect request.address.host (readBigEndian request.port) := by
  have length := request_length request
  have atAddress := request_fields request rest
  have atPort := atAddress.advance rfl
  have long : ¬ (request.bytes ++ rest).length < 4 := by
    rw [List.length_append]
    omega
  have whole : ¬ (request.bytes ++ rest).length < 4 + request.address.bytes.length + 2 := by
    rw [List.length_append]
    omega
  have isConnect : ¬ (byteOf (request.bytes ++ rest) 0 ≠ SOCKS_VERSION ∨
      byteOf (request.bytes ++ rest) 1 ≠ CMD_CONNECT) :=
    fun other => other.elim (· rfl) (· rfl)
  have atyp : byteOf (request.bytes ++ rest) 3 = request.address.atyp := rfl
  rw [handleCommand, if_neg long, if_neg isConnect, atyp, parse_address request.address atAddress]
  dsimp only
  rw [if_neg whole, atPort.slice request.portLength]

/-- What is taken has an address and two bytes behind it. -/
theorem command_taken {buf : Bytes} {host : Text} {port : Nat}
    (taken : handleCommand buf = .connect host port) :
    4 ≤ buf.length ∧ ∃ headerLen, parseAddr buf 4 (byteOf buf 3) = some (host, headerLen) ∧
      headerLen + 2 ≤ buf.length := by
  simp only [handleCommand] at taken
  split_ifs at taken with short other
  cases parsed : parseAddr buf 4 (byteOf buf 3) with
  | none =>
      rw [parsed] at taken
      cases taken
  | some addr =>
      obtain ⟨found, headerLen⟩ := addr
      rw [parsed] at taken
      dsimp only at taken
      split_ifs at taken with cut
      cases taken
      exact ⟨Nat.not_lt.mp short, headerLen, rfl, Nat.not_lt.mp cut⟩

/-- Nothing shorter than a request is taken for one. -/
theorem command_waits {buf : Bytes} (cut : CutRequest buf) : handleCommand buf = .incomplete := by
  obtain ⟨request, more, some, whole⟩ := cut
  by_contra decided
  have taken := command_takes_request request []
  rw [List.append_nil, whole, command_stable decided] at taken
  obtain ⟨long, headerLen, parsed, inside⟩ := command_taken taken
  -- the address ends at the same place in both, and two bytes behind it the request
  have parsedWhole := parse_addr_stable parsed more
  have address := parse_address request.address (request_fields request [])
  rw [List.append_nil, whole] at address
  have atyp : byteOf buf 3 = request.address.atyp := by
    rw [← byte_of_append (by omega) more, ← whole]
    rfl
  rw [atyp, address] at parsedWhole
  have sameEnd : 4 + request.address.bytes.length = headerLen :=
    congrArg Prod.snd (Option.some.inj parsedWhole)
  have length := request_length request
  rw [whole, List.length_append] at length
  have positive := List.length_pos_iff.mpr some
  omega

end Requests

section Others

variable {buf : Bytes}

theorem command_short (short : buf.length < 4) : handleCommand buf = .incomplete :=
  if_pos short

theorem command_refuses (long : 4 ≤ buf.length)
    (other : byteOf buf 0 ≠ SOCKS_VERSION ∨ byteOf buf 1 ≠ CMD_CONNECT) :
    handleCommand buf =
      .reject [SOCKS_VERSION, REP_COMMAND_NOT_SUPPORTED, 0x00, 0x01, 0, 0, 0, 0, 0, 0] := by
  rw [handleCommand, if_neg (Nat.not_lt.mpr long), if_pos other]

/-- An address type that nobody knows has no bytes: with a port behind it, it is
a CONNECT to the empty host. -/
theorem command_unknown (unknown : UnknownAddressType buf) :
    handleCommand buf = if buf.length < 6 then .incomplete
      else .connect [] (readBigEndian (slice buf 4 6)) := by
  obtain ⟨long, version, command, atyp⟩ := unknown
  simp only [List.mem_cons, List.not_mem_nil, or_false, not_or] at atyp
  have parsed : parseAddr buf 4 (byteOf buf 3) = some ([], 4) := by
    rw [parseAddr, if_neg atyp.1, if_neg atyp.2.2, if_neg atyp.2.1]
  rw [handleCommand, if_neg (Nat.not_lt.mpr long),
    if_neg (fun other => other.elim (· version) (· command)), parsed]

end Others

section Kinds

/-- Bytes behind a header that announces `size` more before the port are a
request with something behind it or the beginning of one. -/
theorem request_or_cut {front : Bytes} {size : Nat}
    (requests : ∀ body port : Bytes, body.length = size → port.length = 2 →
      ∃ request : ConnectRequest, request.bytes = front ++ (body ++ port)) (tail : Bytes) :
    CutRequest (front ++ tail) ∨
      ∃ (request : ConnectRequest) (rest : Bytes), front ++ tail = request.bytes ++ rest := by
  by_cases whole : size + 2 ≤ tail.length
  · right
    obtain ⟨request, bytes⟩ := requests (tail.take size) ((tail.drop size).take 2)
      (List.length_take_of_le (by omega))
      (List.length_take_of_le (by rw [List.length_drop]; omega))
    refine ⟨request, tail.drop (size + 2), ?_⟩
    rw [bytes, List.append_assoc, List.append_assoc, ← List.drop_drop, List.take_append_drop,
      List.take_append_drop]
  · left
    have padded : (tail ++ List.replicate (size + 2 - tail.length) 0).length = size + 2 := by
      rw [List.length_append, List.length_replicate]
      omega
    obtain ⟨request, bytes⟩ := requests
      ((tail ++ List.replicate (size + 2 - tail.length) 0).take size)
      ((tail ++ List.replicate (size + 2 - tail.length) 0).drop size)
      (List.length_take_of_le (by omega)) (by rw [List.length_drop]; omega)
    refine ⟨request, List.replicate (size + 2 - tail.length) 0, ?_, ?_⟩
    · rw [Ne, List.replicate_eq_nil_iff]
      omega
    · rw [bytes, List.take_append_drop, List.append_assoc]

/-- Requests, what is none, and what has to wait are all the buffers there are. -/
theorem connect_buffer_kinds (buf : Bytes) :
    (buf.length < 4 ∨ CutRequest buf) ∨ NoConnect buf ∨
      ∃ (request : ConnectRequest) (rest : Bytes), buf = request.bytes ++ rest := by
  by_cases none : NoConnect buf
  · exact .inr (.inl none)
  · obtain ⟨version, other⟩ := not_or.mp none
    obtain ⟨command, atyp⟩ := not_or.mp other
    rcases buf with _ | ⟨ver, _ | ⟨cmd, _ | ⟨reserved, _ | ⟨kind, tail⟩⟩⟩⟩
    · exact .inl (.inl (Nat.zero_lt_succ 3))
    · exact .inl (.inl (Nat.succ_lt_succ (Nat.zero_lt_succ 2)))
    · exact .inl (.inl (Nat.succ_lt_succ (Nat.succ_lt_succ (Nat.zero_lt_succ 1))))
    · exact .inl (.inl (Nat.lt_succ_self 3))
    · have sameVersion : ver = SOCKS_VERSION := not_not.mp version
      have sameCommand : cmd = CMD_CONNECT := not_not.mp command
      have known : kind = ATYP_IPV4 ∨ kind = ATYP_DOMAINNAME ∨ kind = ATYP_IPV6 := by
        simpa [byteOf] using not_not.mp atyp
      have build : ∀ (address : ConnectAddress) (port : Bytes), port.length = 2 →
          ∃ request : ConnectRequest, request.bytes =
            [ver, cmd, reserved, address.atyp] ++ (address.bytes ++ port) := by
        intro address port length
        exact ⟨⟨reserved, address, port, length⟩, by rw [sameVersion, sameCommand]; rfl⟩
      have kinds : CutRequest ([ver, cmd, reserved, kind] ++ tail) ∨
          ∃ (request : ConnectRequest) (rest : Bytes),
            [ver, cmd, reserved, kind] ++ tail = request.bytes ++ rest := by
        rcases known with rfl | rfl | rfl
        · exact request_or_cut (fun body port length => build (.ipv4 body length) port) tail
        · cases tail with
          | nil =>
              obtain ⟨request, bytes⟩ := build (.domain 0 [] rfl) [0, 0] rfl
              exact .inl ⟨request, [0, 0, 0], by simp, bytes⟩
          | cons size name =>
              exact @request_or_cut [ver, cmd, reserved, ATYP_DOMAINNAME, size] size.toNat
                (fun body port length => build (.domain size body length) port) name
        · exact request_or_cut (fun body port length => build (.ipv6 body length) port) tail
      exact kinds.elim (fun cut => .inl (.inr cut)) fun request => .inr (.inr request)

end Kinds

/-- A connection whose transport is open follows the standard on a buffer exactly
if this is no CONNECT with an unknown address type. -/
theorem connect_handled_iff (config : SocksConfig) (p : Socks5Protocol) (data : Bytes)
    (state : p.state = .command) (opened : p.closing = false) :
    HandlesConnect config { p with buffer := p.buffer ++ data } (p.dataReceived config data) ↔
      ¬ UnknownAddressType (p.buffer ++ data) := by
  have decided : p.dataReceived config data = ({ p with buffer := p.buffer ++ data }).follow config
      (handleCommand (p.buffer ++ data)) := by
    rw [data_received_open (by rw [state]; decide), state]
    rfl
  rw [decided]
  generalize p.buffer ++ data = buf
  constructor
  · intro handles unknown
    obtain ⟨code, _, refused⟩ := handles.refuses unknown.1 (.inr (.inr unknown.2.2.2))
    have closing := congrArg Socks5Protocol.closing refused
    rw [command_unknown unknown] at closing
    split_ifs at closing
    · cases opened.symm.trans closing
    · simp [Socks5Protocol.follow, Socks5Protocol.write, opened] at closing
  · intro known
    constructor
    · intro request rest whole
      have split : buf = request.bytes ++ rest := whole
      rw [split, command_takes_request]
      simp [Socks5Protocol.follow, Socks5Protocol.write, opened]
    · intro long other
      have refused : byteOf buf 0 ≠ SOCKS_VERSION ∨ byteOf buf 1 ≠ CMD_CONNECT := by
        by_contra neither
        obtain ⟨version, command⟩ := not_or.mp neither
        exact known ⟨long, not_not.mp version, not_not.mp command,
          (other.resolve_left version).resolve_left command⟩
      refine ⟨REP_COMMAND_NOT_SUPPORTED, by decide, ?_⟩
      rw [command_refuses long refused]
      simp [Socks5Protocol.follow, Socks5Protocol.write, opened]
    · intro unfinished
      have waits : handleCommand buf = .incomplete := unfinished.elim command_short command_waits
      rw [waits]
      rfl

/-- A CONNECT to 127.0.0.1, port 80. -/
theorem ipv4_connect_handled : HandlesConnect ⟨false, fun _ => none, .unknown⟩
    { Socks5Protocol.new with state := .command, buffer := [5, 1, 0, 1, 127, 0, 0, 1, 0, 80] }
    (Socks5Protocol.dataReceived ⟨false, fun _ => none, .unknown⟩
      { Socks5Protocol.new with state := .command } [5, 1, 0, 1, 127, 0, 0, 1, 0, 80]) :=
  (connect_handled_iff _ { Socks5Protocol.new with state := .command }
    [5, 1, 0, 1, 127, 0, 0, 1, 0, 80] rfl rfl).mpr (by decide)

/-- Address type 2 with two bytes behind it. -/
theorem unknown_type_connects :
    ¬ ∀ (config : SocksConfig) (p : Socks5Protocol) (data : Bytes), p.state = .command →
      p.closing = false →
      HandlesConnect config { p with buffer := p.buffer ++ data } (p.dataReceived config data) := by
  intro always
  obtain ⟨code, _, refused⟩ := (always ⟨false, fun _ => none, .unknown⟩
    { Socks5Protocol.new with state := .command } [5, 1, 0, 2, 0, 80] rfl rfl).refuses
    (by decide) (.inr (.inr (by decide)))
  have closing := congrArg Socks5Protocol.closing refused
  cases closing

end Astrix
