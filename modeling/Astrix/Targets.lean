import Astrix.ConnectRequests
import Astrix.Library.DecimalText

/-!
# Targets

`VirtualConn` names its target by host and port with a colon between them;
`_parse_target` of the exit server splits at the last colon. The host may have
colons of its own.
-/

namespace Astrix

open PyRuntime

set_option autoImplicit false

def colon : CodePoint := 58

/-- `_target` of a `VirtualConn`. -/
def targetText (host : Text) (port : Nat) : Text := host ++ colon :: decimalText port

/-- `_parse_target`; without a colon there is nothing to split. -/
def parseTarget (target : Text) : Text × Int :=
  match splitLast colon target with
  | some (host, portStr) =>
      match parseInt portStr with
      | some port => (host, port)
      | none => (target, 0)
  | none => (target, 0)

/-- What the exit server dials for a buffer that the command handler takes. -/
def dialled (buf : Bytes) : Option (Text × Int) :=
  match handleCommand buf with
  | .connect host port => some (parseTarget (targetText host port))
  | _ => none

theorem parse_target_text (host : Text) {port : Nat}
    (short : (decimalText port).length ≤ maxStrDigits) :
    parseTarget (targetText host port) = (host, (port : Int)) := by
  have last : colon ∉ decimalText port := decimal_not_mem port (by decide)
  rw [parseTarget, targetText, split_last_append colon host last]
  dsimp only
  rw [parse_int_decimal port short]

theorem port_text_short {port : Nat} (small : port ≤ 65535) :
    (decimalText port).length ≤ maxStrDigits := by
  have digits : (decimalText port).length ≤ 5 := by
    rw [decimalText, charsText, List.length_map, Nat.length_toDigits_le_iff (by decide) (by decide)]
    omega
  exact digits.trans (by decide)

theorem port_range (request : ConnectRequest) : readBigEndian request.port ≤ 65535 := by
  have bound := (big_endian_read request.portLength).2
  omega

/-- The server dials the host and the port of the request, whatever the host. -/
theorem target_dialled :
    (∀ (host : Text) (port : Nat), port ≤ 65535 →
      parseTarget (targetText host port) = (host, (port : Int))) ∧
    ∀ (request : ConnectRequest) (rest : Bytes),
      parseAddr (request.bytes ++ rest) 4 request.address.atyp =
        some (request.address.host, 4 + request.address.bytes.length) ∧
      dialled (request.bytes ++ rest) =
        some (request.address.host, (readBigEndian request.port : Int)) := by
  constructor
  · intro host port small
    exact parse_target_text host (port_text_short small)
  · intro request rest
    constructor
    · exact parse_address request.address (request_fields request rest)
    · rw [dialled, command_takes_request]
      dsimp only
      rw [parse_target_text request.address.host (port_text_short (port_range request))]

/-- `::1` on port 443. -/
theorem loopback_dialled : parseTarget (targetText (charsText "::1".toList) 443) =
    (charsText "::1".toList, 443) :=
  target_dialled.1 (charsText "::1".toList) 443 (by decide)

example : parseTarget (charsText "a:b".toList) = (charsText "a:b".toList, 0) := by decide +kernel

end Astrix
