import ClusterLinks.Net.IpAddress

/-!
# Socket addresses

An IP address with a port. A version 6 address stands in brackets and may carry a numeric zone.
-/

namespace ClusterLinks

structure SocketAddress where
  address : IpAddress
  zone : Nat
  port : Nat
  deriving DecidableEq

namespace SocketAddress

/-- A decimal number up to `limit`, with any number of leading zeros. -/
def readNumber? (limit : Nat) (text : List Char) : Option (Nat × List Char) := do
  let (digits, rest) ← IpAddress.readDigits? 10 text
  let value := IpAddress.numberOf 10 digits
  if value ≤ limit then some (value, rest) else none

/-- A colon and a port that end the text. -/
def finalPort? : List Char → Option Nat
  | ':' :: rest =>
      match readNumber? 65535 rest with
      | some (port, []) => some port
      | _ => none
  | _ => none

def ofVersion4? (text : List Char) : Option SocketAddress := do
  let (address, rest) ← IpAddress.readVersion4? text
  let port ← finalPort? rest
  some ⟨address, 0, port⟩

/-- The zone behind a percent sign, zero without one. -/
def readZone? : List Char → Option (Nat × List Char)
  | '%' :: rest => readNumber? (UInt32.size - 1) rest
  | text => some (0, text)

def ofVersion6? : List Char → Option SocketAddress
  | '[' :: text => do
      let (address, rest) ← IpAddress.readVersion6? text
      let (zone, rest) ← readZone? rest
      match rest with
      | ']' :: rest => do
          let port ← finalPort? rest
          some ⟨address, zone, port⟩
      | _ => none
  | _ => none

/-- The socket address that a text denotes as a whole. -/
def ofText? (text : String) : Option SocketAddress :=
  (ofVersion4? text.toList).orElse fun _ => ofVersion6? text.toList

def toText (socket : SocketAddress) : String :=
  match socket.address with
  | .v4 _ => socket.address.toText ++ ":" ++ toString socket.port
  | .v6 _ =>
      let zone := if socket.zone = 0 then "" else "%" ++ toString socket.zone
      "[" ++ socket.address.toText ++ zone ++ "]:" ++ toString socket.port

end SocketAddress

end ClusterLinks
