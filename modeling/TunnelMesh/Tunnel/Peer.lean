/-
Peers of a tunnel as they are configured.

Allowed IPs are subnets; a bare address stands for the subnet of that address
alone.
-/
import TunnelMesh.Net.SocketAddress
import TunnelMesh.Net.Subnet
import TunnelMesh.Tunnel.Error

namespace TunnelMesh

open Net

/-- Reads a subnet or a bare address, blanks around it ignored. -/
def readAllowedIp (s : String) : Except TunnelError Subnet :=
  let t := Text.trim s
  match Subnet.ofText? t with
  | some n => .ok n
  | none =>
    match Address.ofText? t with
    | some a => .ok (.host a)
    | none => .error (.subnet t)

/-- Reads an address with a port, blanks around it ignored. -/
def readEndpoint (s : String) : Except TunnelError SocketAddress :=
  match SocketAddress.ofText? (Text.trim s) with
  | some a => .ok a
  | none => .error (.endpoint s)

/-- A peer as it is configured. -/
structure PeerConfig where
  /-- The key that names the peer. -/
  publicKey : PublicKey
  /-- A key shared with the peer on top of the key pairs. -/
  presharedKey : Option PresharedKey
  /-- The subnets that belong to the peer. -/
  allowedIps : List Subnet
  /-- Where to reach the peer. -/
  endpoint : Option SocketAddress
  /-- Seconds between keepalives. -/
  keepalive : Option UInt16
deriving DecidableEq

namespace PeerConfig

/-- A peer of which only the key is known. -/
def ofKey (key : PublicKey) : PeerConfig := ⟨key, none, [], none, none⟩

/-- Whether any subnet belongs to the peer. -/
def hasRoutes (p : PeerConfig) : Bool := !p.allowedIps.isEmpty

/-- The peer with no subnet of its own. -/
def withoutRoutes (p : PeerConfig) : PeerConfig := { p with allowedIps := [] }

end PeerConfig

/-- The texts a peer is configured from. -/
structure PeerTexts where
  publicKey : Option String
  presharedKey : Option String
  allowedIps : List String
  endpoint : Option String
  keepalive : Option UInt16

/-- Reads an optional text. -/
def readOptional {α ε : Type} (read : String → Except ε α) : Option String → Except ε (Option α)
  | none => .ok none
  | some s => (read s).map some

/-- Reads a peer; of several faults the first counts, a missing key last. -/
def PeerTexts.read (t : PeerTexts) : Except TunnelError PeerConfig := do
  let key ← (readOptional PublicKey.ofBase64 t.publicKey).mapError .key
  let psk ← (readOptional PresharedKey.ofBase64 t.presharedKey).mapError .key
  let ips ← t.allowedIps.mapM readAllowedIp
  let endpoint ← readOptional readEndpoint t.endpoint
  match key with
  | none => .error (.settings .missingPublicKey)
  | some key => .ok ⟨key, psk, ips, endpoint, t.keepalive⟩

end TunnelMesh
