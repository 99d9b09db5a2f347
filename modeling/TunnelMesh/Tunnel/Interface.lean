/-
Interfaces of a host as they are configured.

A name has 1 to 15 bytes, letters, digits, hyphens and underscores only, and no
two peers share a key.
-/
import TunnelMesh.Tunnel.Peer

namespace TunnelMesh

/-- An interface as it is configured. -/
structure InterfaceConfig where
  name : String
  privateKey : PrivateKey
  listenPort : Option UInt16
  /-- Addresses of the interface itself. -/
  addresses : List Net.Subnet
  mtu : Option UInt16
  peers : List PeerConfig
deriving DecidableEq

namespace InterfaceConfig

/-- Whether a character may stand in an interface name. -/
def isNameChar (c : Char) : Bool := c.isAlphanum || c == '-' || c == '_'

/-- Finds the first peer whose key an earlier one has; `seen` holds the keys before. -/
def firstRepeated (seen : List PublicKey) : List PeerConfig → Option PublicKey
  | [] => none
  | p :: rest =>
    if seen.contains p.publicKey then some p.publicKey
    else firstRepeated (p.publicKey :: seen) rest

/-- Checks name and peers. -/
def validate (c : InterfaceConfig) : Except TunnelError Unit :=
  if c.name.isEmpty || 15 < c.name.utf8ByteSize then .error (.settings (.nameLength c.name))
  else if !c.name.toList.all isNameChar then .error (.settings (.nameCharacters c.name))
  else
    match firstRepeated [] c.peers with
    | some key => .error (.settings (.duplicatePeer key))
    | none => .ok ()

/-- The key that names this end of the tunnel. -/
def publicKey (c : InterfaceConfig) : PublicKey := c.privateKey.publicKey

end InterfaceConfig

/-- The texts an interface is configured from. -/
structure InterfaceTexts where
  name : String
  privateKey : String
  listenPort : Option UInt16
  mtu : Option UInt16
  addresses : List String
  peers : List PeerTexts

/-- Reads an interface; of several faults the first counts, those of peers last. -/
def InterfaceTexts.read (t : InterfaceTexts) : Except TunnelError InterfaceConfig := do
  let key ← (PrivateKey.ofBase64 t.privateKey).mapError .key
  let addresses ← t.addresses.mapM readAllowedIp
  let peers ← t.peers.mapM PeerTexts.read
  return ⟨t.name, key, t.listenPort, addresses, t.mtu, peers⟩

end TunnelMesh
