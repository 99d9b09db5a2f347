/-
Peers, states and requests of tunnels in JSON.

Keys are base 64 strings, subnets and addresses strings.  A peer's preshared key is
never written and never read; a request is written with the secrets that it carries.
-/
import TunnelMesh.Json.Decode
import TunnelMesh.Tunnel.Interface
import TunnelMesh.Tunnel.Request
import TunnelMesh.Tunnel.Status

namespace TunnelMesh

open Net

/-- A key as JSON. -/
def PublicKey.toJson (k : PublicKey) : Json := .str k.toBase64

/-- A key out of JSON. -/
def PublicKey.ofJson? : Json → Option PublicKey :=
  Json.parsed? fun s => (PublicKey.ofBase64 s).toOption

/-- A subnet as JSON. -/
def Net.Subnet.toJson (n : Subnet) : Json := .str n.toText

/-- A subnet out of JSON; a bare address is none. -/
def Net.Subnet.ofJson? : Json → Option Subnet := Json.parsed? Subnet.ofText?

/-- An address out of JSON. -/
def Net.Address.ofJson? : Json → Option Address := Json.parsed? Address.ofText?

/-- An address with a port as JSON. -/
def Net.SocketAddress.toJson (a : SocketAddress) : Json := .str a.toText

/-- An address with a port out of JSON. -/
def Net.SocketAddress.ofJson? : Json → Option SocketAddress := Json.parsed? SocketAddress.ofText?

/-- A peer's configuration as JSON. -/
def PeerConfig.toJson (p : PeerConfig) : Json :=
  .obj [("public_key", p.publicKey.toJson),
    ("allowed_ips", .ofList Subnet.toJson p.allowedIps),
    ("endpoint", .ofOption SocketAddress.toJson p.endpoint),
    ("persistent_keepalive", .ofOption (fun n => .nat n.toNat) p.keepalive)]

/-- A peer's configuration out of JSON. -/
def PeerConfig.ofJson? (v : Json) : Option PeerConfig := do
  let r ← v.record? ["public_key", "allowed_ips", "endpoint", "persistent_keepalive"]
  let key ← r.required "public_key" PublicKey.ofJson?
  let ips ← r.required "allowed_ips" (Json.list? Subnet.ofJson?)
  let endpoint ← r.optional "endpoint" SocketAddress.ofJson?
  let keepalive ← r.optional "persistent_keepalive" Json.u16?
  return ⟨key, none, ips, endpoint, keepalive⟩

/-- The texts of a peer out of JSON. -/
def PeerTexts.ofJson? (v : Json) : Option PeerTexts := do
  let r ← v.record? ["public_key", "preshared_key", "allowed_ips", "endpoint",
    "persistent_keepalive"]
  let key ← r.optional "public_key" Json.text?
  let psk ← r.optional "preshared_key" Json.text?
  let ips ← r.withDefault "allowed_ips" (Json.list? Json.text?) []
  let endpoint ← r.optional "endpoint" Json.text?
  let keepalive ← r.optional "persistent_keepalive" Json.u16?
  return ⟨key, psk, ips, endpoint, keepalive⟩

/-- The texts of an interface out of JSON. -/
def InterfaceTexts.ofJson? (v : Json) : Option InterfaceTexts := do
  let r ← v.record? ["name", "private_key", "listen_port", "mtu", "addresses", "peers"]
  let name ← r.required "name" Json.text?
  let key ← r.required "private_key" Json.text?
  let port ← r.optional "listen_port" Json.u16?
  let mtu ← r.optional "mtu" Json.u16?
  let addresses ← r.withDefault "addresses" (Json.list? Json.text?) []
  let peers ← r.withDefault "peers" (Json.list? PeerTexts.ofJson?) []
  return ⟨name, key, port, mtu, addresses, peers⟩

/-- A peer's state as JSON. -/
def PeerStatus.toJson (p : PeerStatus) : Json :=
  .obj [("public_key", p.publicKey.toJson),
    ("endpoint", .ofOption SocketAddress.toJson p.endpoint),
    ("allowed_ips", .ofList Subnet.toJson p.allowedIps),
    ("last_handshake", .ofOption (fun n => .nat n.toNat) p.lastHandshake),
    ("rx_bytes", .nat p.rxBytes.toNat),
    ("tx_bytes", .nat p.txBytes.toNat),
    ("persistent_keepalive", .ofOption (fun n => .nat n.toNat) p.keepalive)]

/-- A peer's state out of JSON. -/
def PeerStatus.ofJson? (v : Json) : Option PeerStatus := do
  let r ← v.record? ["public_key", "endpoint", "allowed_ips", "last_handshake", "rx_bytes",
    "tx_bytes", "persistent_keepalive"]
  let key ← r.required "public_key" PublicKey.ofJson?
  let endpoint ← r.optional "endpoint" SocketAddress.ofJson?
  let ips ← r.required "allowed_ips" (Json.list? Subnet.ofJson?)
  let handshake ← r.optional "last_handshake" Json.u64?
  let rx ← r.required "rx_bytes" Json.u64?
  let tx ← r.required "tx_bytes" Json.u64?
  let keepalive ← r.optional "persistent_keepalive" Json.u16?
  return ⟨key, endpoint, ips, handshake, rx, tx, keepalive⟩

/-- An interface's state as JSON. -/
def InterfaceStatus.toJson (s : InterfaceStatus) : Json :=
  .obj [("name", .str s.name),
    ("public_key", .ofOption PublicKey.toJson s.publicKey),
    ("listen_port", .ofOption (fun n => .nat n.toNat) s.listenPort),
    ("fwmark", .ofOption (fun n => .nat n.toNat) s.fwmark),
    ("peers", .ofList PeerStatus.toJson s.peers)]

/-- An interface's state out of JSON. -/
def InterfaceStatus.ofJson? (v : Json) : Option InterfaceStatus := do
  let r ← v.record? ["name", "public_key", "listen_port", "fwmark", "peers"]
  let name ← r.required "name" Json.text?
  let key ← r.optional "public_key" PublicKey.ofJson?
  let port ← r.optional "listen_port" Json.u16?
  let mark ← r.optional "fwmark" Json.u32?
  let peers ← r.required "peers" (Json.list? PeerStatus.ofJson?)
  return ⟨name, key, port, mark, peers⟩

/-- A peer's block as JSON. -/
def PeerBlock.toJson (b : PeerBlock) : Json :=
  .obj [("public_key", b.publicKey.toJson), ("remove", .bool b.remove),
    ("update_only", .bool b.updateOnly),
    ("preshared_key", .ofOption (fun k => .str k.toBase64) b.presharedKey),
    ("endpoint", .ofOption SocketAddress.toJson b.endpoint),
    ("persistent_keepalive", .ofOption (fun n => .nat n.toNat) b.keepalive),
    ("replace_allowed_ips", .bool b.replaceAllowedIps),
    ("allowed_ips", .ofList Subnet.toJson b.allowedIps)]

/-- A request as JSON. -/
def Request.toJson (r : Request) : Json :=
  .obj [("private_key", .ofOption (fun k => .str k.toBase64) r.privateKey),
    ("listen_port", .ofOption (fun n => .nat n.toNat) r.listenPort),
    ("fwmark", .ofOption (fun n => .nat n.toNat) r.fwmark),
    ("replace_peers", .bool r.replacePeers), ("peers", .ofList PeerBlock.toJson r.peers)]

end TunnelMesh
