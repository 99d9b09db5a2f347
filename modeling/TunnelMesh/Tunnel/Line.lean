/-
Lines of the control protocol of a tunnel device.

A line is a key, an equals sign and a value.  Interface lines come first; each
`public_key` line starts a peer, and the lines after it belong to that peer.  An
empty line ends the text.
-/
import TunnelMesh.Text.Lines
import TunnelMesh.Tunnel.Peer

namespace TunnelMesh

open Net

/-- A line about the interface. -/
inductive InterfaceLine where
  | privateKey (key : PrivateKey)
  | listenPort (port : UInt16)
  | fwmark (mark : UInt32)
  | replacePeers (on : Bool)
deriving DecidableEq

/-- A line about the peer whose `public_key` line was last. -/
inductive PeerLine where
  | remove (on : Bool)
  | updateOnly (on : Bool)
  | presharedKey (key : PresharedKey)
  | endpoint (address : SocketAddress)
  | keepalive (seconds : UInt16)
  | replaceAllowedIps (on : Bool)
  | allowedIp (subnet : Subnet)
deriving DecidableEq

/-- A line of a request that changes a device. -/
inductive RequestLine where
  /-- Starts a peer. -/
  | publicKey (key : PublicKey)
  | interface (line : InterfaceLine)
  | peer (line : PeerLine)
deriving DecidableEq

/-- The text of a truth value. -/
def boolText (b : Bool) : String := if b then "true" else "false"

/-- The text of an interface line. -/
def InterfaceLine.toText : InterfaceLine → String
  | .privateKey k => "private_key=" ++ k.toHex
  | .listenPort p => "listen_port=" ++ toString p.toNat
  | .fwmark m => "fwmark=" ++ toString m.toNat
  | .replacePeers b => "replace_peers=" ++ boolText b

/-- The text of a peer line. -/
def PeerLine.toText : PeerLine → String
  | .remove b => "remove=" ++ boolText b
  | .updateOnly b => "update_only=" ++ boolText b
  | .presharedKey k => "preshared_key=" ++ k.toHex
  | .endpoint a => "endpoint=" ++ a.toText
  | .keepalive n => "persistent_keepalive_interval=" ++ toString n.toNat
  | .replaceAllowedIps b => "replace_allowed_ips=" ++ boolText b
  | .allowedIp n => "allowed_ip=" ++ n.toText

/-- The text of a request line. -/
def RequestLine.toText : RequestLine → String
  | .publicKey k => "public_key=" ++ k.toHex
  | .interface l => l.toText
  | .peer l => l.toText

/-- Splits a line at its first equals sign. -/
def splitLine (line : String) : Except LineFault (String × String) :=
  match Text.splitOnce '=' line with
  | some kv => .ok kv
  | none => .error (.noSeparator line)

/-- Reads `true` or `false`. -/
def readBool (value : String) : Except LineFault Bool :=
  if value = "true" then .ok true
  else if value = "false" then .ok false
  else .error (.badBool value)

/-- Reads a value that the key demands to be of some form. -/
def readValue {α : Type} (read : String → Option α) (key value : String) : Except LineFault α :=
  match read value with
  | some a => .ok a
  | none => .error (.badValue key value)

/-- Reads a subnet or a bare address. -/
def readSubnet (value : String) : Except LineFault Subnet :=
  match readAllowedIp value with
  | .ok n => .ok n
  | .error _ => .error (.badSubnet (Text.trim value))

/-- Reads a line that stands before every peer. -/
def InterfaceLine.read (key value : String) : Except LineFault InterfaceLine :=
  if key = "private_key" then (PrivateKey.ofHex value).map .privateKey |>.mapError .badKey
  else if key = "listen_port" then (readValue Text.u16? key value).map .listenPort
  else if key = "fwmark" then (readValue Text.u32? key value).map .fwmark
  else if key = "replace_peers" then (readBool value).map .replacePeers
  else .error (.unknownInterfaceKey key)

/-- The keys of interface lines. -/
def interfaceKeys : List String := ["private_key", "listen_port", "fwmark", "replace_peers"]

/-- Reads a line that stands after a `public_key` line. -/
def PeerLine.read (key value : String) : Except LineFault PeerLine :=
  if key = "remove" then (readBool value).map .remove
  else if key = "update_only" then (readBool value).map .updateOnly
  else if key = "preshared_key" then (PresharedKey.ofHex value).map .presharedKey |>.mapError .badKey
  else if key = "endpoint" then (readValue SocketAddress.ofText? key value).map .endpoint
  else if key = "persistent_keepalive_interval" then (readValue Text.u16? key value).map .keepalive
  else if key = "replace_allowed_ips" then (readBool value).map .replaceAllowedIps
  else if key = "allowed_ip" then (readSubnet value).map .allowedIp
  else if interfaceKeys.contains key then .error (.lateInterfaceKey key)
  else .error (.unknownPeerKey key)

/-- Reads a line of a request; `inPeer` tells whether a `public_key` line stands before it. -/
def RequestLine.read (inPeer : Bool) (line : String) : Except LineFault RequestLine :=
  match splitLine line with
  | .error e => .error e
  | .ok (key, value) =>
    if key = "public_key" then (PublicKey.ofHex value).map .publicKey |>.mapError .badKey
    else if inPeer then (PeerLine.read key value).map .peer
    else (InterfaceLine.read key value).map .interface

end TunnelMesh
