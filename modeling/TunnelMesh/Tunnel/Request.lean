/-
Requests that change a tunnel device: building their text, and reading it.

A draft collects calls.  Its interface lines are written first, in a fixed order
and with their last values, then the lines of the peers in call order, then an
empty line.  Reading takes the lines before the first empty one; a repeated key
keeps its last value, except allowed IPs, which add up.
-/
import TunnelMesh.Tunnel.Line

namespace TunnelMesh

open Net

/-- What a request says about one peer. -/
structure PeerBlock where
  publicKey : PublicKey
  /-- Take the peer away. -/
  remove : Bool := false
  /-- Leave the device alone if it does not have the peer. -/
  updateOnly : Bool := false
  presharedKey : Option PresharedKey := none
  endpoint : Option SocketAddress := none
  /-- Zero switches keepalives off. -/
  keepalive : Option UInt16 := none
  /-- Forget the peer's subnets before adding the listed ones. -/
  replaceAllowedIps : Bool := false
  allowedIps : List Subnet := []
deriving DecidableEq

/-- A request that changes a device. -/
structure Request where
  privateKey : Option PrivateKey := none
  listenPort : Option UInt16 := none
  fwmark : Option UInt32 := none
  /-- Take every peer away first. -/
  replacePeers : Bool := false
  peers : List PeerBlock := []
deriving DecidableEq

/-- A request under construction. -/
structure Request.Draft where
  privateKey : Option PrivateKey := none
  listenPort : Option UInt16 := none
  fwmark : Option UInt32 := none
  replacePeers : Bool := false
  /-- The lines about peers, in call order. -/
  body : List RequestLine := []
deriving DecidableEq

/-- The lines that set a peer. With `clear`, a missing keepalive is written as zero. -/
def PeerConfig.requestLines (p : PeerConfig) (clear : Bool) : List RequestLine :=
  [RequestLine.publicKey p.publicKey] ++
  (p.presharedKey.map fun k => RequestLine.peer (.presharedKey k)).toList ++
  (p.endpoint.map fun a => RequestLine.peer (.endpoint a)).toList ++
  (match p.keepalive with
    | some n => [RequestLine.peer (.keepalive n)]
    | none => if clear then [RequestLine.peer (.keepalive 0)] else []) ++
  [RequestLine.peer (.replaceAllowedIps true)] ++
  p.allowedIps.map fun n => RequestLine.peer (.allowedIp n)

namespace Request.Draft

/-- Appends a peer as given. -/
def peer (d : Draft) (p : PeerConfig) : Draft :=
  { d with body := d.body ++ p.requestLines false }

/-- Appends several peers. -/
def addPeers (d : Draft) (ps : List PeerConfig) : Draft :=
  ps.foldl peer d

/-- Appends the removal of a peer. -/
def removePeer (d : Draft) (key : PublicKey) : Draft :=
  { d with body := d.body ++ [.publicKey key, .peer (.remove true)] }

/-- Whether `next` lacks something of `previous` that a request cannot take away. -/
def dropsUnsettable (previous next : PeerConfig) : Bool :=
  (previous.endpoint.isSome && next.endpoint.isNone) ||
    (previous.presharedKey.isSome && next.presharedKey.isNone)

/-- Appends the change of a peer from one configuration to another. A dropped endpoint or preshared
key takes the peer away first; a dropped keepalive is set to zero. -/
def updatePeer (d : Draft) (previous next : PeerConfig) : Draft :=
  if dropsUnsettable previous next then (d.removePeer next.publicKey).peer next
  else
    let clear := previous.keepalive.isSome && next.keepalive.isNone
    { d with body := d.body ++ next.requestLines clear }

/-- The interface lines of a draft. -/
def interfaceLines (d : Draft) : List RequestLine :=
  (d.privateKey.map fun k => RequestLine.interface (.privateKey k)).toList ++
  (d.listenPort.map fun p => RequestLine.interface (.listenPort p)).toList ++
  (d.fwmark.map fun m => RequestLine.interface (.fwmark m)).toList ++
  (if d.replacePeers then [RequestLine.interface (.replacePeers true)] else [])

/-- All lines of a draft. -/
def lines (d : Draft) : List RequestLine := d.interfaceLines ++ d.body

/-- The text of a draft. -/
def build (d : Draft) : String :=
  String.join (d.lines.map fun l => l.toText ++ "\n") ++ "\n"

end Request.Draft

/-! ### Reading -/

/-- What an interface line does to a request. -/
def Request.setInterface (r : Request) : InterfaceLine → Request
  | .privateKey k => { r with privateKey := some k }
  | .listenPort p => { r with listenPort := some p }
  | .fwmark m => { r with fwmark := some m }
  | .replacePeers b => { r with replacePeers := b }

/-- What a peer line does to a peer. -/
def PeerBlock.set (b : PeerBlock) : PeerLine → PeerBlock
  | .remove v => { b with remove := v }
  | .updateOnly v => { b with updateOnly := v }
  | .presharedKey k => { b with presharedKey := some k }
  | .endpoint a => { b with endpoint := some a }
  | .keepalive n => { b with keepalive := some n }
  | .replaceAllowedIps v => { b with replaceAllowedIps := v }
  | .allowedIp n => { b with allowedIps := b.allowedIps ++ [n] }

/-- A request while its lines are read. -/
structure Request.Reading where
  /-- The finished part. -/
  done : Request := {}
  /-- The peer whose lines are being read. -/
  current : Option PeerBlock := none
deriving DecidableEq

namespace Request.Reading

/-- The request with the open peer at its end. -/
def finish (r : Reading) : Request :=
  match r.current with
  | none => r.done
  | some b => { r.done with peers := r.done.peers ++ [b] }

/-- What a line does to the reading. A peer line outside a peer changes nothing; reading never
yields one. -/
def push (r : Reading) : RequestLine → Reading
  | .publicKey k => ⟨r.finish, some { publicKey := k }⟩
  | .interface l => { r with done := r.done.setInterface l }
  | .peer l => { r with current := r.current.map (·.set l) }

/-- Reads lines up to an empty one; `number` is the number of the first of them. -/
def run (r : Reading) (number : Nat) : List String → Except TunnelError Request
  | [] => .error (.line number .unterminated)
  | line :: rest =>
    if line.isEmpty then .ok r.finish
    else
      match RequestLine.read r.current.isSome line with
      | .error e => .error (.line number e)
      | .ok l => (r.push l).run (number + 1) rest

end Request.Reading

/-- Reads a request. -/
def Request.ofText (s : String) : Except TunnelError Request :=
  Request.Reading.run {} 1 (Text.lines s)

end TunnelMesh
