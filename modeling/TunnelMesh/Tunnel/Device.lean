/-
Tunnel devices.

A device is created from an interface's settings, takes requests as text, is
brought up, tells its status and is closed.  `MemoryDevice` is one without a
kernel behind it: it keeps its peer table in order of the keys, and can be told to
refuse.  A request that it refuses leaves it as it was.
-/
import TunnelMesh.Order
import TunnelMesh.Tunnel.Interface
import TunnelMesh.Tunnel.Request
import TunnelMesh.Tunnel.Status

namespace TunnelMesh

/-- What a device can do. Each operation gives its answer and the device after it. -/
class TunnelDevice (δ : Type) where
  name : δ → String
  create : δ → InterfaceConfig → Except TunnelError Unit × δ
  /-- Takes the text of a request. -/
  apply : δ → String → Except TunnelError Unit × δ
  up : δ → Except TunnelError Unit × δ
  status : δ → Except TunnelError InterfaceStatus × δ
  close : δ → Except TunnelError Unit × δ

/-- The peers of a device in order of their keys. -/
abbrev PeerTable := Std.ExtTreeMap PublicKey PeerStatus

/-- A device kept in memory. -/
structure MemoryDevice where
  name : String
  created : Bool := false
  isUp : Bool := false
  privateKey : Option PrivateKey := none
  listenPort : Option UInt16 := none
  fwmark : Option UInt32 := none
  peers : PeerTable := ∅
  /-- The texts of the requests taken, oldest first. -/
  applied : List String := []
  /-- Requests that name one of these keys are refused. -/
  failing : List PublicKey := []
  /-- The next creation is refused. -/
  failCreate : Bool := false

/-- What one block of a request does to a peer's entry. -/
def PeerStatus.update (p : PeerStatus) (b : PeerBlock) : PeerStatus :=
  { p with
    endpoint := b.endpoint.or p.endpoint
    keepalive := match b.keepalive with
      | none => p.keepalive
      | some n => if n = 0 then none else some n
    allowedIps := (if b.replaceAllowedIps then [] else p.allowedIps) ++ b.allowedIps }

/-- What one block of a request does to a peer table. -/
def PeerTable.applyBlock (t : PeerTable) (b : PeerBlock) : PeerTable :=
  if b.remove then t.erase b.publicKey
  else
    match t[b.publicKey]? with
    | some p => t.insert b.publicKey (p.update b)
    | none =>
      if b.updateOnly then t
      else t.insert b.publicKey (PeerStatus.update { publicKey := b.publicKey } b)

/-- What the peers of a request do to a peer table. -/
def PeerTable.applyRequest (t : PeerTable) (r : Request) : PeerTable :=
  r.peers.foldl PeerTable.applyBlock (if r.replacePeers then ∅ else t)

namespace MemoryDevice

/-- A device that does not exist yet. -/
def named (name : String) : MemoryDevice := { name }

/-- Creates the device, once. A refusal that was asked for is used up. -/
def create (d : MemoryDevice) (c : InterfaceConfig) : Except TunnelError Unit × MemoryDevice :=
  match c.validate with
  | .error e => (.error e, d)
  | .ok () =>
    if d.failCreate then
      (.error (.device d.name "injected create failure"), { d with failCreate := false })
    else if d.created then (.error (.exists d.name), d)
    else (.ok (), { d with created := true })

/-- The name under which a refused key is reported. -/
def refusedName (d : MemoryDevice) (key : PublicKey) : String :=
  d.name ++ " (peer " ++ key.toBase64 ++ ")"

/-- The device after a request that it takes. -/
def accept (d : MemoryDevice) (text : String) (r : Request) : MemoryDevice :=
  { d with
    applied := d.applied ++ [text]
    privateKey := r.privateKey.or d.privateKey
    listenPort := r.listenPort.or d.listenPort
    fwmark := r.fwmark.or d.fwmark
    peers := d.peers.applyRequest r }

/-- Why the device refuses a request, if it does: the first block with a failing key counts. -/
def refusal (d : MemoryDevice) (r : Request) : Option TunnelError :=
  if !d.created then some (.notFound d.name)
  else
    (r.peers.find? fun b => d.failing.contains b.publicKey).map fun b =>
      .errno (d.refusedName b.publicKey) (-22)

/-- Takes the text of a request. -/
def apply (d : MemoryDevice) (text : String) : Except TunnelError Unit × MemoryDevice :=
  match Request.ofText text with
  | .error e => (.error e, d)
  | .ok r =>
    match d.refusal r with
    | some e => (.error e, d)
    | none => (.ok (), d.accept text r)

/-- Brings the device up. -/
def up (d : MemoryDevice) : Except TunnelError Unit × MemoryDevice :=
  if d.created then (.ok (), { d with isUp := true }) else (.error (.notFound d.name), d)

/-- Tells the status of the device. -/
def status (d : MemoryDevice) : Except TunnelError InterfaceStatus :=
  if d.created then
    .ok ⟨d.name, d.privateKey.map (·.publicKey), d.listenPort, d.fwmark, d.peers.values⟩
  else .error (.notFound d.name)

/-- Takes the device down and forgets its peers. -/
def close (d : MemoryDevice) : Except TunnelError Unit × MemoryDevice :=
  if d.created then (.ok (), { d with created := false, isUp := false, peers := ∅ })
  else (.error (.notFound d.name), d)

/-- Lets a peer complete a handshake at a time in seconds. -/
def handshake (d : MemoryDevice) (key : PublicKey) (secs : UInt64) :
    Except TunnelError Unit × MemoryDevice :=
  match d.peers[key]? with
  | none => (.error (.settings (.unknownPeer key)), d)
  | some p => (.ok (), { d with peers := d.peers.insert key { p with lastHandshake := some secs } })

/-- Refuses requests that name a key from now on. -/
def failPeer (d : MemoryDevice) (key : PublicKey) : MemoryDevice :=
  { d with failing := key :: d.failing }

/-- Refuses no key any more. -/
def clearFailures (d : MemoryDevice) : MemoryDevice := { d with failing := [] }

/-- Refuses the next creation. -/
def refuseCreate (d : MemoryDevice) : MemoryDevice := { d with failCreate := true }

instance : TunnelDevice MemoryDevice where
  name := name
  create := create
  apply := apply
  up := up
  status d := (d.status, d)
  close := close

end MemoryDevice

end TunnelMesh
