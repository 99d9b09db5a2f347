/-
What a tunnel device tells about itself.

A reply is lines up to the first empty one.  Keys that are not known are skipped,
so that newer devices stay readable; an error number other than zero fails the
whole reply.  Times and keepalives of zero mean that there is none.
-/
import TunnelMesh.Tunnel.Line

namespace TunnelMesh

open Net

/-- A peer as a device has it. -/
structure PeerStatus where
  publicKey : PublicKey
  endpoint : Option SocketAddress := none
  allowedIps : List Subnet := []
  /-- Seconds since the start of 1970. -/
  lastHandshake : Option UInt64 := none
  rxBytes : UInt64 := 0
  txBytes : UInt64 := 0
  keepalive : Option UInt16 := none
deriving DecidableEq

/-- An interface as a device has it. -/
structure InterfaceStatus where
  name : String
  publicKey : Option PublicKey := none
  listenPort : Option UInt16 := none
  fwmark : Option UInt32 := none
  peers : List PeerStatus := []
deriving DecidableEq

/-- A line of a reply that says something. -/
inductive StatusLine where
  /-- An error number other than zero. -/
  | failure (number : Int)
  /-- Starts a peer. -/
  | publicKey (key : PublicKey)
  | ownKey (key : PrivateKey)
  | listenPort (port : UInt16)
  | fwmark (mark : UInt32)
  | endpoint (address : SocketAddress)
  | allowedIp (subnet : Subnet)
  | lastHandshake (secs : UInt64)
  | rxBytes (n : UInt64)
  | txBytes (n : UInt64)
  | keepalive (secs : UInt16)
  /-- Nothing of interest. -/
  | skipped
deriving DecidableEq

/-- Reads a line before every peer. -/
def StatusLine.readInterface (key value : String) : Except LineFault StatusLine :=
  if key = "private_key" then (PrivateKey.ofHex value).map .ownKey |>.mapError .badKey
  else if key = "listen_port" then (readValue Text.u16? key value).map .listenPort
  else if key = "fwmark" then (readValue Text.u32? key value).map .fwmark
  else .ok .skipped

/-- Reads a line after a `public_key` line. -/
def StatusLine.readPeer (key value : String) : Except LineFault StatusLine :=
  if key = "endpoint" then (readValue SocketAddress.ofText? key value).map .endpoint
  else if key = "allowed_ip" then (readSubnet value).map .allowedIp
  else if key = "last_handshake_time_sec" then (readValue Text.u64? key value).map .lastHandshake
  else if key = "rx_bytes" then (readValue Text.u64? key value).map .rxBytes
  else if key = "tx_bytes" then (readValue Text.u64? key value).map .txBytes
  else if key = "persistent_keepalive_interval" then (readValue Text.u16? key value).map .keepalive
  else .ok .skipped

/-- The bound of a signed number of 32 bits. -/
def errnoBound : Nat := 2147483648

/-- Reads a line of a reply; `inPeer` tells whether a `public_key` line stands before it. -/
def StatusLine.read (inPeer : Bool) (line : String) : Except LineFault StatusLine :=
  match splitLine line with
  | .error e => .error e
  | .ok (key, value) =>
    if key = "errno" then
      (readValue (Text.int? errnoBound) key value).map fun n =>
        if n = 0 then .skipped else .failure n
    else if key = "public_key" then (PublicKey.ofHex value).map .publicKey |>.mapError .badKey
    else if inPeer then readPeer key value
    else readInterface key value

/-- A reply while its lines are read. -/
structure InterfaceStatus.Reading where
  /-- The finished part. -/
  done : InterfaceStatus
  /-- The peer whose lines are being read. -/
  current : Option PeerStatus := none

namespace InterfaceStatus.Reading

/-- The status with the open peer at its end. -/
def finish (r : Reading) : InterfaceStatus :=
  match r.current with
  | none => r.done
  | some p => { r.done with peers := r.done.peers ++ [p] }

/-- Zero means that there is none. -/
def unlessZero {α : Type} [DecidableEq α] [OfNat α 0] (a : α) : Option α :=
  if a = 0 then none else some a

/-- Changes the open peer. -/
def inPeer (r : Reading) (f : PeerStatus → PeerStatus) : Reading :=
  { r with current := r.current.map f }

/-- What a line does to the reading. -/
def push (r : Reading) : StatusLine → Reading
  | .failure _ => r
  | .skipped => r
  | .publicKey k => ⟨r.finish, some { publicKey := k }⟩
  | .ownKey k => { r with done := { r.done with publicKey := some k.publicKey } }
  | .listenPort p => { r with done := { r.done with listenPort := some p } }
  | .fwmark m => { r with done := { r.done with fwmark := some m } }
  | .endpoint a => r.inPeer fun p => { p with endpoint := some a }
  | .allowedIp n => r.inPeer fun p => { p with allowedIps := p.allowedIps ++ [n] }
  | .lastHandshake t => r.inPeer fun p => { p with lastHandshake := unlessZero t }
  | .rxBytes n => r.inPeer fun p => { p with rxBytes := n }
  | .txBytes n => r.inPeer fun p => { p with txBytes := n }
  | .keepalive n => r.inPeer fun p => { p with keepalive := unlessZero n }

/-- Reads lines up to an empty one or the end; `number` is the number of the first of them. -/
def run (r : Reading) (number : Nat) : List String → Except TunnelError InterfaceStatus
  | [] => .ok r.finish
  | line :: rest =>
    if line.isEmpty then .ok r.finish
    else
      match StatusLine.read r.current.isSome line with
      | .error e => .error (.line number e)
      | .ok (.failure n) => .error (.errno r.done.name n)
      | .ok l => (r.push l).run (number + 1) rest

end InterfaceStatus.Reading

/-- Reads the reply of the device with the given interface name. -/
def InterfaceStatus.ofText (interface s : String) : Except TunnelError InterfaceStatus :=
  Reading.run ⟨{ name := interface }, none⟩ 1 (Text.lines s)

end TunnelMesh
