/-
Sockets of a host.

`Sockets` is what transports ask of a host; what fails is told in the words of the
host.  The isolated host opens every socket, on ports of its own choice where none is
asked for, and reaches nobody: sending and connecting fail, and packets cannot be
marked.
-/
import TunnelMesh.Time.Duration
import TunnelMesh.Transport.Error

namespace TunnelMesh.Transport

open Net

/-- A host that has sockets and changes by their use. -/
class Sockets (σ : Type) where
  /-- Opens a datagram socket; port zero asks for a free one. -/
  bindDatagram : σ → Address → UInt16 → Except String SocketAddress × σ
  /-- Marks the packets of a datagram socket. -/
  mark : σ → SocketAddress → UInt32 → Except String Unit × σ
  /-- Sends a datagram from a socket. -/
  sendDatagram : σ → SocketAddress → List UInt8 → SocketAddress → Except String Unit × σ
  /-- Listens for relay connections; port zero asks for a free one. -/
  listen : σ → SocketAddress → Except String SocketAddress × σ
  /-- Opens a relay connection, within the given time. -/
  connect : σ → RelayUrl → Duration → Except ConnectFault Unit × σ
  /-- Writes a frame to a relay connection; says whether that succeeded. -/
  writeFrame : σ → RelayPeer → List UInt8 → Bool × σ

/-- A host that reaches nobody. -/
structure IsolatedHost where
  /-- The port that is given out next. -/
  nextPort : Nat
deriving DecidableEq

namespace IsolatedHost

/-- The loopback address. -/
def loopback : Address := .v4 (.ofOctets 127 0 0 1)

/-- Opens a socket at an address. -/
def bind (h : IsolatedHost) (ip : Address) (port : UInt16) :
    Except String SocketAddress × IsolatedHost :=
  if port = 0 then (.ok (.ofAddress ip (UInt16.ofNat h.nextPort)), ⟨h.nextPort + 1⟩)
  else (.ok (.ofAddress ip port), h)

instance : Sockets IsolatedHost where
  bindDatagram := bind
  mark h _ _ := (.error "not permitted", h)
  sendDatagram h _ _ _ := (.error "unreachable", h)
  listen h a := h.bind a.address a.port
  connect h _ _ := (.error (.broken "unreachable"), h)
  writeFrame h _ _ := (false, h)

end IsolatedHost

end TunnelMesh.Transport
