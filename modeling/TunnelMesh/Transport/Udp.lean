/-
The transport that sends datagrams as they are.
-/
import TunnelMesh.Transport.Sockets

namespace TunnelMesh.Transport

open Net

/-- A datagram socket that can be opened. -/
structure UdpTransport where
  /-- The address to bind on. -/
  ip : Address
  /-- The bound address while open. -/
  socket : Option SocketAddress := none
  /-- The mark of outgoing packets. -/
  mark : Option UInt32 := none

namespace UdpTransport

variable {σ : Type} [Sockets σ]

/-- Marks a socket, if there is a mark. -/
def applyMark (host : σ) (socket : SocketAddress) : Option UInt32 → Except BindError Unit × σ
  | none => (.ok (), host)
  | some m =>
    let (r, host) := Sockets.mark host socket m
    (r.mapError .io, host)

/-- Binds the socket; the answer is its port. -/
def openOn (t : UdpTransport) (host : σ) (port : UInt16) :
    Except BindError UInt16 × UdpTransport × σ :=
  if t.socket.isSome then (.error (.alreadyOpen .udp), t, host)
  else
    match Sockets.bindDatagram host t.ip port with
    | (.error message, host) => (.error (.io message), t, host)
    | (.ok socket, host) =>
      match applyMark host socket t.mark with
      | (.error e, host) => (.error e, t, host)
      | (.ok (), host) => (.ok socket.port, { t with socket := some socket }, host)

/-- The endpoint that a text stands for: an address with a port. -/
def endpoint? (s : String) : Option Endpoint := (SocketAddress.ofText? s).map .udp

/-- Sends a datagram. -/
def send (t : UdpTransport) (host : σ) (data : List UInt8) (dest : SocketAddress) :
    Except BindError Unit × σ :=
  match t.socket with
  | none => (.error (.notOpen .udp), host)
  | some socket =>
    let (r, host) := Sockets.sendDatagram host socket data dest
    (r.mapError .io, host)

/-- Closes the socket. -/
def close (t : UdpTransport) : UdpTransport := { t with socket := none }

/-- Sets the mark, at once if the socket is open. -/
def setMark (t : UdpTransport) (host : σ) (mark : UInt32) :
    Except BindError Unit × UdpTransport × σ :=
  let t := { t with mark := some mark }
  match t.socket with
  | none => (.ok (), t, host)
  | some socket =>
    let (r, host) := applyMark host socket t.mark
    (r, t, host)

end UdpTransport

end TunnelMesh.Transport
