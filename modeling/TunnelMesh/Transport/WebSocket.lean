/-
The transport that carries each datagram in a message of a relay connection.

It accepts connections if it has an address to listen on, and dials the addresses
of peers when something is first sent to them.  A datagram counts as sent once its
frame was written; if that fails the connection is given up.

Connections that were accepted wait in a queue until they are registered.  The path
that a request has to name and the places for frames before their writer are left out:
which connections come in is up to the host, a frame that waits for a place has its
next step still before it, and a dial whose connection gets no queue is given up.
-/
import TunnelMesh.Transport.Inbox
import TunnelMesh.Transport.Sending
import TunnelMesh.Transport.Sockets

namespace TunnelMesh.Transport

open Net

/-- The settings of a relay transport. -/
structure RelaySettings where
  /-- Where to accept connections, if anywhere. -/
  listen : Option SocketAddress := none
  /-- How many accepted connections may wait to be registered. -/
  registrationQueue : Nat := 16
  /-- How long connecting may take. -/
  handshakeTimeout : Duration := .ofSecs 10

/-- The places of the queue in which accepted connections wait. -/
def RelaySettings.places (s : RelaySettings) : Nat := Nat.max s.registrationQueue 1

/-- What an open relay transport holds. -/
structure RelayState where
  sending : Sending
  /-- Where it accepts connections. -/
  local? : Option SocketAddress

/-- A relay transport. -/
structure RelayTransport where
  settings : RelaySettings
  /-- The state while open. -/
  state : Option RelayState := none

namespace RelayState

variable {σ : Type} [Sockets σ]

/-- The connections. -/
def registry (s : RelayState) : Registry := s.sending.registry

/-- The state after a send, a dial or a connection went a step further. -/
def step (s : RelayState) (e : Sending.Event) : RelayState := { s with sending := s.sending.step e }

/-- A send that has to dial does so, and nobody interferes with it. -/
def dial (s : Sending) (host : σ) (i : Nat) (settings : RelaySettings) : Sending × σ :=
  match s.sends[i]? with
  | some ⟨_, _, .unconnected url⟩ =>
    let (outcome, host) := Sockets.connect host url settings.handshakeTimeout
    let k := s.dialing.dials.length
    let s := s.advance i
    ({ s with dialing := s.dialing.complete k outcome }.advance i, host)
  | _ => (s, host)

/-- A send that has a connection queues its frame, and the writer takes it up at once. -/
def write (s : Sending) (host : σ) (i : Nat) : Sending × σ :=
  match s.sends[i]? with
  | some ⟨peer, data, .queueing id⟩ =>
    let s := (s.advance i).after (.take id)
    let (sent, host) := Sockets.writeFrame host peer data
    let s :=
      if sent then s.after (.sent id)
      else ((s.after (.failed id)).after (.reported id)).after (.dropped id)
    (s.advance i, host)
  | _ => (s, host)

/-- Sends a datagram, and dials first if need be. -/
def send (s : RelayState) (host : σ) (settings : RelaySettings) (data : List UInt8)
    (peer : RelayPeer) : Except BindError Unit × RelayState × σ :=
  let i := s.sending.sends.length
  let (x, host) := dial ((s.sending.call peer data).advance i) host i settings
  let (x, host) := write x host i
  match x.sends[i]? with
  | some ⟨_, _, .returned _ result⟩ => (result, { s with sending := x }, host)
  | _ => (.error (.connectionClosed peer.toText), { s with sending := x }, host)

end RelayState

namespace RelayTransport

variable {σ : Type} [Sockets σ]

/-- Opens the transport; this breaks off where the queue of accepted connections cannot be made. -/
def openOn (t : RelayTransport) (host : σ) : Except (Fault BindError) Unit × RelayTransport × σ :=
  if t.state.isSome then (.error (.failed (.alreadyOpen .webSocket)), t, host)
  else
    match t.settings.listen with
    | none => (.ok (), { t with state := some ⟨.empty, none⟩ }, host)
    | some addr =>
      match Sockets.listen host addr with
      | (.error message, host) => (.error (.failed (.io message)), t, host)
      | (.ok bound, host) =>
        if isCapacity t.settings.places then
          (.ok (), { t with state := some ⟨.empty, some bound⟩ }, host)
        else (.error .broken, t, host)

/-- The endpoint that a text stands for: an address of a relay, as `read` reads it. -/
def endpoint? (read : String → Option RelayUrl) (s : String) : Option Endpoint :=
  (read s).map fun url => .relay (.dialed url)

/-- Sends a datagram, and dials first if need be. -/
def send (t : RelayTransport) (host : σ) (data : List UInt8) (peer : RelayPeer) :
    Except BindError Unit × RelayTransport × σ :=
  match t.state with
  | none => (.error (.notOpen .webSocket), t, host)
  | some s =>
    let (result, s, host) := s.send host t.settings data peer
    (result, { t with state := some s }, host)

/-- The transport after a send, a dial or a connection went a step further. -/
def step (t : RelayTransport) (e : Sending.Event) : RelayTransport :=
  { t with state := t.state.map fun s => s.step e }

/-- Closes every connection. -/
def close (t : RelayTransport) : RelayTransport := { t with state := none }

/-- Where connections are accepted, while open. -/
def localAddress (t : RelayTransport) : Option SocketAddress := t.state.bind (·.local?)

/-- Whether there is a connection to a peer. -/
def isConnected (t : RelayTransport) (peer : RelayPeer) : Bool :=
  t.state.any fun s => s.registry.isConnected peer

/-- The number of connections. -/
def connectionCount (t : RelayTransport) : Nat :=
  match t.state with
  | none => 0
  | some s => s.registry.count

end RelayTransport

end TunnelMesh.Transport
