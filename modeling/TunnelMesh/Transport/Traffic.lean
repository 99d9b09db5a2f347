/-
What happens to a bind, one event at a time and in any order.

Between the calls on a bind its transports live on: readers deliver what they receive,
and sends over relay connections, dials and the connections themselves go on step by
step.
-/
import TunnelMesh.Transport.Bind

namespace TunnelMesh.Transport

open Net

/-- What the reader of a transport gets. -/
inductive Arrival where
  /-- A datagram at the socket. -/
  | datagram (sender : SocketAddress)
  /-- A message over a connection. -/
  | message (peer : RelayPeer)
deriving DecidableEq

/-- The endpoint that the reader of a transport says something came from; no reader gets what belongs
to the other kind of transport. -/
def Member.origin? (arrival : Arrival) : Member → Option Endpoint
  | .udp _ =>
    match arrival with
    | .datagram sender => some (.udp sender)
    | .message _ => none
  | .webSocket _ =>
    match arrival with
    | .datagram _ => none
    | .message peer => some (.relay peer)

/-- The sends over a transport, if it is a relay transport and open. -/
def Member.sending? : Member → Option Sending
  | .udp _ => none
  | .webSocket t => t.state.map (·.sending)

/-- A transport after a send, a dial or a connection of its went a step further. -/
def Member.step (e : Sending.Event) : Member → Member
  | .udp t => .udp t
  | .webSocket t => .webSocket (t.step e)

namespace MultiBind

/-- The reader of a transport gets something and delivers it. -/
def arrive (b : MultiBind) (transport : Nat) (arrival : Arrival) (data : List UInt8) : MultiBind :=
  match (b.members[transport]?).bind fun t => t.origin? arrival with
  | some origin => b.deliver transport data origin
  | none => b

/-- The sends over a transport, if it is a relay transport and open. -/
def sending? (b : MultiBind) (transport : Nat) : Option Sending :=
  (b.members[transport]?).bind Member.sending?

/-- A bind after a send, a dial or a connection of a transport went a step further. -/
def goOn (b : MultiBind) (transport : Nat) (e : Sending.Event) : MultiBind :=
  { b with members := b.members.modify transport fun t => t.step e }

/-- What happens to a bind. -/
inductive Event where
  | openOn (port : UInt16)
  | close
  | setMark (mark : UInt32)
  | send (data : List UInt8) (dest : BindEndpoint)
  | receive
  | arrive (transport : Nat) (arrival : Arrival) (data : List UInt8)
  | goOn (transport : Nat) (event : Sending.Event)

variable {σ : Type} [Sockets σ]

/-- The bind and its host after an event. -/
def step (x : MultiBind × σ) : Event → MultiBind × σ
  | .openOn port => (x.1.openOn x.2 port).2
  | .close => (x.1.close, x.2)
  | .setMark mark => (x.1.setMark x.2 mark).2
  | .send data dest => (x.1.send x.2 data dest).2
  | .receive => (x.1.receive.2, x.2)
  | .arrive transport arrival data => (x.1.arrive transport arrival data, x.2)
  | .goOn transport event => (x.1.goOn transport event, x.2)

end MultiBind

end TunnelMesh.Transport
