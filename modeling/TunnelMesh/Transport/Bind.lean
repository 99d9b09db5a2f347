/-
Several transports as one socket for datagrams.

The bind opens all of its transports, or closes again those that it opened when one of
them fails.  Where a queue cannot be made, opening breaks off, and nothing is closed
again.  A text is an endpoint of the first transport that takes it, and every received
datagram names its transport.
-/
import TunnelMesh.Transport.Inbox
import TunnelMesh.Transport.Udp
import TunnelMesh.Transport.WebSocket

namespace TunnelMesh.Transport

open Net

/-- A transport of either kind, as a member of a bind. -/
inductive Member where
  | udp (t : UdpTransport)
  | webSocket (t : RelayTransport)

namespace Member

variable {σ : Type} [Sockets σ]

/-- The kind of a transport. -/
def kind : Member → Kind
  | .udp _ => .udp
  | .webSocket _ => .webSocket

/-- Whether a transport is open. -/
def isOpen : Member → Bool
  | .udp t => t.socket.isSome
  | .webSocket t => t.state.isSome

/-- Opens a transport; the answer is its port, if it has one. -/
def openOn (host : σ) (port : UInt16) :
    Member → Except (Fault BindError) (Option UInt16) × Member × σ
  | .udp t => let (r, t, host) := t.openOn host port; ((r.map some).mapError .failed, .udp t, host)
  | .webSocket t => let (r, t, host) := t.openOn host; (r.map fun _ => none, .webSocket t, host)

/-- Closes a transport. -/
def close : Member → Member
  | .udp t => .udp t.close
  | .webSocket t => .webSocket t.close

/-- The endpoint that a text stands for on a transport. -/
def endpoint? (read : String → Option RelayUrl) (s : String) : Member → Option Endpoint
  | .udp _ => UdpTransport.endpoint? s
  | .webSocket _ => RelayTransport.endpoint? read s

/-- Whether there is a path to an endpoint: always for datagrams, else while connected. -/
def isConnected (dest : Endpoint) : Member → Bool
  | .udp _ => dest.kind = .udp
  | .webSocket t => dest.relay?.any t.isConnected

/-- Sends a datagram to an endpoint of the transport's kind. -/
def send (host : σ) (data : List UInt8) (dest : Endpoint) :
    Member → Except BindError Unit × Member × σ
  | .udp t =>
    match dest with
    | .udp addr => let (r, host) := t.send host data addr; (r, .udp t, host)
    | .relay _ => (.error (.unsupported (dest.toText ++ " is not a udp endpoint")), .udp t, host)
  | .webSocket t =>
    match dest with
    | .relay peer => let (r, t, host) := t.send host data peer; (r, .webSocket t, host)
    | .udp _ =>
      (.error (.unsupported (dest.toText ++ " is not a websocket endpoint")), .webSocket t, host)

/-- Sets the mark of outgoing packets, where there is such a thing. -/
def setMark (host : σ) (mark : UInt32) :
    Member → Except BindError Unit × Member × σ
  | .udp t => let (r, t, host) := t.setMark host mark; (r, .udp t, host)
  | .webSocket t => (.ok (), .webSocket t, host)

end Member

/-- A bind of several transports. -/
structure MultiBind where
  members : List Member
  /-- The capacity of the queue. -/
  queueSize : Nat := 1024
  /-- What was received, while open. -/
  inbox : Option Inbox := none

namespace MultiBind

variable {σ : Type} [Sockets σ]

/-- A bind with a queue of at least one place. -/
def withQueueSize (b : MultiBind) (n : Nat) : MultiBind := { b with queueSize := Nat.max n 1 }

/-- Opens transports one after the other; after a failure those opened before are closed again.
The answer is the first port. -/
def openAll (host : σ) (port : UInt16) : List Member →
    Except (Fault BindError) (Option UInt16) × List Member × σ
  | [] => (.ok none, [], host)
  | t :: rest =>
    match t.openOn host port with
    | (.error f, t, host) => (.error f, t :: rest, host)
    | (.ok p, t, host) =>
      match openAll host port rest with
      | (.error (.failed e), rest, host) => (.error (.failed e), t.close :: rest, host)
      | (.error .broken, rest, host) => (.error .broken, t :: rest, host)
      | (.ok q, rest, host) => (.ok (p.or q), t :: rest, host)

/-- Opens the bind; the answer is the port of the first transport that has one.  The queue is made
first. -/
def openOn (b : MultiBind) (host : σ) (port : UInt16) :
    Except (Fault BindError) UInt16 × MultiBind × σ :=
  if isCapacity b.queueSize then
    match openAll host port b.members with
    | (.error f, ts, host) => (.error f, { b with members := ts }, host)
    | (.ok p, ts, host) =>
      (.ok (p.getD port), { b with members := ts, inbox := some (.ofCapacity b.queueSize) }, host)
  else (.error .broken, b, host)

/-- A transport's reader delivers what it received. -/
def deliver (b : MultiBind) (transport : Nat) (data : List UInt8) (origin : Endpoint) : MultiBind :=
  { b with inbox := b.inbox.map fun q => (q.deliver transport data origin).2 }

/-- Receives a datagram, if one waits; a bind that nobody can deliver to is as good as closed. -/
def receive (b : MultiBind) : Except BindError (Option Datagram) × MultiBind :=
  match b.inbox with
  | none => (.error .closed, b)
  | some q =>
    let (d, q) := q.receive
    if d.isNone && b.members.isEmpty then (.error .closed, b)
    else (.ok d, { b with inbox := some q })

/-- The first endpoint that transports from place `i` on make of a text. -/
def findEndpoint? (read : String → Option RelayUrl) (s : String) (i : Nat) :
    List Member → Option BindEndpoint
  | [] => none
  | t :: rest =>
    match t.endpoint? read s with
    | some e => some ⟨i, e⟩
    | none => findEndpoint? read s (i + 1) rest

/-- The endpoint that a text stands for. -/
def endpoint (b : MultiBind) (read : String → Option RelayUrl) (s : String) :
    Except BindError BindEndpoint :=
  match findEndpoint? read s 0 b.members with
  | some e => .ok e
  | none => .error (.unsupported s)

/-- Sends a datagram through the transport that an endpoint names. -/
def send (b : MultiBind) (host : σ) (data : List UInt8) (dest : BindEndpoint) :
    Except BindError Unit × MultiBind × σ :=
  match b.members[dest.transport]? with
  | none => (.error (.unsupported dest.toText), b, host)
  | some t =>
    let (r, t, host) := t.send host data dest.inner
    (r, { b with members := b.members.set dest.transport t }, host)

/-- Whether there is a path to an endpoint. -/
def isConnected (b : MultiBind) (dest : BindEndpoint) : Bool :=
  (b.members[dest.transport]?).any fun t => t.isConnected dest.inner

/-- Closes every transport and the queue. -/
def close (b : MultiBind) : MultiBind :=
  { b with members := b.members.map Member.close, inbox := none }

/-- Sets the mark on transports one after the other and collects the failures. -/
def markAll (host : σ) (mark : UInt32) : List Member → List BindError × List Member × σ
  | [] => ([], [], host)
  | t :: rest =>
    let (r, t, host) := t.setMark host mark
    let (errors, rest, host) := markAll host mark rest
    ((match r with | .ok () => errors | .error e => e :: errors), t :: rest, host)

/-- Sets the mark of outgoing packets. -/
def setMark (b : MultiBind) (host : σ) (mark : UInt32) : Except BindError Unit × MultiBind × σ :=
  let (errors, ts, host) := markAll host mark b.members
  (BindError.join errors, { b with members := ts }, host)

/-- Where relay connections are accepted. -/
def listenAddress (b : MultiBind) : Option SocketAddress :=
  b.members.findSome? fun
    | .webSocket t => t.localAddress
    | .udp _ => none

end MultiBind

end TunnelMesh.Transport
