/-
Peers behind relays, made reachable for a device that only knows datagrams.

Each peer gets a leg: a socket on the loopback address.  What the device sends to
a leg goes out over the peer's relay connection, and what comes in over the
connection reaches the device from the leg.  Legs of dialed peers stay; those of
accepted peers are dropped once the connection is gone.

A leg has a forwarder, which takes one datagram of the device after the other and
sends it.  When a send finds that its peer is not connected and cannot be dialed,
the forwarder cancels its leg and ends.  A leg keeps its place until it is dropped,
also when it was cancelled.

Closing tells everything to end and waits for it.  A forwarder that waits for a send
does not see that it is to end, so closing lasts as long as its sends do.
-/
import TunnelMesh.Agent.Error
import TunnelMesh.Transport.Traffic

namespace TunnelMesh

open Net Transport

/-- How far the forwarder of a leg has come. -/
inductive Forwarder where
  /-- It waits for the device. -/
  | listening
  /-- It waits for a send; sends are known by their numbers. -/
  | sending (send : Nat)
  | ended
deriving DecidableEq

/-- The socket that stands for a peer. -/
structure Leg where
  remote : BindEndpoint
  address : SocketAddress
  cancelled : Bool
  forwarder : Forwarder
deriving DecidableEq

namespace Leg

/-- The leg is told to end. -/
def cancel (l : Leg) : Leg := { l with cancelled := true }

/-- The forwarder goes on. -/
def moveOn (l : Leg) (forwarder : Forwarder) : Leg := { l with forwarder }

/-- The forwarder ends, if the leg was told to and it is not waiting for a send. -/
def retire (l : Leg) : Leg :=
  if l.cancelled ∧ l.forwarder = .listening then l.moveOn .ended else l

end Leg

/-- A bridge between relay connections and a device. -/
structure RelayBridge where
  bind : MultiBind
  /-- Where the device listens. -/
  device : SocketAddress
  /-- Every leg that was opened, in order. -/
  opened : List Leg
  /-- The number of each peer's leg. -/
  legs : Std.ExtTreeMap BindEndpoint Nat
  /-- Whether datagrams are received for the device. -/
  receiving : Bool
  /-- Whether everything was told to end. -/
  cancelled : Bool

namespace RelayBridge

variable {σ : Type} [Sockets σ]

/-- The address on which legs and devices live. -/
def loopback : Address := .v4 (.ofOctets 127 0 0 1)

/-- A bridge to a device. -/
def toDevice (settings : RelaySettings) (device : SocketAddress) : RelayBridge where
  bind := { members := [.webSocket { settings }] }
  device
  opened := []
  legs := ∅
  receiving := false
  cancelled := false

/-- A bridge to the device at a port of this host. -/
def toPort (settings : RelaySettings) (port : UInt16) : RelayBridge :=
  toDevice settings (.ofAddress loopback port)

/-- Opens the transport and begins to receive. -/
def openOn (b : RelayBridge) (host : σ) : Except (Fault BindError) Unit × RelayBridge × σ :=
  match b.bind.openOn host 0 with
  | (.error f, bind, host) => (.error f, { b with bind }, host)
  | (.ok _, bind, host) => (.ok (), { b with bind, receiving := true }, host)

/-- Changes a leg. -/
def modify (b : RelayBridge) (n : Nat) (f : Leg → Leg) : RelayBridge :=
  { b with opened := b.opened.modify n f }

/-! ### Legs -/

/-- Whether the peer of an endpoint was dialed. -/
def isDialed (remote : BindEndpoint) : Bool :=
  match remote.inner with
  | .relay (.dialed _) => true
  | _ => false

/-- Whether a leg stays: it was not cancelled, and its peer was dialed or is connected. -/
def isLive (b : RelayBridge) (remote : BindEndpoint) (n : Nat) : Bool :=
  (b.opened[n]?).any fun l => !l.cancelled && (isDialed remote || b.bind.isConnected remote)

/-- Whether a leg has the place of its peer and does not stay. -/
def isStale (b : RelayBridge) (n : Nat) (l : Leg) : Bool :=
  b.legs[l.remote]? == some n && !b.isLive l.remote n

/-- Drops and cancels legs that do not stay; the answer is their number. -/
def prune (b : RelayBridge) : Nat × RelayBridge :=
  let kept := b.legs.filter b.isLive
  let opened := b.opened.mapIdx fun n l => if b.isStale n l then l.cancel else l
  (b.legs.size - kept.size, { b with legs := kept, opened })

/-- Where the leg is that a peer has, unless it was cancelled. -/
def leg? (b : RelayBridge) (remote : BindEndpoint) : Option SocketAddress :=
  (((b.legs[remote]?).bind fun n => b.opened[n]?).filter fun l => !l.cancelled).map (·.address)

/-- A leg at an address takes the place of a peer. -/
def addLeg (b : RelayBridge) (remote : BindEndpoint) (address : SocketAddress) : RelayBridge :=
  { b with
    opened := b.opened ++ [⟨remote, address, b.cancelled, .listening⟩]
    legs := b.legs.insert remote b.opened.length }

/-- The leg of a peer, a new one if there is none. -/
def leg (b : RelayBridge) (host : σ) (remote : BindEndpoint) :
    Except String SocketAddress × RelayBridge × σ :=
  match b.leg? remote with
  | some address => (.ok address, b, host)
  | none =>
    match Sockets.bindDatagram host loopback 0 with
    | (.error message, host) => (.error message, b.prune.2, host)
    | (.ok address, host) => (.ok address, b.prune.2.addLeg remote address, host)

/-- The address under which the device reaches the peer at a relay's address, as `read` reads it. -/
def endpointFor (b : RelayBridge) (read : String → Option RelayUrl) (host : σ) (text : String) :
    Except AgentError SocketAddress × RelayBridge × σ :=
  match b.bind.endpoint read text with
  | .error e => (.error (.transport e), b, host)
  | .ok remote =>
    let (r, b, host) := b.leg host remote
    (r.mapError .io, b, host)

/-- Where relay connections are accepted. -/
def listenAddress (b : RelayBridge) : Option SocketAddress := b.bind.listenAddress

/-! ### Towards the device -/

/-- Hands a received datagram to the device, from the leg of its origin. -/
def arrive (b : RelayBridge) (host : σ) (d : Datagram) : Except String Unit × RelayBridge × σ :=
  match b.leg host d.origin with
  | (.error message, b, host) => (.error message, b, host)
  | (.ok address, b, host) =>
    let (r, host) := Sockets.sendDatagram host address d.data b.device
    (r, b, host)

/-- Receives a datagram, if one waits, and hands it to the device. -/
def receive (b : RelayBridge) (host : σ) : RelayBridge × σ :=
  if b.receiving then
    match b.bind.receive with
    | (.ok (some d), bind) => (({ b with bind } : RelayBridge).arrive host d).2
    | _ => (b, host)
  else (b, host)

/-! ### From the device -/

/-- The forwarder of a leg gets a datagram from the device and begins to send it to the peer, where
the send does not fail at once. -/
def hear (b : RelayBridge) (n : Nat) (data : List UInt8) : RelayBridge :=
  match b.opened[n]? with
  | some ⟨remote, _, false, .listening⟩ =>
    match b.bind.sending? remote.transport, remote.inner.relay? with
    | some s, some peer =>
      { b with bind := b.bind.goOn remote.transport (.call peer data) }.modify n
        (·.moveOn (.sending s.sends.length))
    | _, _ => b
  | _ => b

/-- The forwarder of a leg learns what came of its send: where the peer was not connected, it cancels
its leg and ends, and else it goes back to the device. -/
def learn (b : RelayBridge) (n : Nat) : RelayBridge :=
  match b.opened[n]? with
  | some ⟨remote, _, _, .sending i⟩ =>
    match (b.bind.sending? remote.transport).bind fun s => s.sends[i]? with
    | some ⟨_, _, .returned _ (.error (.notConnected _))⟩ => b.modify n (·.cancel.moveOn .ended)
    | some ⟨_, _, .returned ..⟩ => b.modify n (·.moveOn .listening)
    | _ => b
  | _ => b

/-- The forwarder of a leg that was told to end does so, unless it waits for a send. -/
def retire (b : RelayBridge) (n : Nat) : RelayBridge := b.modify n Leg.retire

/-! ### The end -/

/-- Everything is told to end. -/
def cancel (b : RelayBridge) : RelayBridge :=
  { b with cancelled := true, opened := b.opened.map Leg.cancel }

/-- Nothing is received any more, once everything was told to end. -/
def stopReceiving (b : RelayBridge) : RelayBridge := { b with receiving := b.receiving && !b.cancelled }

/-- Whether everything that was told to end has ended. -/
def isQuiet (b : RelayBridge) : Bool :=
  b.cancelled && !b.receiving && b.opened.all fun l => l.forwarder == .ended

/-- Drops every leg and every connection, once all has ended. -/
def clear (b : RelayBridge) : RelayBridge :=
  if b.isQuiet then { b with legs := ∅, bind := b.bind.close } else b

/-- The forwarder of a leg learns what came of its send, if it waits for one, and ends. -/
def finish (b : RelayBridge) (n : Nat) : RelayBridge := (b.learn n).retire n

/-- Tells everything to end, and drops every leg and every connection if all has ended.  A forwarder
whose send goes on has not, and then closing waits. -/
def close (b : RelayBridge) : RelayBridge :=
  ((List.range b.opened.length).foldl finish b.cancel.stopReceiving).clear

end RelayBridge

end TunnelMesh
