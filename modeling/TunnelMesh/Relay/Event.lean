/-
What happens to an open bridge, one event at a time and in any order.

Forwarders, the receiver and the calls of the node take turns, and sends, dials and
connections go on in between.  Sends over the relay connections are made by
forwarders, and by nobody else.
-/
import TunnelMesh.Relay.Bridge

namespace TunnelMesh

open Net Transport

namespace RelayBridge

/-- What happens to an open bridge. -/
inductive Event where
  /-- The address for the peer at a relay's address is asked for. -/
  | endpointFor (text : String)
  /-- A reader of the bind gets a datagram of a peer. -/
  | deliver (peer : RelayPeer) (data : List UInt8)
  /-- A datagram that was received is handed to the device. -/
  | receive
  /-- The device sends a datagram to a leg. -/
  | hear (leg : Nat) (data : List UInt8)
  /-- The forwarder of a leg learns what came of its send. -/
  | learn (leg : Nat)
  /-- The forwarder of a leg that was told to end does so. -/
  | retire (leg : Nat)
  /-- A send, a dial or a connection goes a step further. -/
  | goOn (event : Sending.Event)
  /-- Legs that do not stay are dropped. -/
  | prune
  /-- The bridge is closed: everything is told to end. -/
  | cancel
  /-- After that nothing is received any more. -/
  | stopReceiving
  /-- And when all has ended, legs and connections are dropped. -/
  | clear

variable {σ : Type} [Sockets σ]

/-- The bridge and its host after an event; an event that is not possible changes nothing. -/
def step (read : String → Option RelayUrl) (x : RelayBridge × σ) : Event → RelayBridge × σ
  | .endpointFor text => (x.1.endpointFor read x.2 text).2
  | .deliver peer data => ({ x.1 with bind := x.1.bind.arrive 0 (.message peer) data }, x.2)
  | .receive => x.1.receive x.2
  | .hear n data => (x.1.hear n data, x.2)
  | .learn n => (x.1.learn n, x.2)
  | .retire n => (x.1.retire n, x.2)
  | .goOn (.call ..) | .goOn (.abandon _) => x
  | .goOn event => ({ x.1 with bind := x.1.bind.goOn 0 event }, x.2)
  | .prune => (x.1.prune.2, x.2)
  | .cancel => (x.1.cancel, x.2)
  | .stopReceiving => (x.1.stopReceiving, x.2)
  | .clear => (x.1.clear, x.2)

end RelayBridge

end TunnelMesh
