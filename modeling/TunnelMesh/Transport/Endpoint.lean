/-
Where datagrams come from and go to.

A transport knows its own kind of endpoint; a bind of several transports adds the
place of the transport, so that an answer leaves the way the datagram came.
-/
import TunnelMesh.Net.SocketAddress
import TunnelMesh.Url.Basic

namespace TunnelMesh.Transport

open Net

/-- The kinds of transports. -/
inductive Kind where
  | udp
  | webSocket
deriving DecidableEq, Repr

/-- The name of a kind. -/
def Kind.name : Kind → String
  | .udp => "udp"
  | .webSocket => "websocket"

/-- The other end of a relay connection. -/
inductive RelayPeer where
  /-- The connection is opened to this address when it is first needed. -/
  | dialed (url : RelayUrl)
  /-- The connection came from this address and lasts as long as it stays open. -/
  | accepted (addr : SocketAddress)
deriving DecidableEq

namespace RelayPeer

/-- The text of a peer. -/
def toText : RelayPeer → String
  | dialed url => url.toText
  | accepted addr => "ws-peer:" ++ addr.toText

/-- The address that was dialed. -/
def url? : RelayPeer → Option RelayUrl
  | dialed url => some url
  | accepted _ => none

/-- The address that was accepted. -/
def addr? : RelayPeer → Option SocketAddress
  | dialed _ => none
  | accepted addr => some addr

/-- Accepted peers come before dialed ones. -/
instance : Ord RelayPeer := ⟨compareLex (compareOn url?) (compareOn addr?)⟩

instance : Std.TransOrd RelayPeer :=
  inferInstanceAs (Std.TransCmp (compareLex (compareOn url?) (compareOn addr?)))

instance : Std.LawfulEqOrd RelayPeer :=
  Order.lawful_compareLex (f := url?) (g := addr?) fun a b h h' => by
    cases a <;> cases b <;> simp_all [url?, addr?]

end RelayPeer

/-- An endpoint of one transport. -/
inductive Endpoint where
  | udp (addr : SocketAddress)
  | relay (peer : RelayPeer)
deriving DecidableEq

namespace Endpoint

/-- The kind of transport that an endpoint belongs to. -/
def kind : Endpoint → Kind
  | udp _ => .udp
  | relay _ => .webSocket

/-- The text of an endpoint. -/
def toText : Endpoint → String
  | udp addr => addr.toText
  | relay peer => peer.toText

/-- The address of a datagram endpoint. -/
def udp? : Endpoint → Option SocketAddress
  | udp addr => some addr
  | relay _ => none

/-- The peer of a relay endpoint. -/
def relay? : Endpoint → Option RelayPeer
  | udp _ => none
  | relay peer => some peer

/-- Relay peers come before addresses. -/
instance : Ord Endpoint := ⟨compareLex (compareOn udp?) (compareOn relay?)⟩

instance : Std.TransOrd Endpoint :=
  inferInstanceAs (Std.TransCmp (compareLex (compareOn udp?) (compareOn relay?)))

instance : Std.LawfulEqOrd Endpoint :=
  Order.lawful_compareLex (f := udp?) (g := relay?) fun a b h h' => by
    cases a <;> cases b <;> simp_all [udp?, relay?]

end Endpoint

/-- An endpoint with the place of the transport that it belongs to. -/
structure BindEndpoint where
  transport : Nat
  inner : Endpoint
deriving DecidableEq

namespace BindEndpoint

/-- The text of an endpoint with its transport. -/
def toText (e : BindEndpoint) : String := e.inner.toText ++ "#" ++ toString e.transport

/-- By transport, then by endpoint. -/
instance : Ord BindEndpoint := ⟨compareLex (compareOn transport) (compareOn inner)⟩

instance : Std.TransOrd BindEndpoint :=
  inferInstanceAs (Std.TransCmp (compareLex (compareOn transport) (compareOn inner)))

instance : Std.LawfulEqOrd BindEndpoint :=
  Order.lawful_compareLex (f := transport) (g := inner) fun a b h h' => by
    cases a; cases b; simp_all

end BindEndpoint

/-- A datagram with its origin. -/
structure Datagram where
  data : List UInt8
  origin : BindEndpoint
deriving DecidableEq

end TunnelMesh.Transport
