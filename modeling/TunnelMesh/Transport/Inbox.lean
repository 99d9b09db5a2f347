/-
The queue of received datagrams.

The readers of all transports deliver into one bounded queue.  Nobody waits: a
datagram that finds the queue full is lost, and one that finds it closed tells its
reader to stop.  A queue has one place at least, and not more than can be counted.
-/
import TunnelMesh.Transport.Endpoint

namespace TunnelMesh.Transport

/-- The most places that a queue can have. -/
def mostPlaces : Nat := 2305843009213693951

/-- Whether a queue can have so many places. -/
def isCapacity (places : Nat) : Bool := 0 < places && places ≤ mostPlaces

/-- A bounded queue of datagrams. -/
structure Inbox where
  capacity : Nat
  /-- What was delivered and not received yet, oldest first. -/
  waiting : List Datagram
  /-- Whether somebody may still receive. -/
  isOpen : Bool

namespace Inbox

/-- An open queue without datagrams. -/
def ofCapacity (capacity : Nat) : Inbox := ⟨capacity, [], true⟩

/-- Whether a delivery would be kept. -/
def accepts (q : Inbox) : Bool := q.isOpen && q.waiting.length < q.capacity

/-- Delivers a datagram for a transport; says whether the queue is still open. -/
def deliver (q : Inbox) (transport : Nat) (data : List UInt8) (origin : Endpoint) : Bool × Inbox :=
  (q.isOpen,
    if q.accepts then { q with waiting := q.waiting ++ [⟨data, ⟨transport, origin⟩⟩] } else q)

/-- Receives the oldest datagram, if there is one. -/
def receive (q : Inbox) : Option Datagram × Inbox :=
  match q.waiting with
  | [] => (none, q)
  | d :: rest => (some d, { q with waiting := rest })

/-- Closes the queue; what waits in it is lost. -/
def close (q : Inbox) : Inbox := { q with waiting := [], isOpen := false }

end Inbox

end TunnelMesh.Transport
