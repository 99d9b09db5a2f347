/-
The connections of an open relay transport.

Every peer has at most one current connection; a newer one takes its place and
cancels it.  Each connection has a reader and a writer.  Datagrams wait in the
connection's queue until the writer takes them; the writer reports for each one
whether it went out.  When the reader or the writer ends, the connection loses its
place, unless a newer one has it.  To cancel the connection that is replaced belongs to
the registration: nothing that happens asks whether a connection was told to end.

A writer that cannot go on does one thing after the other: the connection loses its
place, then the sender of the frame that failed learns of it, and then the queue is
dropped, by which the other senders learn of it.  Frames can still be queued before
that.
-/
import TunnelMesh.Transport.Endpoint

namespace TunnelMesh.Transport

/-- A frame on its way out, with a number of its own. -/
structure Frame where
  number : Nat
  data : List UInt8
deriving DecidableEq

/-- What became of a frame. -/
inductive Fate where
  /-- The writer sent it. -/
  | written
  /-- The connection closed before it was sent. -/
  | lost
deriving DecidableEq

/-- How far the writer of a connection has come. -/
inductive Writer where
  /-- It takes frames. -/
  | taking
  /-- It takes no more frames, and its queue is still there. -/
  | leaving
  /-- It has dropped its queue. -/
  | ended
deriving DecidableEq

/-- A connection that was registered. -/
structure Connection where
  peer : RelayPeer
  cancelled : Bool
  writer : Writer
  /-- Frames that wait for the writer, oldest first. -/
  queue : List Frame
  /-- The frame in the writer's hand. -/
  held : Option Frame
  /-- Frames with their fates, oldest first. -/
  settled : List (Frame × Fate)
deriving DecidableEq

namespace Connection

/-- A connection at its start. -/
def fresh (peer : RelayPeer) : Connection := ⟨peer, false, .taking, [], none, []⟩

/-- The frames that were sent, oldest first. -/
def written (c : Connection) : List Frame :=
  (c.settled.filter fun s => s.2 = .written).map (·.1)

/-- What became of a frame, once that is known. -/
def fate? (c : Connection) (number : Nat) : Option Fate :=
  (c.settled.find? fun s => s.1.number = number).map (·.2)

/-- Appends a frame to the queue; there is no way to do so once the writer has ended. -/
def enqueue? (c : Connection) (frame : Frame) : Option Connection :=
  if c.writer = .ended then none else some { c with queue := c.queue ++ [frame] }

/-- The writer takes the oldest frame. -/
def take (c : Connection) : Connection :=
  match c.writer, c.held, c.queue with
  | .taking, none, f :: rest => { c with held := some f, queue := rest }
  | _, _, _ => c

/-- The frame in the writer's hand was sent. -/
def acknowledge (c : Connection) : Connection :=
  match c.writer, c.held with
  | .taking, some f => { c with held := none, settled := c.settled ++ [(f, .written)] }
  | _, _ => c

/-- The writer takes no more frames. -/
def leave (c : Connection) : Connection := { c with writer := .leaving }

/-- The sender of the frame that could not be sent learns of it. -/
def report (c : Connection) : Connection :=
  match c.writer, c.held with
  | .leaving, some f => { c with held := none, settled := c.settled ++ [(f, .lost)] }
  | _, _ => c

/-- The queue is dropped; what still waits is lost. -/
def endWriter (c : Connection) : Connection :=
  match c.writer, c.held with
  | .leaving, none =>
    { c with
      writer := .ended, queue := []
      settled := c.settled ++ c.queue.map fun f => (f, .lost) }
  | _, _ => c

/-- The connection is told to end. -/
def cancel (c : Connection) : Connection := { c with cancelled := true }

end Connection

/-- All connections, by the number under which they were registered. -/
structure Registry where
  /-- Every connection that was registered, in order. -/
  connections : List Connection
  /-- The number of each peer's current connection. -/
  current : Std.ExtTreeMap RelayPeer Nat

namespace Registry

/-- No connection. -/
def empty : Registry := ⟨[], ∅⟩

/-- The current connection of a peer. -/
def find? (r : Registry) (peer : RelayPeer) : Option Nat := r.current[peer]?

/-- Whether a peer has a current connection. -/
def isConnected (r : Registry) (peer : RelayPeer) : Bool := (r.find? peer).isSome

/-- The number of current connections. -/
def count (r : Registry) : Nat := r.current.size

/-- Changes a connection. -/
def modify (r : Registry) (id : Nat) (f : Connection → Connection) : Registry :=
  { r with connections := r.connections.modify id f }

/-- Registers a new connection in a peer's place and cancels the one that had it. -/
def register (r : Registry) (peer : RelayPeer) : Nat × Registry :=
  let id := r.connections.length
  let old := r.find? peer
  let r := match old with
    | some other => r.modify other .cancel
    | none => r
  (id, { connections := r.connections ++ [.fresh peer], current := r.current.insert peer id })

/-- Takes a connection out of its peer's place, if it has it, and cancels it. -/
def remove (r : Registry) (peer : RelayPeer) (id : Nat) : Registry :=
  if r.find? peer = some id then
    { r.modify id .cancel with current := r.current.erase peer }
  else r

/-- Appends a frame to the queue of a connection whose writer still takes frames. -/
def enqueue? (r : Registry) (id : Nat) (frame : Frame) : Option Registry :=
  match r.connections[id]? with
  | none => none
  | some c => (c.enqueue? frame).map fun c => { r with connections := r.connections.set id c }

/-- The reader of a connection ends, and the connection loses its place. -/
def endReader (r : Registry) (id : Nat) : Registry :=
  match r.connections[id]? with
  | some c => r.remove c.peer id
  | none => r

/-- The writer of a connection cannot go on, and the connection loses its place: the frame in its
hand could not be sent, or it has none and was told to end. -/
def stopWriter (r : Registry) (id : Nat) (failed : Bool) : Registry :=
  match r.connections[id]? with
  | some c =>
    if c.writer = .taking ∧ c.held.isSome = failed then (r.remove c.peer id).modify id .leave else r
  | none => r

/-- What happens to connections. -/
inductive Event where
  /-- A connection is registered for a peer. -/
  | register (peer : RelayPeer)
  /-- A frame is queued. -/
  | enqueue (id : Nat) (frame : Frame)
  /-- The writer takes a frame. -/
  | take (id : Nat)
  /-- The frame in the writer's hand was sent. -/
  | sent (id : Nat)
  /-- Sending failed, and the connection loses its place. -/
  | failed (id : Nat)
  /-- The sender of the frame that could not be sent learns of it. -/
  | reported (id : Nat)
  /-- The reader has ended, and the connection loses its place. -/
  | readerEnded (id : Nat)
  /-- The writer has nothing in its hand and ends, and the connection loses its place. -/
  | writerEnded (id : Nat)
  /-- The queue of a writer that ends is dropped. -/
  | dropped (id : Nat)
  /-- All connections are told to end. -/
  | shutdown
deriving DecidableEq

/-- The registry after an event; an event that is not possible changes nothing. -/
def step (r : Registry) : Event → Registry
  | .register peer => (r.register peer).2
  | .enqueue id frame => (r.enqueue? id frame).getD r
  | .take id => r.modify id .take
  | .sent id => r.modify id .acknowledge
  | .failed id => r.stopWriter id true
  | .reported id => r.modify id .report
  | .readerEnded id => r.endReader id
  | .writerEnded id => r.stopWriter id false
  | .dropped id => r.modify id .endWriter
  | .shutdown => { r with connections := r.connections.map .cancel }

end Registry

end TunnelMesh.Transport
