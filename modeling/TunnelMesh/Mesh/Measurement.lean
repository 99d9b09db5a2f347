/-
Measurements that nodes made of each other.

A sample belongs to an ordered pair of nodes and to the way it was taken: against
an endpoint or against the tunnel address.  Snapshots tell when a node's tunnels
last completed a handshake.  Nodes exchange what they measured as reports, in
which tunnel addresses stand for nodes.
-/
import TunnelMesh.Mesh.Node
import TunnelMesh.Route.Quantity
import TunnelMesh.Tunnel.Status

namespace TunnelMesh

open Net

/-- The result of a probe. -/
inductive Sample (α : Type) where
  /-- A round trip in milliseconds. -/
  | measured (ms : α)
  | unreachable
deriving Repr

/-- The round trip in milliseconds, if there was one. -/
def Sample.millis {α : Type} : Sample α → Option α
  | .measured ms => some ms
  | .unreachable => none

/-- A span of time in milliseconds. -/
def Duration.toMillis (d : Duration) : Float :=
  (d.secs.toFloat + d.subsecNanos.toFloat / 1000000000.0) * 1000.0

/-- The sample of a probe that took a span of time, or got no answer. -/
def Sample.ofRoundTrip : Option Duration → Sample Float
  | some d => .measured d.toMillis
  | none => .unreachable

/-- What a probe goes against. -/
inductive ProbeKind where
  | endpoint
  /-- The address inside the tunnel. -/
  | inner
deriving DecidableEq, Repr

/-- What a node knows about one of its tunnels. -/
structure PeerRuntime where
  publicKey : PublicKey
  lastHandshake : Option Instant
  rxBytes : UInt64
  txBytes : UInt64
deriving DecidableEq

/-- What a node knows about its tunnels at a time. -/
structure Snapshot where
  reportedAt : Instant
  peers : List PeerRuntime
deriving DecidableEq

namespace Snapshot

/-- The handshake time that a device tells in seconds, where the calendar reaches it. -/
def handshakeAt (secs : UInt64) : Option Instant := Instant.ofSeconds? secs.toNat

/-- The snapshot of a device's status. -/
def ofStatus (s : InterfaceStatus) (at_ : Instant) : Snapshot :=
  ⟨at_, s.peers.map fun p =>
    ⟨p.publicKey, p.lastHandshake.bind handshakeAt, p.rxBytes, p.txBytes⟩⟩

/-- The first tunnel with a key. -/
def peer? (s : Snapshot) (key : PublicKey) : Option PeerRuntime :=
  s.peers.find? fun p => p.publicKey == key

end Snapshot

/-- What one node measured, as it is exchanged. -/
structure Report (α : Type) where
  nodeId : NodeId
  snapshot : Option Snapshot
  endpointLatency : Std.ExtTreeMap NodeId (Sample α)
  /-- The node that each tunnel address belongs to. -/
  innerNodes : Std.ExtTreeMap Address NodeId
  innerLatency : Std.ExtTreeMap Address (Sample α)

/-- Samples by ordered pair. -/
abbrev Samples (α : Type) := Std.ExtTreeMap Direction (Sample α)

/-- All measurements that a node knows of. -/
structure Measurements (α : Type) where
  endpoint : Samples α
  inner : Samples α
  snapshots : Std.ExtTreeMap NodeId Snapshot

namespace Measurements

variable {α : Type}

/-- Nothing measured. -/
def empty : Measurements α := ⟨∅, ∅, ∅⟩

/-- The samples of one kind. -/
def samples (m : Measurements α) : ProbeKind → Samples α
  | .endpoint => m.endpoint
  | .inner => m.inner

/-- The sample of a pair. -/
def sample? (m : Measurements α) (kind : ProbeKind) (observer dest : NodeId) :
    Option (Sample α) :=
  (m.samples kind)[Direction.mk observer dest]?

/-- Keeps a sample, in place of an older one. -/
def record (m : Measurements α) (observer dest : NodeId) (kind : ProbeKind) (s : Sample α) :
    Measurements α :=
  match kind with
  | .endpoint => { m with endpoint := m.endpoint.insert ⟨observer, dest⟩ s }
  | .inner => { m with inner := m.inner.insert ⟨observer, dest⟩ s }

/-- A measured round trip of one kind between two nodes, `a` looking at `b` first. -/
def measuredEither (m : Measurements α) (kind : ProbeKind) (a b : NodeId) : Option α :=
  ((m.sample? kind a b).bind Sample.millis).or ((m.sample? kind b a).bind Sample.millis)

/-- The latency between two nodes: the mean of both kinds, or the only one. -/
def latency? [Quantity α] (m : Measurements α) (a b : NodeId) : Option α :=
  match m.measuredEither .endpoint a b, m.measuredEither .inner a b with
  | some e, some v => some (Quantity.div (Quantity.add e v) (Quantity.ofNat 2))
  | some e, none => some e
  | none, v => v

/-- Whether one node reached an endpoint of another. -/
def reached (m : Measurements α) (observer dest : NodeId) : Bool :=
  match m.sample? .endpoint observer dest with
  | some (.measured _) => true
  | _ => false

/-- Keeps a snapshot, in place of an older one. -/
def setSnapshot (m : Measurements α) (n : NodeId) (s : Snapshot) : Measurements α :=
  { m with snapshots := m.snapshots.insert n s }

/-- How long ago a node's tunnel to another completed a handshake; nothing if the node has not told
about the tunnel, the longest span if there never was one. -/
def observedAge (m : Measurements α) (owner peer : Node) (now : Instant) : Option Duration :=
  (m.snapshots[owner.id]?.bind fun s => s.peer? peer.publicKey).map fun p =>
    match p.lastHandshake with
    | none => Duration.max
    | some t => now.elapsed t

/-- The longer of two ages, or the only one. -/
def olderAge : Option Duration → Option Duration → Option Duration
  | some x, some y => some (if x ≤ y then y else x)
  | some x, none => some x
  | none, y => y

/-- The age of the tunnel between two nodes, the longer one where both tell. -/
def handshakeAge (m : Measurements α) (a b : Node) (now : Instant) : Option Duration :=
  olderAge (m.observedAge a b now) (m.observedAge b a now)

/-- The samples of a report against tunnel addresses, by node; addresses of no node are skipped. -/
def innerSamples (r : Report α) : List (NodeId × Sample α) :=
  r.innerLatency.toList.filterMap fun (ip, s) => r.innerNodes[ip]?.map (·, s)

/-- Overlays samples of one observer. -/
def overlay (old : Samples α) (observer : NodeId) (new : List (NodeId × Sample α)) : Samples α :=
  new.foldl (fun acc p => acc.insert ⟨observer, p.1⟩ p.2) old

/-- Takes a report over. -/
def applyReport (m : Measurements α) (r : Report α) : Measurements α where
  endpoint := overlay m.endpoint r.nodeId r.endpointLatency.toList
  inner := overlay m.inner r.nodeId (innerSamples r)
  snapshots := match r.snapshot with
    | some s => m.snapshots.insert r.nodeId s
    | none => m.snapshots

/-- The nodes of a list for which an observer has a sample against the tunnel address. -/
def innerOf (m : Measurements α) (observer : NodeId) (nodes : List Node) :
    List (Node × Sample α) :=
  nodes.filterMap fun n => (m.sample? .inner observer n.id).map (n, ·)

/-- What an observer measured. Where nodes share a tunnel address, the last of them counts. -/
def report (m : Measurements α) (observer : NodeId) (nodes : List Node) : Report α where
  nodeId := observer
  snapshot := m.snapshots[observer]?
  endpointLatency := m.endpoint.toList.foldl
    (fun acc (d, s) => if d.observer == observer then acc.insert d.dest s else acc) ∅
  innerNodes := (m.innerOf observer nodes).foldl
    (fun acc (n, _) => acc.insert n.address.address n.id) ∅
  innerLatency := (m.innerOf observer nodes).foldl
    (fun acc (n, s) => acc.insert n.address.address s) ∅

/-- Samples without those that a node took or that were taken of it. -/
def without (samples : Samples α) (n : NodeId) : Samples α :=
  samples.filter fun d _ => d.observer != n && d.dest != n

/-- Forgets a node. -/
def removeNode (m : Measurements α) (n : NodeId) : Measurements α :=
  ⟨without m.endpoint n, without m.inner n, m.snapshots.erase n⟩

/-- The number of samples. -/
def count (m : Measurements α) : Nat := m.endpoint.size + m.inner.size

end Measurements

end TunnelMesh
