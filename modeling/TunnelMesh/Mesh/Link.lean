/-
Links that are configured between nodes, and edges of the graph that routes run
over.
-/
import TunnelMesh.Mesh.Node
import TunnelMesh.Route.Quantity

namespace TunnelMesh

/-- A configured link from one node to another. Hints that are not positive say nothing. -/
structure Link (α : Type) where
  id : UInt64
  networkId : NetworkId
  source : NodeId
  target : NodeId
  /-- Expected latency in milliseconds. -/
  latencyMs : α
  /-- Expected bandwidth in megabits a second. -/
  upMbps : α
  /-- Where to reach the target over this link. -/
  endpoint : Option String
  active : Bool

namespace Link

/-- An active link without hints. -/
def new {α : Type} [Quantity α] (source target : NodeId) : Link α :=
  ⟨0, ⟨0⟩, source, target, Quantity.ofNat 0, Quantity.ofNat 0, none, true⟩

/-- A link with hints. -/
def withHints {α : Type} (l : Link α) (latencyMs upMbps : α) : Link α :=
  { l with latencyMs, upMbps }

/-- Links both ways with the same hints. -/
def pair {α : Type} [Quantity α] (a b : NodeId) (latencyMs upMbps : α) : List (Link α) :=
  [(new a b).withHints latencyMs upMbps, (new b a).withHints latencyMs upMbps]

end Link

/-- Where an edge comes from. -/
inductive EdgeKind where
  /-- A configured link. -/
  | explicit
  /-- The access rules allow it and the target can be reached. -/
  | implicit
deriving DecidableEq, Repr

/-- An edge of the graph that routes run over. -/
structure Edge (α : Type) where
  source : NodeId
  target : NodeId
  kind : EdgeKind
  latencyMs : α
  upMbps : α
  endpoint : Option String
  /-- What it costs to use the edge. -/
  weight : α
  /-- The subnets routed over the edge. -/
  routes : List Net.Subnet

/-- The edges that leave each node. -/
abbrev Adjacency (α : Type) := Std.ExtTreeMap NodeId (List (Edge α))

namespace Adjacency

variable {α : Type}

/-- The edges that leave a node. -/
def out (g : Adjacency α) (n : NodeId) : List (Edge α) := g.getD n []

/-- All edges, by source. -/
def edges (g : Adjacency α) : List (Edge α) := g.values.flatten

/-- Keeps the edges that satisfy a test. -/
def keep (g : Adjacency α) (p : Edge α → Bool) : Adjacency α := g.map fun _ es => es.filter p

end Adjacency

end TunnelMesh
