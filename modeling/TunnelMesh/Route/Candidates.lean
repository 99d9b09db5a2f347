/-
Candidate edges between live nodes of one network.

A configured link gives an explicit edge, the first active one of a pair counting,
as long as one of its ends can be reached.  Any other pair whose target can be
reached has an implicit edge if the access rules allow it.  Two filters follow:
implicit edges stay only where a probe reached the target, and then edges stay
only in pairs.
-/
import TunnelMesh.Mesh.Access
import TunnelMesh.Mesh.Link
import TunnelMesh.Mesh.Measurement
import TunnelMesh.Route.Policy

namespace TunnelMesh

/-- What the graph is built from, besides nodes and links. -/
structure GraphContext (α : Type) where
  policy : Policy α
  access : AccessList
  measured : Measurements α
  now : Instant

namespace GraphContext

variable {α : Type} [Quantity α]

/-- An edge with its cost. -/
def edge (c : GraphContext α) (kind : EdgeKind) (src dst : Node) (latencyMs upMbps : α)
    (endpoint : Option String) : Edge α where
  source := src.id
  target := dst.id
  kind := kind
  latencyMs := latencyMs
  upMbps := upMbps
  endpoint := endpoint
  weight := c.policy.edgeWeight latencyMs upMbps (c.measured.handshakeAge src dst c.now)
  routes := []

/-- The measured latency between two nodes, or the one that stands for it. -/
def latencyBetween (c : GraphContext α) (a b : NodeId) : α :=
  (c.measured.latency? a b).getD c.policy.defaultLatencyMs

/-- Whether a node is live. -/
def live (c : GraphContext α) (n : Node) : Bool := c.policy.isLive n c.now

/-- The edge of a configured link; hints that are not positive are replaced. -/
def explicitEdge (c : GraphContext α) (l : Link α) (src dst : Node) : Edge α :=
  let latency := if Policy.isPositive l.latencyMs then l.latencyMs
    else c.latencyBetween src.id dst.id
  let up := if Policy.isPositive l.upMbps then l.upMbps else c.policy.defaultUpMbps
  c.edge .explicit src dst latency up (l.endpoint.or dst.dialText)

/-- The edge between nodes without a link. -/
def implicitEdge (c : GraphContext α) (src dst : Node) : Edge α :=
  c.edge .implicit src dst (c.latencyBetween src.id dst.id) c.policy.defaultUpMbps dst.dialText

/-- Whether there is an implicit edge between different nodes without a link. -/
def joinable (c : GraphContext α) (live : NodeId → Bool) (src dst : Node) : Bool :=
  src.id != dst.id && src.networkId == dst.networkId && live src.id && live dst.id &&
    dst.advertises && c.access.allows src dst

end GraphContext

/-- Nodes by id; of several with one id the last counts. -/
abbrev NodeTable := Std.ExtTreeMap NodeId Node

namespace NodeTable

/-- The table of a list. -/
def ofList (nodes : List Node) : NodeTable := nodes.foldl (fun t n => t.insert n.id n) ∅

end NodeTable

namespace Candidates

variable {α : Type} [Quantity α]

/-- Whether a link may join two nodes: they are live and in one network, and one of them can be
reached. -/
def linkable (live : NodeId → Bool) (src dst : Node) : Bool :=
  src.networkId == dst.networkId && live src.id && live dst.id &&
    (src.advertises || dst.advertises)

/-- The pairs that have an edge already. -/
abbrev Pairs := Std.ExtTreeSet Direction

/-- Appends an edge to those of its source. -/
def push (g : Adjacency α) (e : Edge α) : Adjacency α := g.insert e.source (g.out e.source ++ [e])

/-- Adds the edge of a link, unless its pair has one, an end is unknown or the ends do not fit. -/
def addLink (c : GraphContext α) (live : NodeId → Bool) (table : NodeTable)
    (s : Adjacency α × Pairs) (l : Link α) : Adjacency α × Pairs :=
  if !l.active || l.source == l.target then s
  else
    match table[l.source]?, table[l.target]? with
    | some src, some dst =>
      if linkable live src dst && !s.2.contains ⟨src.id, dst.id⟩ then
        (push s.1 (c.explicitEdge l src dst), s.2.insert ⟨src.id, dst.id⟩)
      else s
    | _, _ => s

/-- Adds the implicit edge of a pair, unless the pair has an edge. -/
def addPair (c : GraphContext α) (live : NodeId → Bool) (dst : Node)
    (s : Adjacency α × Pairs) (src : Node) : Adjacency α × Pairs :=
  if c.joinable live src dst && !s.2.contains ⟨src.id, dst.id⟩ then
    (push s.1 (c.implicitEdge src dst), s.2.insert ⟨src.id, dst.id⟩)
  else s

/-- Edges in order of their targets. -/
def byTarget (es : List (Edge α)) : List (Edge α) :=
  es.mergeSort fun a b => (compare a.target b.target).isLE

/-- The candidate edges of nodes and links. A node counts as live if any node of its id does. -/
def build (c : GraphContext α) (nodes : List Node) (links : List (Link α)) : Adjacency α :=
  let table := NodeTable.ofList nodes
  let liveIds : Std.ExtTreeSet NodeId := .ofList ((nodes.filter c.live).map Node.id)
  let live := fun id => liveIds.contains id
  let start : Adjacency α × Pairs := (table.map fun _ _ => [], ∅)
  let linked := links.foldl (addLink c live table) start
  let joined := table.values.foldl
    (fun s dst => table.values.foldl (addPair c live dst) s) linked
  joined.1.map fun _ es => byTarget es

/-- Keeps explicit edges, and implicit ones whose source reached the target. -/
def keepReached (m : Measurements α) (g : Adjacency α) : Adjacency α :=
  g.keep fun e => e.kind == .explicit || m.reached e.source e.target

/-- The ordered pairs that have an edge. -/
def pairs (g : Adjacency α) : Pairs := .ofList (g.edges.map fun e => Direction.mk e.source e.target)

/-- Keeps edges whose reverse is there too. -/
def keepMutual (g : Adjacency α) : Adjacency α :=
  let all := pairs g
  g.keep fun e => all.contains ⟨e.target, e.source⟩

/-- The edges that routes may use. -/
def usable (m : Measurements α) (g : Adjacency α) : Adjacency α := keepMutual (keepReached m g)

end Candidates

end TunnelMesh
