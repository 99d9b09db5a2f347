/-
Routing plans: for each node, its peers and the subnets that each of them takes.

From each source the other nodes are visited by distance, then id, and each claims
those of its subnets that nobody claimed before; the claims go to the first hop on
the way.  A peer with claims gets an entry in return from the other side, and every
node with a candidate edge in either direction is kept warm without routes.
-/
import TunnelMesh.Route.Candidates
import TunnelMesh.Route.ShortestPath

namespace TunnelMesh

open Net

/-- What a node does about one of its peers. -/
structure PeerPlan where
  nodeId : NodeId
  clientId : ClientId
  publicKey : PublicKey
  allowedIps : List Subnet
  endpoint : Option String
  keepalive : Option UInt16
deriving DecidableEq

namespace PeerPlan

/-- A peer that takes no subnet. -/
def empty (n : Node) (endpoint : Option String) (keepalive : Option UInt16) : PeerPlan :=
  ⟨n.id, n.clientId, n.publicKey, [], endpoint, keepalive⟩

/-- Whether the peer takes any subnet. -/
def hasRoutes (p : PeerPlan) : Bool := !p.allowedIps.isEmpty

/-- Peers are listed by client, then by node. -/
def order (a b : PeerPlan) : Bool :=
  a.clientId.value < b.clientId.value ||
    (a.clientId.value == b.clientId.value && a.nodeId.value ≤ b.nodeId.value)

end PeerPlan

/-- The peers of each node. -/
abbrev PeerLists := Std.ExtTreeMap NodeId (List PeerPlan)

/-- A plan for the whole mesh. -/
structure RoutingPlan (α : Type) where
  peers : PeerLists
  /-- The candidate edges. -/
  adjacency : Adjacency α
  /-- The edges in use, with their subnets. -/
  finalGraph : Adjacency α
  /-- The peers to keep warm. -/
  preconnect : PeerLists

/-- The nodes and edges of a plan in the making; of several nodes with one id the first counts. -/
structure RouteGraph (α : Type) where
  /-- Nodes in order of their ids. -/
  nodes : List Node
  table : NodeTable
  usable : Adjacency α

namespace RouteGraph

variable {α : Type} [Quantity α]

/-- The graph of a list of nodes. -/
def of (nodes : List Node) (usable : Adjacency α) : RouteGraph α :=
  let table : NodeTable := nodes.foldl (fun t n => t.insertIfNew n.id n) ∅
  ⟨table.values, table, usable⟩

/-- The ids in order. -/
def ids (g : RouteGraph α) : List NodeId := g.nodes.map Node.id

/-- Whether one reached node comes before another: by distance, then by id. -/
def before (a b : Node × α) : Bool :=
  Quantity.less a.2 b.2 || (!Quantity.less b.2 a.2 && (compare a.1.id b.1.id).isLE)

/-- The reached nodes other than the source, by distance, then id. -/
def destinations (g : RouteGraph α) (s : Search α) (source : NodeId) : List Node :=
  ((g.nodes.filterMap fun n =>
    if n.id = source then none
    else (s.dist[n.id]?.filter Quantity.finite).map fun d => (n, d)).mergeSort before).map (·.1)

/-- The subnets claimed so far, and those of each first hop. -/
structure Claims where
  taken : Std.ExtTreeSet Subnet
  byHop : Std.ExtTreeMap NodeId (Std.ExtTreeSet Subnet)

/-- Claims a subnet for a hop, unless somebody has it. -/
def Claims.claim (hop : NodeId) (c : Claims) (n : Subnet) : Claims :=
  if c.taken.contains n then c
  else ⟨c.taken.insert n, c.byHop.insert hop ((c.byHop.getD hop ∅).insert n)⟩

/-- Lets a node claim its subnets for the first hop on the way to it. -/
def Claims.visit (s : Search α) (source : NodeId) (c : Claims) (dest : Node) : Claims :=
  match s.firstHop source dest.id with
  | none => c
  | some hop => dest.routedSubnets.foldl (Claims.claim hop) c

/-- All claims of one source; its own subnets are nobody's. -/
def claims (g : RouteGraph α) (s : Search α) (source : Node) : Claims :=
  (g.destinations s source.id).foldl (Claims.visit s source.id) ⟨.ofList source.routedSubnets, ∅⟩

/-- The edge from one node to another. -/
def edge? (g : Adjacency α) (source target : NodeId) : Option (Edge α) :=
  (g.out source).find? fun e => e.target == target

/-- The peers of a source with their subnets, and the edges to them. -/
def assemble (g : RouteGraph α) (keepalive : Option UInt16) (source : Node) :
    List PeerPlan × List (Edge α) :=
  let s := Search.shortestPaths g.usable g.ids source.id
  let hops := (g.claims s source).byHop.toList.filterMap fun (hop, nets) =>
    g.table[hop]?.map fun n => (n, nets.toList)
  let plan (h : Node × List Subnet) : PeerPlan :=
    ⟨h.1.id, h.1.clientId, h.1.publicKey, h.2,
      (edge? g.usable source.id h.1.id).bind (·.endpoint), keepalive⟩
  let routed (h : Node × List Subnet) : Option (Edge α) :=
    (edge? g.usable source.id h.1.id).map fun e => { e with routes := h.2 }
  (hops.map plan, hops.filterMap routed)

/-- Where one node reaches another: over a candidate edge, else at its preferred endpoint. -/
def dialText (raw : Adjacency α) (source : NodeId) (target : Node) : Option String :=
  ((edge? raw source target.id).bind (·.endpoint)).or target.dialText

/-- The pairs of a node and a peer of it that takes subnets. -/
def routedPairs (peers : PeerLists) : List (NodeId × NodeId) :=
  peers.toList.flatMap fun (owner, list) =>
    (list.filter PeerPlan.hasRoutes).map fun p => (owner, p.nodeId)

/-- Gives a peer an entry for the owner, unless it has one. -/
def reciprocate (g : RouteGraph α) (raw : Adjacency α) (keepalive : Option UInt16)
    (peers : PeerLists) (pair : NodeId × NodeId) : PeerLists :=
  match g.table[pair.1]? with
  | none => peers
  | some owner =>
    let list := peers.getD pair.2 []
    if list.any fun p => p.nodeId == pair.1 then peers
    else peers.insert pair.2 (list ++ [.empty owner (dialText raw pair.2 owner) keepalive])

/-- Adds the missing entries in return. -/
def enforceSymmetry (g : RouteGraph α) (raw : Adjacency α) (keepalive : Option UInt16)
    (peers : PeerLists) : PeerLists :=
  (routedPairs peers).foldl (g.reciprocate raw keepalive) peers

/-- The nodes that each node has a candidate edge to or from. -/
def neighbours (g : RouteGraph α) (raw : Adjacency α) :
    Std.ExtTreeMap NodeId (Std.ExtTreeSet NodeId) :=
  let start : Std.ExtTreeMap NodeId (Std.ExtTreeSet NodeId) := g.table.map fun _ _ => ∅
  raw.edges.foldl (fun t e =>
    let t := t.insert e.source ((t.getD e.source ∅).insert e.target)
    t.insert e.target ((t.getD e.target ∅).insert e.source)) start

/-- The peers to keep warm. -/
def warmPeers (g : RouteGraph α) (raw : Adjacency α) (keepalive : Option UInt16) : PeerLists :=
  (g.neighbours raw).map fun id set =>
    ((set.toList.filterMap fun n => g.table[n]?).map fun n =>
      PeerPlan.empty n (dialText raw id n) keepalive).mergeSort PeerPlan.order

end RouteGraph

namespace RoutingPlan

variable {α : Type} [Quantity α]

open RouteGraph

/-- The plan for nodes and links. -/
def compute (c : GraphContext α) (nodes : List Node) (links : List (Link α)) : RoutingPlan α :=
  let raw := Candidates.build c nodes links
  let g := RouteGraph.of nodes (Candidates.usable c.measured raw)
  let keepalive := c.policy.keepalive
  let assembled := g.table.map fun _ n => g.assemble keepalive n
  let peers := g.enforceSymmetry raw keepalive (assembled.map fun _ a => a.1)
  { peers := peers.map fun _ list => list.mergeSort PeerPlan.order
    adjacency := raw
    finalGraph := assembled.map fun _ a => a.2
    preconnect := g.warmPeers raw keepalive }

/-- The peers of a node. -/
def peersFor (p : RoutingPlan α) (n : NodeId) : List PeerPlan := p.peers.getD n []

/-- The peers that a node keeps warm. -/
def preconnectFor (p : RoutingPlan α) (n : NodeId) : List PeerPlan := p.preconnect.getD n []

end RoutingPlan

end TunnelMesh
