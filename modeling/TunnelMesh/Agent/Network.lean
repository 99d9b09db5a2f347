/-
A node's view of its mesh: the topology, the access rules, and what was measured.

A new topology is taken over as a whole or not at all, and forgets the
measurements of nodes that are gone.  Reports are taken from other known nodes
only.
-/
import TunnelMesh.Agent.Error
import TunnelMesh.Probe.Target
import TunnelMesh.Route.Format

namespace TunnelMesh

open Net

/-- A node's view of its mesh. -/
structure Network where
  nodeId : NodeId
  policy : Policy Float
  access : AccessList
  topology : Topology Float
  measured : Measurements Float

/-- Steps that change a node's view and can fail. Changes made before a failure stay. -/
abbrev NetworkM := ExceptT AgentError (StateM Network)

/-- Runs steps on a view; the view is given back whether they fail or not. -/
def NetworkM.runOn {α : Type} (x : NetworkM α) (n : Network) : Except AgentError α × Network :=
  x.run.run n

/-- The peers of a node that a plan names. -/
structure LocalPeers where
  /-- Peers with their routes. -/
  desired : List PeerPlan
  /-- Neighbours whose endpoint answered. -/
  reachable : List PeerPlan

/-- The peers of a node as JSON. -/
def LocalPeers.toJson (p : LocalPeers) : Json :=
  .obj [("desired", .ofList PeerPlan.toJson p.desired),
    ("reachable", .ofList PeerPlan.toJson p.reachable)]

namespace Network

/-- A view without topology, if the policy is valid. -/
def new (nodeId : NodeId) (policy : Policy Float) : Except AgentError Network :=
  match policy.validate with
  | .error f => .error (.mesh (.policy f))
  | .ok () => .ok ⟨nodeId, policy, .allowAll, .empty, .empty⟩

/-- The nodes of the old topology that a new one leaves out. -/
def removed (old new : Topology Float) : List NodeId :=
  (old.nodes.map Node.id).filter fun id => !(new.nodes.map Node.id).contains id

/-- Forgets what was measured of nodes, of one after the other. -/
def forget (ids : List NodeId) : NetworkM Unit :=
  ids.forM fun id => modify fun n => { n with measured := n.measured.removeNode id }

/-- Fails unless a topology is valid and holds the node itself. -/
def require (t : Topology Float) : NetworkM Unit := do
  match t.validate with
  | .error f => throw (.mesh (.topology f))
  | .ok () =>
    let n ← get
    if (t.node? n.nodeId).isNone then throw (.mesh (.nodeNotFound n.nodeId)) else pure ()

/-- Puts a topology and its rules in the place of the old ones. -/
def adopt (t : Topology Float) : NetworkM Unit := do
  let n ← get
  forget (removed n.topology t)
  modify fun n => { n with access := ⟨t.rules⟩ }
  modify fun n => { n with topology := t }

/-- Takes a topology over, if it is valid and holds the node itself. -/
def load (t : Topology Float) : NetworkM Unit := do
  require t
  adopt t

/-- Takes over the topology in a file, if there is one; `path` names it. -/
def loadFile (path : String) (text : Option String) : NetworkM Unit :=
  match text with
  | none => throw (.config (.unreadable "topology file" path))
  | some s =>
    match Topology.ofText s with
    | .error e => throw (.mesh e)
    | .ok t => load t

/-- The node itself, if it is in the topology. -/
def localNode (n : Network) : Except AgentError Node :=
  match n.topology.node? n.nodeId with
  | some node => .ok node
  | none => .error (.mesh (.nodeNotFound n.nodeId))

/-- The plan for the whole mesh at a time. -/
def plan (n : Network) (now : Instant) : RoutingPlan Float :=
  RoutingPlan.compute ⟨n.policy, n.access, n.measured, now⟩ n.topology.nodes n.topology.links

/-- The node's own peers in a plan. -/
def localPeers (n : Network) (p : RoutingPlan Float) : LocalPeers where
  desired := p.peersFor n.nodeId
  reachable := (p.preconnectFor n.nodeId).filter fun x => n.measured.reached n.nodeId x.nodeId

/-- The address of a host that is written as one; names are not looked up. -/
def resolve (host : String) (port : UInt16) : Option SocketAddress :=
  (Address.ofText? host).map fun ip => .ofAddress ip port

/-- How an endpoint is probed: a relay by connecting to it, others by echo requests. -/
def probeEndpoint (e : NodeEndpoint) : ProbeEndpoint :=
  if e.isWebSocket then
    match e.uri.bind RelayUrl.ofText? with
    | some url =>
      match url.host with
      | .address ip => .tcp (.ofAddress ip url.effectivePort)
      | .domain _ => .unresolved
    | none => .unresolved
  else
    match resolve e.host e.port with
    | some addr => .icmp addr.address
    | none => .unresolved

/-- What is probed of every other node. -/
def probeTargets (n : Network) : List ProbeTarget :=
  (n.topology.nodes.filter fun x => x.id != n.nodeId).map fun x =>
    ⟨x.id, x.preferred.map probeEndpoint, some x.address.address⟩

/-- Whether a report of a node is taken. -/
def accepts (n : Network) (reporter : NodeId) : Bool :=
  reporter != n.nodeId && (n.topology.node? reporter).isSome

/-- Takes a report, if it is from another known node; says whether it was taken. -/
def ingest (n : Network) (r : Report Float) : Bool × Network :=
  if n.accepts r.nodeId then (true, { n with measured := n.measured.applyReport r }) else (false, n)

/-- What the node itself has to report. -/
def localReport (n : Network) : Report Float := n.measured.report n.nodeId n.topology.nodes

end Network

end TunnelMesh
