/-
The configured mesh: nodes, links and access rules.

A topology is valid if no id occurs twice and every endpoint has a host, a port
and, where it has a URL, one for a web socket.
-/
import TunnelMesh.Mesh.Access
import TunnelMesh.Mesh.Link

namespace TunnelMesh

/-- Why a topology is refused. -/
inductive TopologyFault where
  | duplicateNode (id : NodeId)
  | endpoint (id : NodeId) (fault : EndpointFault)
deriving DecidableEq

/-- The configured mesh. -/
structure Topology (α : Type) where
  nodes : List Node
  links : List (Link α)
  rules : List AccessRule

namespace Topology

variable {α : Type}

/-- No node at all. -/
def empty : Topology α := ⟨[], [], []⟩

/-- The first fault of nodes whose ids differ from `seen`; a repeated id comes before the endpoints
of its node. -/
def firstFault (seen : List NodeId) : List Node → Option TopologyFault
  | [] => none
  | n :: rest =>
    if seen.contains n.id then some (.duplicateNode n.id)
    else
      match n.endpoints.findSome? NodeEndpoint.fault? with
      | some f => some (.endpoint n.id f)
      | none => firstFault (n.id :: seen) rest

/-- Checks ids and endpoints. -/
def validate (t : Topology α) : Except TopologyFault Unit :=
  match firstFault [] t.nodes with
  | some f => .error f
  | none => .ok ()

/-- The first node of an id. -/
def node? (t : Topology α) (id : NodeId) : Option Node := t.nodes.find? fun n => n.id == id

end Topology

end TunnelMesh
