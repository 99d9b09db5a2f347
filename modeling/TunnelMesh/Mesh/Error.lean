/-
What can go wrong with a mesh: a topology that does not read or is not valid, a
node that is missing, a policy that is refused.
-/
import TunnelMesh.Mesh.Format
import TunnelMesh.Route.Policy

namespace TunnelMesh

/-- Why something about the mesh failed. -/
inductive MeshError where
  /-- The text of a topology does not read. -/
  | decode
  | topology (fault : TopologyFault)
  | nodeNotFound (id : NodeId)
  | policy (fault : PolicyFault Float)

/-- The wording of an error. -/
def MeshError.message : MeshError → String
  | .decode => "topology decode error"
  | .topology (.duplicateNode id) => "duplicate node " ++ id.toText
  | .topology (.endpoint id f) => "invalid endpoint for " ++ id.toText ++ ": " ++ f.message
  | .nodeNotFound id => "node " ++ id.toText ++ " not found"
  | .policy f => "invalid routing policy: " ++ f.message

/-- The name of an error's kind. -/
def MeshError.kind : MeshError → String
  | .decode => "Decode"
  | .topology (.duplicateNode _) => "DuplicateNode"
  | .topology (.endpoint ..) => "InvalidEndpoint"
  | .nodeNotFound _ => "NodeNotFound"
  | .policy _ => "InvalidPolicy"

/-- Reads and checks a topology. -/
def Topology.ofText (s : String) : Except MeshError (Topology Float) :=
  match (Json.ofText? s).bind Topology.ofJson? with
  | none => .error .decode
  | some t =>
    match t.validate with
    | .error f => .error (.topology f)
    | .ok () => .ok t

end TunnelMesh
