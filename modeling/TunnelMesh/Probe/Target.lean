/-
What a node probes of another.
-/
import TunnelMesh.Mesh.Format
import TunnelMesh.Net.SocketAddress

namespace TunnelMesh

open Net

/-- How the endpoint of a node is probed. -/
inductive ProbeEndpoint where
  /-- By an echo request. -/
  | icmp (ip : Address)
  /-- By opening a connection. -/
  | tcp (addr : SocketAddress)
  /-- The node has an endpoint whose address is not known; it counts as unreachable. -/
  | unresolved
deriving DecidableEq

/-- A node that is probed. -/
structure ProbeTarget where
  nodeId : NodeId
  endpoint : Option ProbeEndpoint
  /-- The address inside the tunnel. -/
  inner : Option Address
deriving DecidableEq

/-- An endpoint as JSON. -/
def ProbeEndpoint.toJson : ProbeEndpoint → Json
  | .icmp ip => .obj [("kind", .str "icmp"), ("addr", .str ip.toText)]
  | .tcp addr => .obj [("kind", .str "tcp"), ("addr", addr.toJson)]
  | .unresolved => .obj [("kind", .str "unresolved")]

/-- An endpoint out of JSON. -/
def ProbeEndpoint.ofJson? (v : Json) : Option ProbeEndpoint := do
  let r ← v.record? ["kind", "addr"]
  match ← r.required "kind" Json.text? with
  | "icmp" => (r.required "addr" (Json.parsed? Address.ofText?)).map .icmp
  | "tcp" => (r.required "addr" SocketAddress.ofJson?).map .tcp
  | "unresolved" =>
    match r.value? "addr" with
    | none | some .null => some .unresolved
    | _ => none
  | _ => none

/-- A target as JSON. -/
def ProbeTarget.toJson (t : ProbeTarget) : Json :=
  .obj [("node_id", .u64 t.nodeId.value), ("endpoint", .ofOption ProbeEndpoint.toJson t.endpoint),
    ("virtual_ip", .ofOption (fun ip => .str ip.toText) t.inner)]

/-- A target out of JSON. -/
def ProbeTarget.ofJson? (v : Json) : Option ProbeTarget := do
  let r ← v.record? ["node_id", "endpoint", "virtual_ip"]
  let id ← r.required "node_id" NodeId.ofJson?
  let endpoint ← r.optional "endpoint" ProbeEndpoint.ofJson?
  let inner ← r.optional "virtual_ip" (Json.parsed? Address.ofText?)
  return ⟨id, endpoint, inner⟩

end TunnelMesh
