/-
Policies, edges and plans in JSON.
-/
import TunnelMesh.Mesh.Format
import TunnelMesh.Route.Plan

namespace TunnelMesh

open Net

namespace Policy

/-- A policy as JSON. -/
def toJson (p : Policy Float) : Json :=
  .obj [("min_latency_ms", .float p.minLatencyMs), ("max_latency_ms", .float p.maxLatencyMs),
    ("latency_bucket_ms", .float p.latencyBucketMs),
    ("latency_log_scale", .bool p.latencyLogScale), ("latency_scale", .float p.latencyScale),
    ("inverse_bandwidth_weight", .float p.inverseBandwidthWeight),
    ("min_up_mbps", .float p.minUpMbps), ("default_up_mbps", .float p.defaultUpMbps),
    ("hop_weight", .float p.hopWeight),
    ("handshake_stale_after_secs", .u64 p.handshakeStaleSecs),
    ("handshake_penalty", .float p.handshakePenalty),
    ("default_latency_ms", .float p.defaultLatencyMs),
    ("offline_threshold_secs", .ofOption Json.u64 p.offlineThresholdSecs),
    ("persistent_keepalive", .ofOption (fun n => .nat n.toNat) p.keepalive)]

/-- The fields of a policy. -/
def fields : List String :=
  ["min_latency_ms", "max_latency_ms", "latency_bucket_ms", "latency_log_scale", "latency_scale",
   "inverse_bandwidth_weight", "min_up_mbps", "default_up_mbps", "hop_weight",
   "handshake_stale_after_secs", "handshake_penalty", "default_latency_ms",
   "offline_threshold_secs", "persistent_keepalive"]

/-- A policy out of JSON; what is missing is as in the standard policy. -/
def ofJson? (v : Json) : Option (Policy Float) := do
  let d : Policy Float := standard
  let r ← v.record? fields
  let minLatency ← r.withDefault "min_latency_ms" Json.float? d.minLatencyMs
  let maxLatency ← r.withDefault "max_latency_ms" Json.float? d.maxLatencyMs
  let bucket ← r.withDefault "latency_bucket_ms" Json.float? d.latencyBucketMs
  let logScale ← r.withDefault "latency_log_scale" Json.bool? d.latencyLogScale
  let scale ← r.withDefault "latency_scale" Json.float? d.latencyScale
  let inverse ← r.withDefault "inverse_bandwidth_weight" Json.float? d.inverseBandwidthWeight
  let minUp ← r.withDefault "min_up_mbps" Json.float? d.minUpMbps
  let defaultUp ← r.withDefault "default_up_mbps" Json.float? d.defaultUpMbps
  let hop ← r.withDefault "hop_weight" Json.float? d.hopWeight
  let stale ← r.withDefault "handshake_stale_after_secs" Json.u64? d.handshakeStaleSecs
  let penalty ← r.withDefault "handshake_penalty" Json.float? d.handshakePenalty
  let latency ← r.withDefault "default_latency_ms" Json.float? d.defaultLatencyMs
  let offline ← r.withDefault "offline_threshold_secs" (Json.Record.orNull Json.u64?)
    d.offlineThresholdSecs
  let keepalive ← r.withDefault "persistent_keepalive" (Json.Record.orNull Json.u16?) d.keepalive
  return ⟨minLatency, maxLatency, bucket, logScale, scale, inverse, minUp, defaultUp, hop, stale,
    penalty, latency, offline, keepalive⟩

end Policy

namespace Edge

/-- The names of the kinds. -/
def kinds : List (String × EdgeKind) := [("explicit", .explicit), ("implicit", .implicit)]

/-- An edge as JSON. -/
def toJson (e : Edge Float) : Json :=
  .obj ([("from", .u64 e.source.value), ("to", .u64 e.target.value),
    ("kind", .str (match e.kind with | .explicit => "explicit" | .implicit => "implicit")),
    ("latency_ms", .float e.latencyMs), ("up_mbps", .float e.upMbps)] ++
    Json.optionalMember "endpoint" .str e.endpoint ++ [("weight", .float e.weight)] ++
    (if e.routes.isEmpty then [] else [("routes", .ofList Subnet.toJson e.routes)]))

/-- An edge out of JSON. -/
def ofJson? (v : Json) : Option (Edge Float) := do
  let r ← v.record? ["from", "to", "kind", "latency_ms", "up_mbps", "endpoint", "weight", "routes"]
  let source ← r.required "from" NodeId.ofJson?
  let target ← r.required "to" NodeId.ofJson?
  let kind ← r.required "kind" (Json.variant? kinds)
  let latency ← r.required "latency_ms" Json.float?
  let up ← r.required "up_mbps" Json.float?
  let endpoint ← r.withDefault "endpoint" (Json.Record.orNull Json.text?) none
  let weight ← r.required "weight" Json.float?
  let routes ← r.withDefault "routes" (Json.list? Subnet.ofJson?) []
  return ⟨source, target, kind, latency, up, endpoint, weight, routes⟩

end Edge

/-- A table by node as JSON. -/
def nodeTableToJson {ν : Type} (f : ν → Json) (t : Std.ExtTreeMap NodeId ν) : Json :=
  .obj (t.toList.map fun (n, v) => (n.key, f v))

/-- Edges by source as JSON. -/
def Adjacency.toJson (g : Adjacency Float) : Json := nodeTableToJson (Json.ofList Edge.toJson) g

/-- Edges by source out of JSON. -/
def Adjacency.ofJson? : Json → Option (Adjacency Float) :=
  Report.tableOf? NodeId.ofKey? (Json.list? Edge.ofJson?)

namespace PeerPlan

/-- A peer's plan as JSON. -/
def toJson (p : PeerPlan) : Json :=
  .obj ([("node_id", .u64 p.nodeId.value), ("client_id", .u64 p.clientId.value),
    ("public_key", p.publicKey.toJson), ("allowed_ips", .ofList Subnet.toJson p.allowedIps)] ++
    Json.optionalMember "endpoint" .str p.endpoint ++
    Json.optionalMember "persistent_keepalive" (fun n => .nat n.toNat) p.keepalive)

/-- A peer's plan out of JSON. -/
def ofJson? (v : Json) : Option PeerPlan := do
  let r ← v.record? ["node_id", "client_id", "public_key", "allowed_ips", "endpoint",
    "persistent_keepalive"]
  let node ← r.required "node_id" NodeId.ofJson?
  let client ← r.required "client_id" ClientId.ofJson?
  let key ← r.required "public_key" PublicKey.ofJson?
  let ips ← r.required "allowed_ips" (Json.list? Subnet.ofJson?)
  let endpoint ← r.withDefault "endpoint" (Json.Record.orNull Json.text?) none
  let keepalive ← r.withDefault "persistent_keepalive" (Json.Record.orNull Json.u16?) none
  return ⟨node, client, key, ips, endpoint, keepalive⟩

end PeerPlan

/-- Peers by node as JSON. -/
def PeerLists.toJson (p : PeerLists) : Json := nodeTableToJson (Json.ofList PeerPlan.toJson) p

/-- Peers by node out of JSON. -/
def PeerLists.ofJson? : Json → Option PeerLists :=
  Report.tableOf? NodeId.ofKey? (Json.list? PeerPlan.ofJson?)

namespace RoutingPlan

/-- A plan as JSON. -/
def toJson (p : RoutingPlan Float) : Json :=
  .obj [("peers", PeerLists.toJson p.peers), ("adjacency", Adjacency.toJson p.adjacency),
    ("final_graph", Adjacency.toJson p.finalGraph), ("preconnect", PeerLists.toJson p.preconnect)]

/-- A plan out of JSON. -/
def ofJson? (v : Json) : Option (RoutingPlan Float) := do
  let r ← v.record? ["peers", "adjacency", "final_graph", "preconnect"]
  let peers ← r.required "peers" PeerLists.ofJson?
  let adjacency ← r.required "adjacency" Adjacency.ofJson?
  let final ← r.required "final_graph" Adjacency.ofJson?
  let preconnect ← r.required "preconnect" PeerLists.ofJson?
  return ⟨peers, adjacency, final, preconnect⟩

end RoutingPlan

end TunnelMesh
