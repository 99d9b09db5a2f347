/-
Nodes, links, rules, topologies and measurements in JSON.

Ids are numbers, and names of members where they are keys.  Times, keys, subnets
and addresses are strings.  A sample is `unreachable` or a record with the
milliseconds.
-/
import TunnelMesh.Json.Reader
import TunnelMesh.Mesh.Measurement
import TunnelMesh.Mesh.Topology
import TunnelMesh.Time.Reader
import TunnelMesh.Tunnel.Format

namespace TunnelMesh

open Net

/-- A number of 64 bits as JSON. -/
def Json.u64 (n : UInt64) : Json := .nat n.toNat

/-- An id out of JSON. -/
def NodeId.ofJson? (v : Json) : Option NodeId := v.u64?.map NodeId.mk
def ClientId.ofJson? (v : Json) : Option ClientId := v.u64?.map ClientId.mk
def NetworkId.ofJson? (v : Json) : Option NetworkId := v.u64?.map NetworkId.mk

/-- An id as the name of a member. -/
def NodeId.key (n : NodeId) : String := toString n.value.toNat

/-- An id out of the name of a member. -/
def NodeId.ofKey? (s : String) : Option NodeId :=
  (Json.numericKey? Text.bound64 s).map fun n => ⟨UInt64.ofNat n⟩

/-- A point in time as JSON. -/
def Instant.toJson (t : Instant) : Json := .str t.toText

/-- A point in time out of JSON. -/
def Instant.ofJson? : Json → Option Instant := Json.parsed? Instant.ofText?

/-- Tags as JSON, in order. -/
def tagsToJson (t : Tags) : Json := .ofList .str t.toList

/-- Tags out of JSON. -/
def tagsOfJson? (v : Json) : Option Tags := (Json.list? Json.text? v).map fun ts => .ofList ts

namespace NodeEndpoint

/-- An endpoint as JSON. -/
def toJson (e : NodeEndpoint) : Json :=
  .obj ([("host", .str e.host), ("port", .nat e.port.toNat)] ++
    Json.optionalMember "uri" .str e.uri)

/-- An endpoint out of JSON. -/
def ofJson? (v : Json) : Option NodeEndpoint := do
  let r ← v.record? ["host", "port", "uri"]
  let host ← r.required "host" Json.text?
  let port ← r.required "port" Json.u16?
  let uri ← r.withDefault "uri" (Json.Record.orNull Json.text?) none
  return ⟨host, port, uri⟩

end NodeEndpoint

namespace Node

/-- A node as JSON. -/
def toJson (n : Node) : Json :=
  .obj [("id", .u64 n.id.value), ("client_id", .u64 n.clientId.value),
    ("network_id", .u64 n.networkId.value), ("public_key", n.publicKey.toJson),
    ("address", n.address.toJson), ("listen_port", .nat n.listenPort.toNat),
    ("endpoints", .ofList NodeEndpoint.toJson n.endpoints), ("tags", tagsToJson n.tags),
    ("routes", .ofList Subnet.toJson n.routes),
    ("last_seen", .ofOption Instant.toJson n.lastSeen)]

/-- A node out of JSON. -/
def ofJson? (v : Json) : Option Node := do
  let r ← v.record? ["id", "client_id", "network_id", "public_key", "address", "listen_port",
    "endpoints", "tags", "routes", "last_seen"]
  let id ← r.required "id" NodeId.ofJson?
  let client ← r.required "client_id" ClientId.ofJson?
  let network ← r.required "network_id" NetworkId.ofJson?
  let key ← r.required "public_key" PublicKey.ofJson?
  let address ← r.required "address" Subnet.ofJson?
  let port ← r.required "listen_port" Json.u16?
  let endpoints ← r.withDefault "endpoints" (Json.list? NodeEndpoint.ofJson?) []
  let tags ← r.withDefault "tags" tagsOfJson? ∅
  let routes ← r.withDefault "routes" (Json.list? Subnet.ofJson?) []
  let seen ← r.withDefault "last_seen" (Json.Record.orNull Instant.ofJson?) none
  return ⟨id, client, network, key, address, port, endpoints, tags, routes, seen⟩

end Node

namespace Link

/-- A link as JSON. -/
def toJson (l : Link Float) : Json :=
  .obj ([("id", .u64 l.id), ("network_id", .u64 l.networkId.value),
    ("from", .u64 l.source.value), ("to", .u64 l.target.value),
    ("latency_ms", .float l.latencyMs), ("up_mbps", .float l.upMbps)] ++
    Json.optionalMember "endpoint" .str l.endpoint ++ [("active", .bool l.active)])

/-- A link out of JSON. -/
def ofJson? (v : Json) : Option (Link Float) := do
  let r ← v.record? ["id", "network_id", "from", "to", "latency_ms", "up_mbps", "endpoint",
    "active"]
  let id ← r.withDefault "id" Json.u64? 0
  let network ← r.withDefault "network_id" NetworkId.ofJson? ⟨0⟩
  let source ← r.required "from" NodeId.ofJson?
  let target ← r.required "to" NodeId.ofJson?
  let latency ← r.withDefault "latency_ms" Json.float? 0
  let up ← r.withDefault "up_mbps" Json.float? 0
  let endpoint ← r.withDefault "endpoint" (Json.Record.orNull Json.text?) none
  let active ← r.withDefault "active" Json.bool? true
  return ⟨id, network, source, target, latency, up, endpoint, active⟩

end Link

namespace AccessRule

/-- The names of the decisions. -/
def actions : List (String × AccessAction) := [("accept", .accept), ("deny", .deny)]

/-- A rule as JSON. -/
def toJson (r : AccessRule) : Json :=
  .obj [("src", tagsToJson r.src), ("dst", tagsToJson r.dst),
    ("action", .str (match r.action with | .accept => "accept" | .deny => "deny"))]

/-- A rule out of JSON. -/
def ofJson? (v : Json) : Option AccessRule := do
  let r ← v.record? ["src", "dst", "action"]
  let src ← r.required "src" tagsOfJson?
  let dst ← r.required "dst" tagsOfJson?
  let action ← r.required "action" (Json.variant? actions)
  return ⟨src, dst, action⟩

end AccessRule

namespace Topology

/-- A topology as JSON. -/
def toJson (t : Topology Float) : Json :=
  .obj [("nodes", .ofList Node.toJson t.nodes), ("links", .ofList Link.toJson t.links),
    ("acl", .ofList AccessRule.toJson t.rules)]

/-- A topology out of JSON, not yet checked. -/
def ofJson? (v : Json) : Option (Topology Float) := do
  let r ← v.record? ["nodes", "links", "acl"]
  let nodes ← r.withDefault "nodes" (Json.list? Node.ofJson?) []
  let links ← r.withDefault "links" (Json.list? Link.ofJson?) []
  let rules ← r.withDefault "acl" (Json.list? AccessRule.ofJson?) []
  return ⟨nodes, links, rules⟩

end Topology

namespace Sample

/-- A sample as JSON. -/
def toJson : Sample Float → Json
  | .measured ms => .obj [("measured", .float ms)]
  | .unreachable => .str "unreachable"

/-- A sample out of JSON. -/
def ofJson? : Json → Option (Sample Float)
  | .obj [("measured", v)] => v.float?.map .measured
  | v => Json.variant? [("unreachable", Sample.unreachable)] v

end Sample

namespace Snapshot

/-- A tunnel's state as JSON. -/
def peerToJson (p : PeerRuntime) : Json :=
  .obj [("public_key", p.publicKey.toJson),
    ("last_handshake", .ofOption Instant.toJson p.lastHandshake),
    ("rx_bytes", .u64 p.rxBytes), ("tx_bytes", .u64 p.txBytes)]

/-- A tunnel's state out of JSON. -/
def peerOfJson? (v : Json) : Option PeerRuntime := do
  let r ← v.record? ["public_key", "last_handshake", "rx_bytes", "tx_bytes"]
  let key ← r.required "public_key" PublicKey.ofJson?
  let handshake ← r.optional "last_handshake" Instant.ofJson?
  let rx ← r.required "rx_bytes" Json.u64?
  let tx ← r.required "tx_bytes" Json.u64?
  return ⟨key, handshake, rx, tx⟩

/-- A snapshot as JSON. -/
def toJson (s : Snapshot) : Json :=
  .obj [("reported_at", s.reportedAt.toJson), ("peers", .ofList peerToJson s.peers)]

/-- A snapshot out of JSON. -/
def ofJson? (v : Json) : Option Snapshot := do
  let r ← v.record? ["reported_at", "peers"]
  let reported ← r.required "reported_at" Instant.ofJson?
  let peers ← r.required "peers" (Json.list? peerOfJson?)
  return ⟨reported, peers⟩

end Snapshot

namespace Report

/-- A report as JSON. -/
def toJson (r : Report Float) : Json :=
  .obj [("node_id", .u64 r.nodeId.value), ("snapshot", .ofOption Snapshot.toJson r.snapshot),
    ("endpoint_latency", .obj (r.endpointLatency.toList.map fun (n, s) => (n.key, s.toJson))),
    ("virtual_ips", .obj (r.innerNodes.toList.map fun (a, n) => (a.toText, .u64 n.value))),
    ("virtual_latency", .obj (r.innerLatency.toList.map fun (a, s) => (a.toText, s.toJson)))]

/-- A table out of an object; of several members with one name the last counts. -/
def tableOf? {κ ν : Type} [Ord κ] [Std.TransOrd κ] (key : String → Option κ)
    (read : Json → Option ν) (v : Json) : Option (Std.ExtTreeMap κ ν) :=
  (Json.entries? key read v).map fun es => .ofList es

/-- A report out of JSON. -/
def ofJson? (v : Json) : Option (Report Float) := do
  let r ← v.record? ["node_id", "snapshot", "endpoint_latency", "virtual_ips", "virtual_latency"]
  let node ← r.required "node_id" NodeId.ofJson?
  let snapshot ← r.withDefault "snapshot" (Json.Record.orNull Snapshot.ofJson?) none
  let endpoint ← r.withDefault "endpoint_latency" (tableOf? NodeId.ofKey? Sample.ofJson?) ∅
  let ips ← r.withDefault "virtual_ips" (tableOf? Address.ofText? NodeId.ofJson?) ∅
  let inner ← r.withDefault "virtual_latency" (tableOf? Address.ofText? Sample.ofJson?) ∅
  return ⟨node, snapshot, endpoint, ips, inner⟩

end Report

end TunnelMesh
