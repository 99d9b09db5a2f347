/-
Configurations in JSON and in TOML.

Reading takes what the text leaves out from the standard settings and skips what
it does not know.  Writing leaves out what is not set; numbers past the range of
the format cannot be written.
-/
import TunnelMesh.Agent.Config
import TunnelMesh.Route.Format
import TunnelMesh.Toml.Document
import TunnelMesh.Toml.Printer

namespace TunnelMesh.Agent

open Net

/-- A number, if the format has it. -/
def number? (n : UInt64) : Option Toml :=
  if n.toNat < Nat.pow 2 63 then some (.int n.toNat) else none

/-- An entry that is left out if it is not set. -/
def entry (name : String) (v : Option Toml) : List (String × Toml) :=
  v.toList.map fun v => (name, v)

namespace NodeSection

/-- A section as JSON. -/
def toJson (s : NodeSection) : Json :=
  .obj ([("id", .u64 s.id), ("topology_path", .str s.topologyPath)] ++
    Json.optionalMember "private_key" .str s.privateKey ++
    Json.optionalMember "private_key_path" .str s.privateKeyPath ++
    Json.optionalMember "reports_dir" .str s.reportsDir ++
    [("plan_interval_secs", .u64 s.planIntervalSecs), ("unprivileged", .bool s.unprivileged)])

/-- A section out of JSON. -/
def ofJson? (v : Json) : Option NodeSection := do
  let r ← v.record? ["id", "topology_path", "private_key", "private_key_path", "reports_dir",
    "plan_interval_secs", "unprivileged"]
  let id ← r.required "id" Json.u64?
  let topology ← r.required "topology_path" Json.text?
  let key ← r.withDefault "private_key" (Json.Record.orNull Json.text?) none
  let keyPath ← r.withDefault "private_key_path" (Json.Record.orNull Json.text?) none
  let reports ← r.withDefault "reports_dir" (Json.Record.orNull Json.text?) none
  let interval ← r.withDefault "plan_interval_secs" Json.u64? 30
  let unprivileged ← r.withDefault "unprivileged" Json.bool? false
  return ⟨id, topology, key, keyPath, reports, interval, unprivileged⟩

/-- The entries of a section, if its numbers fit. -/
def entries? (s : NodeSection) : Option (List (String × Toml)) := do
  let id ← number? s.id
  let interval ← number? s.planIntervalSecs
  return [("id", id), ("topology_path", .str s.topologyPath)] ++
    entry "private_key" (s.privateKey.map .str) ++
    entry "private_key_path" (s.privateKeyPath.map .str) ++
    entry "reports_dir" (s.reportsDir.map .str) ++
    [("plan_interval_secs", interval), ("unprivileged", .bool s.unprivileged)]

end NodeSection

namespace DeviceSection

/-- A section as JSON. -/
def toJson (s : DeviceSection) : Json :=
  .obj [("name", .str s.name), ("listen_port", .nat s.listenPort.toNat), ("mtu", .nat s.mtu.toNat),
    ("socket_dir", .str s.socketDir), ("ready_timeout_secs", .u64 s.readyTimeoutSecs)]

/-- A section out of JSON. -/
def ofJson? (v : Json) : Option DeviceSection := do
  let d : DeviceSection := {}
  let r ← v.record? ["name", "listen_port", "mtu", "socket_dir", "ready_timeout_secs"]
  let name ← r.withDefault "name" Json.text? d.name
  let port ← r.withDefault "listen_port" Json.u16? d.listenPort
  let mtu ← r.withDefault "mtu" Json.u16? d.mtu
  let dir ← r.withDefault "socket_dir" Json.text? d.socketDir
  let ready ← r.withDefault "ready_timeout_secs" Json.u64? d.readyTimeoutSecs
  return ⟨name, port, mtu, dir, ready⟩

/-- The entries of a section, if its numbers fit. -/
def entries? (s : DeviceSection) : Option (List (String × Toml)) := do
  let ready ← number? s.readyTimeoutSecs
  return [("name", .str s.name), ("listen_port", .int s.listenPort.toNat),
    ("mtu", .int s.mtu.toNat), ("socket_dir", .str s.socketDir), ("ready_timeout_secs", ready)]

end DeviceSection

namespace RelaySection

/-- A section as JSON. -/
def toJson (s : RelaySection) : Json :=
  .obj [("relay", .bool s.relay), ("websocket_listen", .ofOption SocketAddress.toJson s.listen),
    ("websocket_path", .str s.path)]

/-- A section out of JSON. -/
def ofJson? (v : Json) : Option RelaySection := do
  let d : RelaySection := {}
  let r ← v.record? ["relay", "websocket_listen", "websocket_path"]
  let relay ← r.withDefault "relay" Json.bool? d.relay
  let listen ← r.withDefault "websocket_listen" (Json.Record.orNull SocketAddress.ofJson?) d.listen
  let path ← r.withDefault "websocket_path" Json.text? d.path
  return ⟨relay, listen, path⟩

/-- The entries of a section. -/
def entries (s : RelaySection) : List (String × Toml) :=
  [("relay", .bool s.relay)] ++
    entry "websocket_listen" (s.listen.map fun a => .str a.toText) ++
    [("websocket_path", .str s.path)]

end RelaySection

namespace ProbeSection

/-- A section as JSON. -/
def toJson (s : ProbeSection) : Json :=
  .obj [("interval_secs", .u64 s.intervalSecs), ("timeout_ms", .u64 s.timeoutMs),
    ("concurrency", .u64 s.concurrency), ("virtual_port", .nat s.innerPort.toNat)]

/-- A section out of JSON. -/
def ofJson? (v : Json) : Option ProbeSection := do
  let d : ProbeSection := {}
  let r ← v.record? ["interval_secs", "timeout_ms", "concurrency", "virtual_port"]
  let interval ← r.withDefault "interval_secs" Json.u64? d.intervalSecs
  let timeout ← r.withDefault "timeout_ms" Json.u64? d.timeoutMs
  let concurrency ← r.withDefault "concurrency" Json.u64? d.concurrency
  let port ← r.withDefault "virtual_port" Json.u16? d.innerPort
  return ⟨interval, timeout, concurrency, port⟩

/-- The entries of a section, if its numbers fit. -/
def entries? (s : ProbeSection) : Option (List (String × Toml)) := do
  let interval ← number? s.intervalSecs
  let timeout ← number? s.timeoutMs
  let concurrency ← number? s.concurrency
  return [("interval_secs", interval), ("timeout_ms", timeout), ("concurrency", concurrency),
    ("virtual_port", .int s.innerPort.toNat)]

end ProbeSection

/-- The entries of a policy, if its numbers fit. -/
def routingEntries? (p : Policy Float) : Option (List (String × Toml)) := do
  let stale ← number? p.handshakeStaleSecs
  let offline ← p.offlineThresholdSecs.mapM number?
  return [("min_latency_ms", .float p.minLatencyMs), ("max_latency_ms", .float p.maxLatencyMs),
    ("latency_bucket_ms", .float p.latencyBucketMs),
    ("latency_log_scale", .bool p.latencyLogScale), ("latency_scale", .float p.latencyScale),
    ("inverse_bandwidth_weight", .float p.inverseBandwidthWeight),
    ("min_up_mbps", .float p.minUpMbps), ("default_up_mbps", .float p.defaultUpMbps),
    ("hop_weight", .float p.hopWeight), ("handshake_stale_after_secs", stale),
    ("handshake_penalty", .float p.handshakePenalty),
    ("default_latency_ms", .float p.defaultLatencyMs)] ++
    entry "offline_threshold_secs" offline ++
    entry "persistent_keepalive" (p.keepalive.map fun n => .int n.toNat)

namespace Config

/-- The section on forwarding rules out of JSON. -/
def firewallOf? (v : Json) : Option Bool := do
  (← v.record? ["enabled"]).withDefault "enabled" Json.bool? true

/-- A configuration as JSON. -/
def toJson (c : Config) : Json :=
  .obj [("node", c.node.toJson), ("device", c.device.toJson), ("transport", c.relay.toJson),
    ("routing", c.routing.toJson), ("probe", c.probe.toJson),
    ("firewall", .obj [("enabled", .bool c.firewall)])]

/-- A configuration out of JSON, unchecked. -/
def ofJson? (v : Json) : Option Config := do
  let r ← v.record? ["node", "device", "transport", "routing", "probe", "firewall"]
  let node ← r.required "node" NodeSection.ofJson?
  let device ← r.withDefault "device" DeviceSection.ofJson? {}
  let relay ← r.withDefault "transport" RelaySection.ofJson? {}
  let routing ← r.withDefault "routing" Policy.ofJson? Policy.standard
  let probe ← r.withDefault "probe" ProbeSection.ofJson? {}
  let firewall ← r.withDefault "firewall" firewallOf? true
  return ⟨node, device, relay, routing, probe, firewall⟩

/-- Takes a document as a configuration and checks it. -/
def ofToml (doc : Toml) : Except AgentError Config :=
  match ofJson? doc.toJson with
  | none => .error (.config .invalidToml)
  | some c => c.validate.map fun _ => c

/-- Reads a configuration from a text and checks it. -/
def ofText (s : String) : Except AgentError Config :=
  match Toml.ofText? s with
  | none => .error (.config .invalidToml)
  | some doc => ofToml doc

/-- The sections of a configuration, if all numbers fit. -/
def sections? (c : Config) : Option (List Toml.Section) := do
  let node ← c.node.entries?
  let device ← c.device.entries?
  let routing ← routingEntries? c.routing
  let probe ← c.probe.entries?
  return [⟨"node", node⟩, ⟨"device", device⟩, ⟨"transport", c.relay.entries⟩, ⟨"routing", routing⟩,
    ⟨"probe", probe⟩, ⟨"firewall", [("enabled", .bool c.firewall)]⟩]

/-- The text of a configuration, if it can be written. -/
def toText (c : Config) : Except AgentError String :=
  match c.sections? with
  | some ss => .ok (Toml.sectionsText ss)
  | none => .error (.config .unwritable)

end Config

end TunnelMesh.Agent
