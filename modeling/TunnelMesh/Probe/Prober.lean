/-
Probing one node of a mesh.

A target's endpoint is probed, and its tunnel address if that is wanted, and the
results are recorded as the local node's measurements.
-/
import TunnelMesh.Mesh.Measurement
import TunnelMesh.Probe.Source
import TunnelMesh.Probe.Target

namespace TunnelMesh

open Net

/-- How probing is done. -/
structure ProbeSettings where
  /-- The time between cycles. -/
  interval : Duration := .ofSecs 30
  /-- How long a probe may take. -/
  timeout : Duration := .ofSecs 2
  /-- How many probes may run at once. -/
  concurrency : Nat := 16
  /-- Whether tunnel addresses are probed. -/
  inner : Bool := true
  /-- The port at which tunnel addresses are probed. -/
  innerPort : UInt16 := 22
deriving DecidableEq

/-- What the probes of a target gave. -/
structure ProbeOutcome where
  nodeId : NodeId
  /-- The round trip to the endpoint, if there is one. -/
  endpoint : Option (Option Duration)
  /-- The round trip to the tunnel address, if it was probed. -/
  inner : Option (Option Duration)
deriving DecidableEq

namespace ProbeTarget

variable {π : Type} [ProbeSource π]

/-- Probes the endpoint of a target, if it has one. -/
def measureEndpoint (t : ProbeTarget) (s : ProbeSettings) (source : π) :
    Except ProbeFault (Option (Option Duration)) × π :=
  match t.endpoint with
  | some (.icmp ip) =>
    let (r, source) := ProbeSource.icmp source ip s.timeout
    (r.map some, source)
  | some (.tcp addr) =>
    let (r, source) := ProbeSource.tcp source addr s.timeout
    (r.map some, source)
  | some .unresolved => (.ok (some none), source)
  | none => (.ok none, source)

/-- Probes the tunnel address of a target, if it has one and that is wanted. -/
def measureInner (t : ProbeTarget) (s : ProbeSettings) (source : π) :
    Except ProbeFault (Option (Option Duration)) × π :=
  match t.inner, s.inner with
  | some ip, true =>
    let (r, source) := ProbeSource.tcp source (.ofAddress ip s.innerPort) s.timeout
    (r.map some, source)
  | _, _ => (.ok none, source)

end ProbeTarget

namespace ProbeOutcome

/-- Records a sample, if there is one. -/
def recordSample (m : Measurements Float) (local_ dest : NodeId) (kind : ProbeKind) :
    Option (Option Duration) → Measurements Float
  | some rtt => m.record local_ dest kind (Sample.ofRoundTrip rtt)
  | none => m

/-- Records what the probes of a target gave. -/
def record (m : Measurements Float) (local_ : NodeId) (o : ProbeOutcome) : Measurements Float :=
  recordSample (recordSample m local_ o.nodeId .endpoint o.endpoint) local_ o.nodeId .inner o.inner

end ProbeOutcome

end TunnelMesh
