/-
How much it costs to use an edge.

The cost is the sum of a term for the latency, one for the bandwidth, a constant
per hop, and a penalty for tunnels without a recent handshake.  Latencies are
clamped, rounded to buckets and clamped again, and count by their logarithm unless
that is switched off.
-/
import TunnelMesh.Decimal.Shortest
import TunnelMesh.Mesh.Node
import TunnelMesh.Route.Quantity

namespace TunnelMesh

/-- The parameters of the costs. -/
structure Policy (α : Type) where
  minLatencyMs : α
  maxLatencyMs : α
  /-- Latencies are rounded to multiples of this, if it is positive. -/
  latencyBucketMs : α
  latencyLogScale : Bool
  latencyScale : α
  inverseBandwidthWeight : α
  /-- Bandwidths below this count as this. -/
  minUpMbps : α
  /-- The bandwidth of edges without a hint. -/
  defaultUpMbps : α
  hopWeight : α
  /-- A handshake is recent for this long. -/
  handshakeStaleSecs : UInt64
  handshakePenalty : α
  /-- The latency of edges that were not measured. -/
  defaultLatencyMs : α
  /-- Nodes count as gone after this long; without a limit all count as there. -/
  offlineThresholdSecs : Option UInt64
  keepalive : Option UInt16

/-- Why a policy is refused. -/
inductive PolicyFault (α : Type) where
  | negative (name : String) (value : α)
  | latencyBounds (least greatest : α)
  | bandwidth

/-- The wording of a fault. -/
def PolicyFault.message : PolicyFault Float → String
  | .negative n v => n ++ " must be a non-negative number, got " ++ Decimal.plainForm.text v
  | .latencyBounds a b =>
    "latency bounds must satisfy 0 < min <= max, got [" ++ Decimal.plainForm.text a ++ ", " ++
      Decimal.plainForm.text b ++ "]"
  | .bandwidth => "bandwidth floor and default must be positive"

namespace Policy

variable {α : Type} [Quantity α]

open Quantity

/-- The parameters that hold where none are given. -/
def standard : Policy α where
  minLatencyMs := ofNat 1
  maxLatencyMs := ofNat 2000
  latencyBucketMs := ofNat 5
  latencyLogScale := true
  latencyScale := ofNat 10
  inverseBandwidthWeight := ofNat 100
  minUpMbps := ofNat 1
  defaultUpMbps := ofNat 100
  hopWeight := ofNat 5
  handshakeStaleSecs := 180
  handshakePenalty := ofNat 50
  defaultLatencyMs := ofNat 50
  offlineThresholdSecs := some 300
  keepalive := some 25

/-- The policy for which every node is there. -/
def withoutLiveness (p : Policy α) : Policy α := { p with offlineThresholdSecs := none }

/-- The parameters that must not be negative, with their names. -/
def nonNegative (p : Policy α) : List (String × α) :=
  [("latency_bucket_ms", p.latencyBucketMs), ("latency_scale", p.latencyScale),
   ("inverse_bandwidth_weight", p.inverseBandwidthWeight), ("hop_weight", p.hopWeight),
   ("handshake_penalty", p.handshakePenalty), ("default_latency_ms", p.defaultLatencyMs)]

/-- Whether a number is finite and not negative. -/
def isNonNegative (x : α) : Bool := finite x && !less x (ofNat 0)

/-- Whether a number is above zero. -/
def isPositive (x : α) : Bool := less (ofNat 0) x

/-- Checks the parameters; the first fault counts. -/
def validate (p : Policy α) : Except (PolicyFault α) Unit :=
  match p.nonNegative.find? fun f => !isNonNegative f.2 with
  | some (name, value) => .error (.negative name value)
  | none =>
    if !(isPositive p.minLatencyMs && leq p.minLatencyMs p.maxLatencyMs) then
      .error (.latencyBounds p.minLatencyMs p.maxLatencyMs)
    else if !(isPositive p.minUpMbps && isPositive p.defaultUpMbps) then .error .bandwidth
    else .ok ()

/-- A latency inside the bounds. -/
def clampLatency (p : Policy α) (ms : α) : α :=
  Quantity.min (Quantity.max ms p.minLatencyMs) p.maxLatencyMs

/-- A latency inside the bounds, rounded to its bucket. -/
def bucketLatency (p : Policy α) (ms : α) : α :=
  let x := p.clampLatency ms
  if isPositive p.latencyBucketMs then
    p.clampLatency (mul (round (div x p.latencyBucketMs)) p.latencyBucketMs)
  else x

/-- The cost of a latency. -/
def latencyTerm (p : Policy α) (ms : α) : α :=
  let x := p.bucketLatency ms
  mul (if p.latencyLogScale then log1p x else x) p.latencyScale

/-- The cost of a bandwidth. -/
def bandwidthTerm (p : Policy α) (mbps : α) : α :=
  div p.inverseBandwidthWeight (Quantity.max mbps p.minUpMbps)

/-- The cost of an old handshake; what nobody told about costs nothing. -/
def handshakeTerm (p : Policy α) : Option Duration → α
  | some age =>
    if Duration.ofSecs p.handshakeStaleSecs.toNat < age then p.handshakePenalty else ofNat 0
  | none => ofNat 0

/-- The cost of an edge. -/
def edgeWeight (p : Policy α) (ms mbps : α) (age : Option Duration) : α :=
  add (add (add (p.latencyTerm ms) (p.bandwidthTerm mbps)) p.hopWeight) (p.handshakeTerm age)

/-- The greatest number of seconds that a threshold can have. -/
def greatestThreshold : Nat := 9223372036854775807

/-- Whether a node was heard of recently enough. -/
def isLive (p : Policy α) (n : Node) (now : Instant) : Bool :=
  match p.offlineThresholdSecs with
  | none => true
  | some limit =>
    n.lastSeen.any fun seen =>
      decide (Int.tdiv (now.since seen) 1000000000 ≤ Nat.min limit.toNat greatestThreshold)

end Policy

end TunnelMesh
