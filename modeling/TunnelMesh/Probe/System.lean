/-
Round trips measured by a host.

Echo requests are left to the program `ping`.  The round trip of a connection is the
time until it is open, or refused, for that too proves that someone answered.
-/
import TunnelMesh.Probe.Ping

namespace TunnelMesh

open Host Net

/-- What became of a connection that was to be opened. -/
inductive Knock where
  | opened
  | refused
  | failed
deriving DecidableEq, Repr

/-- A host on which running commands and opening connections takes time. -/
class TimedHost (ρ : Type) where
  /-- Runs a command; what came of it, and how long it took. -/
  run : ρ → Command → (Except CommandError Output × Duration) × ρ
  /-- Opens a connection; what came of it, and how long it took. -/
  connect : ρ → SocketAddress → (Knock × Duration) × ρ

/-- Probes by a host's own means. -/
structure SystemProbe (ρ : Type) where
  host : ρ

/-- The round trip of a connection that took some time. -/
def Knock.roundTrip (timeout elapsed : Duration) : Knock → Option Duration
  | opened | refused => if timeout < elapsed then none else some elapsed
  | failed => none

namespace SystemProbe

variable {ρ : Type} [TimedHost ρ]

/-- Asks an address by the program `ping`; the time for it must be a span of time. -/
def icmp (p : SystemProbe ρ) (ip : Address) (timeout : Duration) :
    Except ProbeFault (Option Duration) × SystemProbe ρ :=
  match Ping.command ip timeout with
  | .error _ => (.ok none, p)
  | .ok c =>
    if Duration.max.nanos < timeout.nanos + Duration.second then (.error .overflow, p)
    else
      let ((r, elapsed), host) := TimedHost.run p.host c
      (Ping.ofRun timeout elapsed r, ⟨host⟩)

/-- Asks an address by opening a connection. -/
def tcp (p : SystemProbe ρ) (addr : SocketAddress) (timeout : Duration) :
    Except ProbeFault (Option Duration) × SystemProbe ρ :=
  let ((knock, elapsed), host) := TimedHost.connect p.host addr
  (.ok (knock.roundTrip timeout elapsed), ⟨host⟩)

instance : ProbeSource (SystemProbe ρ) := ⟨icmp, tcp⟩

end SystemProbe

/-- A host on which every command takes the same time and no connection can be opened. -/
structure PacedHost (ρ : Type) where
  runner : ρ
  delay : Duration

instance {ρ : Type} [Runner ρ] : TimedHost (PacedHost ρ) where
  run h c := let (r, runner) := Runner.run h.runner c; ((r, h.delay), { h with runner })
  connect h _ := ((.failed, h.delay), h)

end TunnelMesh
