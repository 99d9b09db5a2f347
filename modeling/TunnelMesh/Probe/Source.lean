/-
Ways of measuring round trips.

A probe may also break off, and then gives nothing at all.  The scripted source
answers from two tables, and counts how often it was asked; addresses without an
entry do not answer.
-/
import TunnelMesh.Net.SocketAddress
import TunnelMesh.Time.Duration

namespace TunnelMesh

open Net

/-- Why a probe broke off. -/
inductive ProbeFault where
  /-- A span of time became too long. -/
  | overflow
deriving DecidableEq, Repr

/-- Something that measures round trips; no answer within the given time is nothing. -/
class ProbeSource (π : Type) where
  /-- By an echo request. -/
  icmp : π → Address → Duration → Except ProbeFault (Option Duration) × π
  /-- By opening a connection. -/
  tcp : π → SocketAddress → Duration → Except ProbeFault (Option Duration) × π

/-- A source with fixed answers. -/
structure ScriptedProbe where
  icmp : Std.ExtTreeMap Address Duration := ∅
  tcp : Std.ExtTreeMap SocketAddress Duration := ∅
  /-- How often the source was asked. -/
  calls : Nat := 0

namespace ScriptedProbe

/-- Lets an address answer echo requests. -/
def answerIcmp (p : ScriptedProbe) (ip : Address) (rtt : Duration) : ScriptedProbe :=
  { p with icmp := p.icmp.insert ip rtt }

/-- Lets an address accept connections. -/
def answerTcp (p : ScriptedProbe) (addr : SocketAddress) (rtt : Duration) : ScriptedProbe :=
  { p with tcp := p.tcp.insert addr rtt }

/-- Lets an address answer nothing any more, on no port either. -/
def silence (p : ScriptedProbe) (ip : Address) : ScriptedProbe :=
  { p with icmp := p.icmp.erase ip, tcp := p.tcp.filter fun addr _ => addr.address != ip }

instance : ProbeSource ScriptedProbe where
  icmp p ip _ := (.ok p.icmp[ip]?, { p with calls := p.calls + 1 })
  tcp p addr _ := (.ok p.tcp[addr]?, { p with calls := p.calls + 1 })

end ScriptedProbe

end TunnelMesh
