/-
Access rules between tagged nodes.

A rule names source tags, destination tags and a decision.  For two nodes the
pairs of a source and a destination tag are tried in order, sources first; the
first pair that some rule matches decides, by the first rule that matches it.
Without rules everything is accepted; with rules, what none matches is refused.
-/
import TunnelMesh.Mesh.Node

namespace TunnelMesh

/-- What a rule decides. -/
inductive AccessAction where
  | accept
  | deny
deriving DecidableEq, Repr

/-- A rule for connections between tags. -/
structure AccessRule where
  src : Tags
  dst : Tags
  action : AccessAction

/-- Whether a rule speaks about a pair of tags. -/
def AccessRule.hits (r : AccessRule) (src dst : String) : Bool :=
  r.src.contains src && r.dst.contains dst

/-- A list of rules; earlier ones win. -/
structure AccessList where
  rules : List AccessRule

namespace AccessList

/-- No rule: everything is accepted. -/
def allowAll : AccessList := ⟨[]⟩

/-- The decision of the first rule that speaks about a pair. -/
def decidePair (rules : List AccessRule) (src dst : String) : Option Bool :=
  (rules.find? fun r => r.hits src dst).map fun r => r.action == .accept

/-- Whether nodes with these tags may connect. -/
def allowsTags (a : AccessList) (src dst : Tags) : Bool :=
  if a.rules.isEmpty then true
  else
    (src.toList.findSome? fun s => dst.toList.findSome? fun d => decidePair a.rules s d).getD false

/-- Whether one node may connect to another. -/
def allows (a : AccessList) (src dst : Node) : Bool := a.allowsTags src.tags dst.tags

end AccessList

end TunnelMesh
