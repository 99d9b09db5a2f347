/-
Numbers that latencies, bandwidths and weights are measured in.

Routes are computed in floating point, but nothing in the planner depends on it:
it needs sums, a strict order and a test for finite numbers.  Policies need some
more arithmetic.
-/
import TunnelMesh.Route.Logarithm

namespace TunnelMesh

/-- Numbers for weights. -/
class Quantity (α : Type) where
  ofNat : Nat → α
  add : α → α → α
  mul : α → α → α
  div : α → α → α
  /-- The greater of two; what is no number loses. -/
  max : α → α → α
  /-- The smaller of two; what is no number loses. -/
  min : α → α → α
  /-- The nearest whole number. -/
  round : α → α
  /-- The natural logarithm of one plus the argument. -/
  log1p : α → α
  /-- Strictly less. -/
  less : α → α → Bool
  /-- Less or equal. -/
  leq : α → α → Bool
  /-- Neither infinite nor no number. -/
  finite : α → Bool
  /-- Strictly less than infinity. -/
  belowTop : α → Bool

namespace Quantity

/-- The greater of two floating point numbers; what is no number loses. -/
def floatMax (a b : Float) : Float :=
  if a.isNaN then b else if b.isNaN then a else if a < b then b else a

/-- The smaller of two floating point numbers; what is no number loses. -/
def floatMin (a b : Float) : Float :=
  if a.isNaN then b else if b.isNaN then a else if b < a then b else a

instance : Quantity Float where
  ofNat n := n.toFloat
  add a b := a + b
  mul a b := a * b
  div a b := a / b
  max := floatMax
  min := floatMin
  round := Float.round
  log1p := Logarithm.log1p
  less a b := a < b
  leq a b := a ≤ b
  finite := Float.isFinite
  belowTop a := a < 1.0 / 0.0

end Quantity

end TunnelMesh
