/-
Spans of time, counted in nanoseconds.
-/
import TunnelMesh.Decimal.Binary

namespace TunnelMesh

/-- A span of time. -/
structure Duration where
  /-- The length in nanoseconds. -/
  nanos : Nat
deriving DecidableEq, Repr, Inhabited

namespace Duration

/-- Nanoseconds in a second. -/
def second : Nat := 1000000000

/-- A whole number of seconds. -/
def ofSecs (n : Nat) : Duration := ⟨n * second⟩

/-- A whole number of milliseconds. -/
def ofMillis (n : Nat) : Duration := ⟨n * 1000000⟩

/-- The longest span: 2⁶⁴ seconds less a nanosecond. -/
def max : Duration := ⟨18446744073709551616 * second - 1⟩

/-- The whole seconds. -/
def secs (d : Duration) : Nat := d.nanos / second

/-- The nanoseconds past the whole seconds. -/
def subsecNanos (d : Duration) : Nat := d.nanos % second

/-- Seconds, a point and nine digits. -/
def toText (d : Duration) : String :=
  toString d.secs ++ "." ++ Decimal.padZeros 9 (toString d.subsecNanos)

instance : LT Duration := ⟨fun a b => a.nanos < b.nanos⟩
instance : LE Duration := ⟨fun a b => a.nanos ≤ b.nanos⟩
instance (a b : Duration) : Decidable (a < b) := Nat.decLt a.nanos b.nanos
instance (a b : Duration) : Decidable (a ≤ b) := Nat.decLe a.nanos b.nanos

end Duration

end TunnelMesh
