/-
Decimal notation read as a floating point number through a 64-bit significand.

The significand keeps the leading digits as long as they fit 64 bits; digits after
that only count as places.  It is then multiplied or divided by one power of ten,
in floating point.  So the value can be one unit off the nearest number, and a
reader that needs the same value has to go the same way.
-/

namespace TunnelMesh.Decimal

/-- A decimal number while its digits are read. -/
structure Scaled where
  /-- The digits kept. -/
  significand : Nat
  /-- The power of ten that goes with them. -/
  exponent : Int
  /-- Whether a digit was dropped, after which all further digits are. -/
  full : Bool

/-- Whether another digit fits 64 bits. -/
def Scaled.fits (s : Scaled) (digit : Nat) : Bool :=
  !s.full && s.significand * 10 + digit < Nat.pow 2 64

/-- Takes a digit left of the point. -/
def Scaled.pushWhole (s : Scaled) (digit : Nat) : Scaled :=
  if s.fits digit then { s with significand := s.significand * 10 + digit }
  else { s with exponent := s.exponent + 1, full := true }

/-- Takes a digit right of the point. A row of digits that overflowed left of the point is tried
again here. -/
def Scaled.pushPlace (s : Scaled) (digit : Nat) : Scaled :=
  if s.fits digit then
    { s with significand := s.significand * 10 + digit, exponent := s.exponent - 1 }
  else { s with full := true }

/-- The scaled number of the digits on both sides of the point. -/
def Scaled.ofDigits (whole places : List Nat) : Scaled :=
  let s := whole.foldl Scaled.pushWhole ⟨0, 0, false⟩
  places.foldl Scaled.pushPlace { s with full := false }

/-- Divides by 10³⁰⁸ until the rest of the exponent has a power of ten. -/
def divideDown (x : Float) (e : Int) : Nat → Float × Int
  | 0 => (x, e)
  | fuel + 1 =>
    if -308 ≤ e ∨ x == 0 then (x, e)
    else divideDown (x / Float.ofScientific 1 false 308) (e + 308) fuel

/-- The value of significand and exponent, or none where it exceeds the range. -/
def Scaled.toFloat? (s : Scaled) (e : Int) : Option Float :=
  let x := s.significand.toUInt64.toFloat
  if 0 ≤ e then
    if s.significand = 0 then some 0
    else if 308 < e then none
    else
      let y := x * Float.ofScientific 1 false e.toNat
      if y.isInf then none else some y
  else if s.significand = 0 then some 0
  else
    let (y, e) := divideDown x e (2 + (-e).toNat / 308)
    if e < -308 then some 0
    else some (y / Float.ofScientific 1 false (-e).toNat)

end TunnelMesh.Decimal
