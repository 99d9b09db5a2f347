/-
The natural logarithm of 1 + x in floating point, for small x too.

1 + x is written 2^k · (1 + f) with 1 + f between √2/2 and √2.  With
s = f / (2 + f), log (1 + f) = f - f²/2 + s · (f²/2 + R(s²)), where R is a
polynomial of degree seven in s².  What was lost in adding 1 to x comes back as a
correction c / (1 + x).  The error stays below one unit in the last place.
-/

namespace TunnelMesh.Logarithm

/-- The upper half of the bits of a number. -/
def highWord (x : Float) : Nat := x.toBits.toNat / Nat.pow 2 32

/-- A number with the upper half of its bits replaced. -/
def withHighWord (x : Float) (h : Nat) : Float :=
  Float.ofBits (UInt64.ofNat (h * Nat.pow 2 32 + x.toBits.toNat % Nat.pow 2 32))

/-- log 2, split so that multiples of the first part are exact. -/
def ln2High : Float := 6.93147180369123816490e-01
def ln2Low : Float := 1.90821492927058770002e-10

/-- The polynomial in s². -/
def series (z : Float) : Float :=
  let z2 := z * z
  let z4 := z2 * z2
  let z6 := z4 * z2
  let r1 := z * 6.666666666666735130e-01
  let r2 := 3.999999999940941908e-01 + z * 2.857142874366239149e-01
  let r3 := 2.222219843214978396e-01 + z * 1.818357216161805012e-01
  let r4 := 1.531383769920937332e-01 + z * 1.479819860511658591e-01
  r1 + z2 * r2 + z4 * r3 + z6 * r4

/-- log (1 + f) without a power of two. -/
def ofFraction (f : Float) : Float :=
  let half := 0.5 * f * f
  let s := f / (2.0 + f)
  f - (half - s * (half + series (s * s)))

/-- The logarithm of 2^k · (1 + f) with correction `c`; `tiny` tells that |f| is below 2⁻²⁰. -/
def assemble (k : Int) (f c : Float) (tiny : Bool) : Float :=
  if k = 0 then ofFraction f else
  let k := Float.ofInt k
  let half := 0.5 * f * f
  if tiny then
    if f == 0 then k * ln2High + (c + k * ln2Low)
    else
      let r := half * (1.0 - 0.66666666666666666 * f)
      k * ln2High - ((r - (k * ln2Low + c)) - f)
  else
    let s := f / (2.0 + f)
    k * ln2High - ((half - (s * (half + series (s * s)) + (k * ln2Low + c))) - f)

/-- Splits 1 + x into its power of two and fraction. -/
def reduce (x : Float) : Float :=
  let large := 9007199254740992.0 ≤ x
  let u := if large then x else 1.0 + x
  let k : Int := (highWord u / Nat.pow 2 20 : Nat) - 1023
  let c := if large then 0.0 else (if 0 < k then 1.0 - (u - x) else x - (u - 1.0)) / u
  let h := highWord u % Nat.pow 2 20
  if h < 0x6a09e then assemble k (withHighWord u (h + 0x3ff00000) - 1.0) c (h == 0)
  else assemble (k + 1) (withHighWord u (h + 0x3fe00000) - 1.0) c ((Nat.pow 2 20 - h) / 4 == 0)

/-- The natural logarithm of 1 + x. -/
def log1p (x : Float) : Float :=
  if x.isNaN then x
  else if x ≤ -1.0 then (if x == -1.0 then -(1.0 / 0.0) else 0.0 / 0.0)
  else if x == 1.0 / 0.0 then x
  else
    let a := x.abs
    if highWord a < 0x3c900000 then x
    else if highWord a < 0x3e200000 then x - x * x * 0.5
    else if (0 < x && highWord x < 0x3fda827a) || (x < 0 && highWord a ≤ 0x3fd2bec3) then ofFraction x
    else reduce x

end TunnelMesh.Logarithm
