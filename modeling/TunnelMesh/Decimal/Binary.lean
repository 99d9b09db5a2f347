/-
Floating point numbers taken apart.

A finite number is m · 2^q with a sign; the parts come from its 64 bits, so that
everything printed about a number is computed on natural numbers.
-/

namespace TunnelMesh.Decimal

/-- What the 64 bits of a floating point number say. -/
inductive Parts where
  /-- No number. -/
  | nan
  /-- Infinity with its sign. -/
  | infinite (negative : Bool)
  /-- The number m · 2^q with its sign. -/
  | finite (negative : Bool) (m : Nat) (q : Int)
deriving DecidableEq, Repr

/-- The parts of a floating point number. -/
def Parts.ofFloat (x : Float) : Parts :=
  let b := x.toBits.toNat
  let negative : Bool := b / Nat.pow 2 63 == 1
  let e : Nat := b / Nat.pow 2 52 % 2048
  let f : Nat := b % Nat.pow 2 52
  if e = 2047 then (if f = 0 then .infinite negative else .nan)
  else if e = 0 then .finite negative f (-1074)
  else .finite negative (Nat.pow 2 52 + f) ((e : Int) - 1075)

/-- m · 2^q as a fraction of natural numbers. -/
def fraction (m : Nat) (q : Int) : Nat × Nat :=
  if 0 ≤ q then (m * Nat.pow 2 q.toNat, 1) else (m, Nat.pow 2 (-q).toNat)

/-- The quotient rounded to the nearest whole number, a half to the even one. -/
def divNearest (num den : Nat) : Nat :=
  let k := num / den
  let r := num % den
  if 2 * r < den ∨ (2 * r = den ∧ k % 2 = 0) then k else k + 1

/-- A text of at least `n` characters, filled with zeros on the left. -/
def padZeros (n : Nat) (s : String) : String :=
  String.ofList (List.replicate (n - s.length) '0') ++ s

/-- A finite number with a fixed count of decimal places. -/
def fixedText (places : Nat) (negative : Bool) (m : Nat) (q : Int) : String :=
  let (num, den) := fraction m q
  let n := divNearest (num * Nat.pow 10 places) den
  let sign := if negative then "-" else ""
  let whole := toString (n / Nat.pow 10 places)
  if places = 0 then sign ++ whole
  else sign ++ whole ++ "." ++ padZeros places (toString (n % Nat.pow 10 places))

/-- A floating point number with six decimal places; what is not finite has a name. -/
def sixPlaces (x : Float) : String :=
  match Parts.ofFloat x with
  | .nan => "NaN"
  | .infinite false => "inf"
  | .infinite true => "-inf"
  | .finite negative m q => fixedText 6 negative m q

end TunnelMesh.Decimal
