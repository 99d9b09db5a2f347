/-
The fewest decimal digits that read back as a floating point number.

The numbers that round to m · 2^q form an interval around it, its ends included
when m is even.  For 1, 2, … 17 digits the two grid points next to the value are
tried; the first grid with a point in the interval wins, and of two points on it
the nearer one.
-/
import TunnelMesh.Decimal.Binary

namespace TunnelMesh.Decimal

/-- The interval of numbers that round to one floating point number, over one denominator. -/
structure Rounding where
  /-- Numerator of the value. -/
  value : Nat
  /-- Numerator of the lower end. -/
  low : Nat
  /-- Numerator of the upper end. -/
  high : Nat
  /-- The common denominator. -/
  den : Nat
  /-- Whether the ends round to the value. -/
  closed : Bool

/-- The interval around m · 2^q; it is narrower below a power of two, unless the exponent is the
least. -/
def Rounding.of (m : Nat) (q : Int) : Rounding :=
  let (num, den) := fraction 1 (q - 2)
  let below := if m = Nat.pow 2 52 ∧ q ≠ -1074 then 4 * m - 1 else 4 * m - 2
  ⟨4 * m * num, below * num, (4 * m + 2) * num, den, m % 2 = 0⟩

/-- Whether num / den lies in the interval. -/
def Rounding.holds (r : Rounding) (num den : Nat) : Bool :=
  let x := num * r.den
  let lo := r.low * den
  let hi := r.high * den
  if r.closed then lo ≤ x && x ≤ hi else lo < x && x < hi

/-- The exponent of ten of the leading digit of num / den, for a positive number above 10⁻³⁴⁰. -/
def leadingExponent (num den : Nat) : Int :=
  ((Nat.toDigits 10 (num * Nat.pow 10 340 / den)).length : Int) - 341

/-- The point of the grid of step 10^e that lies in the interval and is nearest to the value. -/
def Rounding.onGrid (r : Rounding) (e : Int) : Option Nat :=
  -- The grid point k stands for k · stepNum / stepDen.
  let stepNum := if 0 ≤ e then Nat.pow 10 e.toNat else 1
  let stepDen := if 0 ≤ e then 1 else Nat.pow 10 (-e).toNat
  let k := r.value * stepDen / (r.den * stepNum)
  let below := r.holds (k * stepNum) stepDen
  let above := r.holds ((k + 1) * stepNum) stepDen
  -- Twice the distance from k, in units of the step over a common denominator.
  let twice := 2 * (r.value * stepDen - k * (r.den * stepNum))
  let nearAbove := r.den * stepNum < twice ∨ (r.den * stepNum = twice ∧ k % 2 = 1)
  if below && above then some (if nearAbove then k + 1 else k)
  else if below then some k
  else if above then some (k + 1)
  else none

/-- Tries grids with more and more digits. -/
def Rounding.search (r : Rounding) (top : Int) : Nat → Nat → Nat × Int
  | _, 0 => (0, 0)
  | n, fuel + 1 =>
    let e := top - (n : Int)
    match r.onGrid e with
    | some k => (k, e)
    | none => r.search top (n + 1) fuel

/-- Takes zeros off the end of a digit row. -/
def dropZeros (k : Nat) (e : Int) : Nat → Nat × Int
  | 0 => (k, e)
  | fuel + 1 => if k % 10 = 0 ∧ k ≠ 0 then dropZeros (k / 10) (e + 1) fuel else (k, e)

/-- The shortest decimal k · 10^e that reads back as the positive number m · 2^q. -/
def shortest (m : Nat) (q : Int) : Nat × Int :=
  let r := Rounding.of m q
  let (k, e) := r.search (leadingExponent r.value r.den) 0 18
  dropZeros k e 20

/-- A number k · 10^e without exponent: zeros fill up to the point on either side. -/
def positional (k : Nat) (e : Int) : String :=
  let digits := toString k
  if 0 ≤ e then digits ++ String.ofList (List.replicate e.toNat '0')
  else
    let places := (-e).toNat
    let digits := padZeros (places + 1) digits
    let cut := digits.length - places
    String.ofList (digits.toList.take cut) ++ "." ++ String.ofList (digits.toList.drop cut)

/-- How a floating point number is written in a kind of text. -/
structure FloatForm where
  /-- Whether whole numbers end in `.0`. -/
  pointZero : Bool
  /-- Numbers whose leading digit has an exponent below this are written with an exponent. -/
  leastPositional : Option Int
  /-- Numbers whose leading digit has this exponent or a greater one are written with an exponent. -/
  firstScientific : Option Int
  /-- The names of no number and of infinity. -/
  nanText : String
  infText : String

/-- Digits with a point after the first and an exponent. -/
def scientific (k : Nat) (e : Int) : String :=
  let digits := (toString k).toList
  let exponent := e + ((digits.length : Int) - 1)
  let head := String.ofList (digits.take 1)
  let tail := String.ofList (digits.drop 1)
  (if tail.isEmpty then head else head ++ "." ++ tail) ++ "e" ++ toString exponent

/-- The shortest text of a floating point number. -/
def FloatForm.text (form : FloatForm) (x : Float) : String :=
  match Parts.ofFloat x with
  | .nan => form.nanText
  | .infinite negative => (if negative then "-" else "") ++ form.infText
  | .finite negative m q =>
    let sign := if negative then "-" else ""
    let zero := if form.pointZero then ".0" else ""
    if m = 0 then sign ++ "0" ++ zero
    else
      let (k, e) := shortest m q
      let lead := e + ((Nat.toDigits 10 k).length : Int) - 1
      let tooSmall := form.leastPositional.any fun b => decide (lead < b)
      let tooLarge := form.firstScientific.any fun b => decide (b ≤ lead)
      if tooSmall || tooLarge then sign ++ scientific k e
      else sign ++ positional k e ++ (if 0 ≤ e then zero else "")

/-- Plain text: always positional, whole numbers without a point. -/
def plainForm : FloatForm := ⟨false, none, none, "NaN", "inf"⟩

end TunnelMesh.Decimal
