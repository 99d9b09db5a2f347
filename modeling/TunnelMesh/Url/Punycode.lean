/-
Labels of domains outside ASCII, written in ASCII.

The ASCII characters of a label come first; after a hyphen follow the others, in
order of their numbers.  Each one is told by how far it is, in numbers and places,
from the one before, as a number of variable length in base 36.
-/

namespace TunnelMesh.Url.Punycode

/-- The number of digits. -/
def base : Nat := 36

/-- The digits: letters, then decimal digits. -/
def digits : List Char := "abcdefghijklmnopqrstuvwxyz0123456789".toList

/-- The digit of a value. -/
def digit (n : Nat) : Char := digits.getD n 'a'

/-- The value of a digit. -/
def value? (c : Char) : Option Nat := digits.idxOf? c

/-- The least digit that does not end a number, at weight `k`. -/
def threshold (bias k : Nat) : Nat := max 1 (min 26 (k - bias))

/-- The bias at the start. -/
def startBias : Nat := 72

/-- The number that characters outside ASCII start at. -/
def startPoint : Nat := 128

/-- Brings a distance down to the range where one more digit is not worth it. -/
def settle (k d : Nat) : Nat :=
  if h : 455 < d then settle (k + base) (d / 35) else k + base * d / (d + 38)
termination_by d
decreasing_by omega

/-- The bias after a distance; `count` is the number of characters so far. -/
def adapt (distance count : Nat) (first : Bool) : Nat :=
  let d := if first then distance / 700 else distance / 2
  settle 0 (d + d / count)

/-- A distance in digits. -/
def encodeNumber (bias k q : Nat) : List Char :=
  let t := threshold bias k
  if _h : q < t then [digit q]
  else digit (t + (q - t) % (base - t)) :: encodeNumber bias (k + base) ((q - t) / (base - t))
termination_by q
decreasing_by
  have ht : 0 < threshold bias k := by unfold threshold; omega
  have := Nat.div_le_self (q - threshold bias k) (base - threshold bias k)
  omega

/-- The state of an encoder. -/
structure Encoder where
  /-- The number that is dealt with next. -/
  point : Nat
  /-- The distance so far. -/
  delta : Nat
  bias : Nat
  /-- The number of characters written. -/
  count : Nat
  /-- Whether no number was written yet. -/
  first : Bool
  output : List Char

namespace Encoder

/-- Goes over one character while `point` is dealt with. -/
def pass (e : Encoder) (c : Char) : Encoder :=
  if c.toNat < e.point then { e with delta := e.delta + 1 }
  else if c.toNat == e.point then
    { e with
      output := e.output ++ encodeNumber e.bias base e.delta
      bias := adapt e.delta (e.count + 1) e.first
      delta := 0
      count := e.count + 1
      first := false }
  else e

/-- Deals with the next number that occurs in a label. -/
def advance (label : List Char) (e : Encoder) (point : Nat) : Encoder :=
  let e := { e with delta := e.delta + (point - e.point) * (e.count + 1), point }
  let e := label.foldl pass e
  { e with delta := e.delta + 1, point := point + 1 }

end Encoder

/-- A label in ASCII. -/
def encode (label : List Char) : List Char :=
  let plain := label.filter fun c => c.toNat < startPoint
  let points := ((label.map Char.toNat).filter (startPoint ≤ ·)).mergeSort.eraseDups
  let start : Encoder := ⟨startPoint, 0, startBias, plain.length, true, []⟩
  let e := points.foldl (Encoder.advance label) start
  plain ++ (if plain.isEmpty then [] else ['-']) ++ e.output

/-- The state of a decoder. -/
structure Decoder where
  output : List Char
  point : Nat
  /-- Where the last character was put, and one more. -/
  place : Nat
  bias : Nat
  /-- The number that is being read, its weight and its position. -/
  number : Nat
  weight : Nat
  k : Nat

namespace Decoder

/-- A number that is not exceeded. -/
def bound : Nat := 4294967296

/-- Puts the character that a number tells. -/
def put (d : Decoder) (number : Nat) : Option Decoder :=
  let place := d.place + number
  let count := d.output.length + 1
  let point := d.point + place / count
  let i := place % count
  if h : point.isValidChar then
    some ⟨d.output.take i ++ [Char.ofNatAux point h] ++ d.output.drop i, point, i + 1,
      adapt number count (d.place == 0), 0, 1, base⟩
  else none

/-- Reads one digit. -/
def read (d : Decoder) (c : Char) : Option Decoder := do
  let v ← value? c
  let number := d.number + v * d.weight
  if bound ≤ number then none
  else
    let t := threshold d.bias d.k
    if v < t then d.put number
    else some { d with number, weight := d.weight * (base - t), k := d.k + base }

end Decoder

/-- Splits a text at its last hyphen, unless that is the first character or there is none. -/
def splitLast (cs : List Char) : List Char × List Char :=
  let before := (cs.reverse.dropWhile (· != '-')).reverse
  if before.length < 2 then ([], cs) else (before.dropLast, cs.drop before.length)

/-- The label that a text in ASCII stands for. -/
def decode? (cs : List Char) : Option (List Char) := do
  let (plain, rest) := splitLast cs
  let start : Decoder := ⟨plain, startPoint, 0, startBias, 0, 1, base⟩
  let d ← rest.foldlM Decoder.read start
  if d.weight == 1 then some d.output else none

end TunnelMesh.Url.Punycode
