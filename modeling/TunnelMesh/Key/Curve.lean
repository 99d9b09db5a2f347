/-
Public points of secret scalars on Curve25519.

The curve is y² = x³ + 486662·x² + x over the integers modulo 2²⁵⁵ − 19.  A
scalar multiplies the point with x = 9 by the ladder of Montgomery, which needs x
coordinates only, kept as fractions.
-/

namespace TunnelMesh.Key.Curve

/-- The prime 2²⁵⁵ − 19. -/
def prime : Nat := Nat.pow 2 255 - 19

/-- Addition modulo the prime. -/
def add (a b : Nat) : Nat := (a + b) % prime

/-- Subtraction modulo the prime, for arguments below it. -/
def sub (a b : Nat) : Nat := (a + prime - b) % prime

/-- Multiplication modulo the prime. -/
def mul (a b : Nat) : Nat := (a * b) % prime

/-- Powers modulo the prime; `bits` bounds the number of binary digits of the exponent. -/
def pow (bits a e : Nat) : Nat :=
  match bits with
  | 0 => 1
  | bits + 1 =>
    let half := pow bits (mul a a) (e / 2)
    if e % 2 = 1 then mul a half else half

/-- The inverse modulo the prime, and 0 for 0. -/
def inv (a : Nat) : Nat := pow 255 a (prime - 2)

/-- The two neighbouring multiples that the ladder carries, as fractions x / z. -/
structure Rungs where
  x2 : Nat
  z2 : Nat
  x3 : Nat
  z3 : Nat

/-- Exchanges the two multiples. -/
def Rungs.swap (r : Rungs) : Rungs := ⟨r.x3, r.z3, r.x2, r.z2⟩

/-- Doubles the first multiple and adds the two; their difference has coordinate `x1`. -/
def Rungs.step (x1 : Nat) (r : Rungs) : Rungs :=
  let a := add r.x2 r.z2
  let aa := mul a a
  let b := sub r.x2 r.z2
  let bb := mul b b
  let e := sub aa bb
  let c := add r.x3 r.z3
  let d := sub r.x3 r.z3
  let da := mul d a
  let cb := mul c b
  let sum := add da cb
  let diff := sub da cb
  ⟨mul aa bb, mul e (add aa (mul 121665 e)), mul sum sum, mul x1 (mul diff diff)⟩

/-- The ladder over the `n` lowest bits of `k`, highest first. -/
def ladder (x1 k : Nat) : Nat → Rungs → Rungs
  | 0, r => r
  | n + 1, r =>
    let bit := k.testBit n
    let r := if bit then r.swap else r
    let r := r.step x1
    ladder x1 k n (if bit then r.swap else r)

/-- The scalar of a secret: the three lowest bits and the highest are cleared, the next is set. -/
def clamp (k : Nat) : Nat :=
  (k % Nat.pow 2 254) / 8 * 8 + Nat.pow 2 254

/-- The x coordinate of the multiple `clamp k` of the point with coordinate `x1`. -/
def scale (k x1 : Nat) : Nat :=
  let r := ladder x1 (clamp k) 255 ⟨1, 0, x1, 1⟩
  mul r.x2 (inv r.z2)

/-- The number that bytes stand for, lowest byte first. -/
def ofBytes (bytes : List UInt8) : Nat :=
  bytes.foldr (fun b acc => b.toNat + 256 * acc) 0

/-- The `n` lowest bytes of a number, lowest first. -/
def toBytes : Nat → Nat → List UInt8
  | 0, _ => []
  | n + 1, k => UInt8.ofNat (k % 256) :: toBytes n (k / 256)

/-- The public bytes of secret bytes. -/
def publicBytes (secret : List UInt8) : List UInt8 :=
  toBytes 32 (scale (ofBytes secret) 9)

theorem length_toBytes (n k : Nat) : (toBytes n k).length = n := by
  induction n generalizing k with
  | zero => rfl
  | succ n ih => simp [toBytes, ih]

end TunnelMesh.Key.Curve
