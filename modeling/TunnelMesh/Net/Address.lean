/-
Internet addresses of both families, their text and their order.

Version 4 addresses are four decimal octets.  Version 6 addresses are eight
hexadecimal groups; the longest run of at least two zero groups, the first of
equal ones, is written `::`, and only addresses that carry a version 4 address
behind 80 zero bits and 16 one bits show it in dotted form.
-/
import TunnelMesh.Order
import TunnelMesh.Text.Digits

namespace TunnelMesh.Net

/-- A version 4 address. -/
structure Ipv4 where
  /-- The 32 bits, first octet highest. -/
  bits : BitVec 32
deriving DecidableEq, Repr

/-- A version 6 address. -/
structure Ipv6 where
  /-- The 128 bits, first group highest. -/
  bits : BitVec 128
deriving DecidableEq, Repr

/-- An address of either family. -/
inductive Address where
  /-- A version 4 address. -/
  | v4 (ip : Ipv4)
  /-- A version 6 address. -/
  | v6 (ip : Ipv6)
deriving DecidableEq, Repr

namespace Ipv4

/-- The address with the given octets. -/
def ofOctets (a b c d : Nat) : Ipv4 :=
  ⟨BitVec.ofNat 32 (((a * 256 + b) * 256 + c) * 256 + d)⟩

/-- The octets, first one first. -/
def octets (ip : Ipv4) : List Nat :=
  let n := ip.bits.toNat
  [n / 16777216, n / 65536 % 256, n / 256 % 256, n % 256]

/-- The dotted text. -/
def toText (ip : Ipv4) : String :=
  ".".intercalate (ip.octets.map toString)

/-- How an octet is written: up to three digits; leading zeros only where `zeros` allows them. -/
def octetForm (zeros : Bool) : Text.NumberForm := ⟨10, some 3, zeros, 256⟩

/-- Reads an octet that a point precedes. -/
def readNextOctet (zeros : Bool) : List Char → Option (Nat × List Char)
  | '.' :: rest => (octetForm zeros).read rest
  | _ => none

/-- Reads an address at the start of a text. -/
def read (zeros : Bool) (cs : List Char) : Option (Ipv4 × List Char) := do
  let (a, cs) ← (octetForm zeros).read cs
  let (b, cs) ← readNextOctet zeros cs
  let (c, cs) ← readNextOctet zeros cs
  let (d, cs) ← readNextOctet zeros cs
  return (ofOctets a b c d, cs)

end Ipv4

namespace Ipv6

/-- The address with the given groups; missing groups count as zero. -/
def ofGroups (groups : List Nat) : Ipv6 :=
  ⟨BitVec.ofNat 128 (Text.ofDigits 65536 ((groups ++ List.replicate 8 0).take 8))⟩

/-- The eight groups, first one first. -/
def groups (ip : Ipv6) : List Nat :=
  (List.range 8).map fun i => ip.bits.toNat / Nat.pow 65536 (7 - i) % 65536

/-- The version 4 address carried behind 80 zero bits and 16 one bits. -/
def mapped? (ip : Ipv6) : Option Ipv4 :=
  if ip.bits.toNat / 4294967296 = 65535 then some ⟨BitVec.ofNat 32 ip.bits.toNat⟩ else none

/-- The longest run of zeros in `gs`, the first of equal ones, as start and length. `at` is the
index of the head; `start` and `len` describe the run that ends before it. -/
def longestZeros (index start len : Nat) (best : Nat × Nat) : List Nat → Nat × Nat
  | [] => best
  | g :: gs =>
    if g = 0 then
      let start := if len = 0 then index else start
      let len := len + 1
      longestZeros (index + 1) start len (if best.2 < len then (start, len) else best) gs
    else longestZeros (index + 1) 0 0 best gs

/-- Groups in lower case hexadecimal with colons between them. -/
def groupsText (gs : List Nat) : String :=
  ":".intercalate (gs.map fun g => String.ofList (Nat.toDigits 16 g))

/-- The text of an address. -/
def toText (ip : Ipv6) : String :=
  match ip.mapped? with
  | some v4 => "::ffff:" ++ v4.toText
  | none =>
    let gs := ip.groups
    let (start, len) := longestZeros 0 0 0 (0, 0) gs
    if 1 < len then
      groupsText (gs.take start) ++ "::" ++ groupsText (gs.drop (start + len))
    else groupsText gs

/-- How a group is written. -/
def groupForm : Text.NumberForm := ⟨16, some 4, true, 65536⟩

/-- Drops the colon before a group that is not the first. -/
def dropColon (first : Bool) (cs : List Char) : Option (List Char) :=
  if first then some cs
  else match cs with
    | ':' :: rest => some rest
    | _ => none

/-- Reads up to `limit` groups with colons between them, and says whether the last two come from a
version 4 address, which may only stand last. -/
def readGroups (zeros first : Bool) : Nat → List Char → List Nat × Bool × List Char
  | 0, cs => ([], false, cs)
  | limit + 1, cs =>
    match (if limit = 0 then none
           else (dropColon first cs).bind (Ipv4.read zeros)) with
    | some (ip, rest) =>
      let n := ip.bits.toNat
      ([n / 65536, n % 65536], true, rest)
    | none =>
      match (dropColon first cs).bind groupForm.read with
      | none => ([], false, cs)
      | some (g, rest) =>
        let (gs, dotted, rest) := readGroups zeros false limit rest
        (g :: gs, dotted, rest)

/-- Reads an address at the start of a text. With `zeros`, octets may have leading zeros and a
double colon may stand for no group at all; else it stands for one group at least. -/
def read (zeros : Bool) (cs : List Char) : Option (Ipv6 × List Char) :=
  let (head, dotted, rest) := readGroups zeros true 8 cs
  if head.length = 8 then some (ofGroups head, rest)
  else if dotted then none
  else
    match rest with
    | ':' :: ':' :: rest =>
      let limit := if zeros then 8 - head.length else 7 - head.length
      let (tail, _, rest) := readGroups zeros true limit rest
      some (ofGroups (head ++ List.replicate (8 - head.length - tail.length) 0 ++ tail), rest)
    | _ => none

end Ipv6

namespace Address

/-- The text of an address. -/
def toText : Address → String
  | .v4 ip => ip.toText
  | .v6 ip => ip.toText

/-- Whether an address is of version 4. -/
def isV4 : Address → Bool
  | .v4 _ => true
  | .v6 _ => false

/-- The number of bits of an address of the family. -/
def width : Address → Nat
  | .v4 _ => 32
  | .v6 _ => 128

/-- The bits as a number. -/
def value : Address → Nat
  | .v4 ip => ip.bits.toNat
  | .v6 ip => ip.bits.toNat

/-- Keeps the first `n` bits and clears the others. -/
def keepBits (n : Nat) : Address → Address
  | .v4 ip => .v4 ⟨BitVec.ofNat 32 (ip.bits.toNat / Nat.pow 2 (32 - n) * Nat.pow 2 (32 - n))⟩
  | .v6 ip => .v6 ⟨BitVec.ofNat 128 (ip.bits.toNat / Nat.pow 2 (128 - n) * Nat.pow 2 (128 - n))⟩

/-- Reads an address at the start of a text. -/
def read (zeros : Bool) (cs : List Char) : Option (Address × List Char) :=
  match Ipv4.read zeros cs with
  | some (ip, rest) => some (.v4 ip, rest)
  | none => (Ipv6.read zeros cs).map fun (ip, rest) => (.v6 ip, rest)

/-- Reads a whole text as an address. -/
def ofText? (s : String) : Option Address :=
  match read false s.toList with
  | some (ip, []) => some ip
  | _ => none

/-- Version 4 comes before version 6; within a family addresses go by value. -/
instance : Ord Address := ⟨compareLex (compareOn fun a => !a.isV4) (compareOn value)⟩

instance : Std.TransOrd Address :=
  inferInstanceAs (Std.TransCmp (compareLex (compareOn fun a => !isV4 a) (compareOn value)))

instance : Std.LawfulEqOrd Address :=
  Order.lawful_compareLex (f := fun a => !isV4 a) (g := value) fun a b => by
    rcases a with ⟨⟨a⟩⟩ | ⟨⟨a⟩⟩ <;> rcases b with ⟨⟨b⟩⟩ | ⟨⟨b⟩⟩ <;>
      simp [isV4, value, BitVec.toNat_inj]

end Address

end TunnelMesh.Net
