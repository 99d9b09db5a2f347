/-
Subnets: an address and the number of its bits that count.

The bits that do not count are kept as written; `trunc` clears them.  Subnets are
ordered by address, then by length.
-/
import TunnelMesh.Net.Address

namespace TunnelMesh.Net

/-- An address with a length that fits its family. -/
structure Subnet where
  /-- The address as written. -/
  address : Address
  /-- The number of leading bits that count. -/
  length : Nat
  length_le : length ≤ address.width
deriving DecidableEq, Repr

namespace Subnet

/-- The subnet of one address. -/
def host (a : Address) : Subnet :=
  ⟨a, a.width, Nat.le_refl _⟩

/-- The text: address, slash, length. -/
def toText (s : Subnet) : String :=
  s.address.toText ++ "/" ++ toString s.length

theorem width_keepBits (n : Nat) (a : Address) : (a.keepBits n).width = a.width := by
  cases a <;> rfl

/-- The subnet with the bits past its length cleared. -/
def trunc (s : Subnet) : Subnet :=
  ⟨s.address.keepBits s.length, s.length, by rw [width_keepBits]; exact s.length_le⟩

/-- How a length is written: at most two digits for version 4, three for version 6. -/
def lengthForm : Address → Text.NumberForm
  | .v4 _ => ⟨10, some 2, true, 33⟩
  | .v6 _ => ⟨10, some 3, true, 129⟩

/-- An address with a length, if the length fits. -/
def mk? (a : Address) (n : Nat) : Option Subnet :=
  if h : n ≤ a.width then some ⟨a, n, h⟩ else none

/-- Reads a slash and a length after the address `a`, and nothing after them. -/
def readLength? (a : Address) : List Char → Option Subnet
  | '/' :: rest =>
    match (lengthForm a).read rest with
    | some (n, []) => mk? a n
    | _ => none
  | _ => none

/-- Reads a whole text as address, slash and length. -/
def ofText? (s : String) : Option Subnet :=
  let cs := s.toList
  match (Ipv4.read true cs).bind fun (ip, rest) => readLength? (.v4 ip) rest with
  | some net => some net
  | none => (Ipv6.read true cs).bind fun (ip, rest) => readLength? (.v6 ip) rest

/-- By address, then by length. -/
instance : Ord Subnet := ⟨compareLex (compareOn address) (compareOn length)⟩

instance : Std.TransOrd Subnet :=
  inferInstanceAs (Std.TransCmp (compareLex (compareOn address) (compareOn length)))

instance : Std.LawfulEqOrd Subnet :=
  Order.lawful_compareLex (f := address) (g := length) fun a b h h' => by
    cases a; cases b; simp_all

end Subnet

end TunnelMesh.Net
