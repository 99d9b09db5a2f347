/-
Hosts: domains and addresses of both families.

The parts of a version 4 address are decimal, octal or hexadecimal, and the last
one fills the bytes that the others leave.  A version 6 address stands in
brackets.  A domain is in lower case.
-/
import TunnelMesh.Net.Address
import TunnelMesh.Url.Domain
import TunnelMesh.Url.Escape

namespace TunnelMesh.Url

open Net

/-- Where something can be reached. -/
inductive Host where
  | domain (name : String)
  | address (ip : Address)
deriving DecidableEq

namespace Host

/-- The name of a domain. -/
def name? : Host → Option String
  | domain name => some name
  | address _ => none

/-- Family and value of an address. -/
def numbers : Host → List Nat
  | domain _ => []
  | address ip => [if ip.isV4 then 4 else 6, ip.value]

/-- Name and numbers tell hosts apart. -/
theorem eq_of_name_numbers {a b : Host} (h : a.name? = b.name?) (h' : a.numbers = b.numbers) :
    a = b := by
  rcases a with a | ⟨⟨a⟩⟩ | ⟨⟨a⟩⟩ <;> rcases b with b | ⟨⟨b⟩⟩ | ⟨⟨b⟩⟩ <;>
    simp_all [name?, numbers, Address.isV4, Address.value, BitVec.toNat_inj]

/-- A version 6 address in groups; the longest run of at least two zero groups is left out. -/
def groupsText (ip : Ipv6) : String :=
  let gs := ip.groups
  let (start, len) := Ipv6.longestZeros 0 0 0 (0, 0) gs
  if 1 < len then
    Ipv6.groupsText (gs.take start) ++ "::" ++ Ipv6.groupsText (gs.drop (start + len))
  else Ipv6.groupsText gs

/-- The text of a host without brackets. -/
def bareText : Host → String
  | domain name => name
  | address (.v4 ip) => ip.toText
  | address (.v6 ip) => groupsText ip

/-- The text of a host. -/
def toText : Host → String
  | address (.v6 ip) => "[" ++ groupsText ip ++ "]"
  | h => h.bareText

/-- A part of a version 4 address: hexadecimal after `0x`, octal after a zero, else decimal. -/
def part? (s : String) : Option Nat :=
  let read (radix : Nat) (cs : List Char) : Option Nat :=
    match Text.takeDigits radix cs with
    | (ds, []) => some (Text.ofDigits radix ds)
    | _ => none
  match s.toList with
  | [] => none
  | '0' :: 'x' :: rest => read 16 rest
  | '0' :: 'X' :: rest => read 16 rest
  | ['0'] => some 0
  | '0' :: rest => read 8 rest
  | cs => read 10 cs

/-- Whether the last part of a domain is a number, so that the whole must be an address. -/
def endsInNumber (domain : String) : Bool :=
  let last := match (domain.splitOn ".").reverse with
    | "" :: last :: _ => last
    | last :: _ => last
    | [] => ""
  Text.isDecimal last.toList || (part? last).isSome

/-- The value of the parts of a version 4 address; `left` bytes are not filled yet. -/
def joinParts (left : Nat) : List Nat → Option Nat
  | [] => none
  | [n] => if n < Nat.pow 256 left then some n else none
  | n :: rest =>
    if n < 256 then (joinParts (left - 1) rest).map (n * Nat.pow 256 (left - 1) + ·) else none

/-- A version 4 address. -/
def v4? (domain : String) : Option Ipv4 :=
  let parts := domain.splitOn "."
  let parts := if parts.getLast? == some "" then parts.dropLast else parts
  if 4 < parts.length then none
  else do
    let n ← joinParts 4 (← parts.mapM part?)
    return ⟨BitVec.ofNat 32 n⟩

/-- Reads a host. -/
def ofText? (cs : List Char) : Option Host :=
  match cs with
  | '[' :: rest =>
    if rest.getLast? == some ']' then
      match Ipv6.read false rest.dropLast with
      | some (ip, []) => some (.address (.v6 ip))
      | _ => none
    else none
  | _ => do
    let name ← domainOf? (unescape cs)
    if name.isEmpty then none
    else if endsInNumber name then (v4? name).map fun ip => .address (.v4 ip)
    else some (.domain name)

end Host

end TunnelMesh.Url
