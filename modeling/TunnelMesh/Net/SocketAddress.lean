/-
An address with a port, and for version 6 a flow label and a scope number.

Version 6 addresses stand in brackets; a scope other than zero follows a percent
sign inside them.  Flow labels are not written, so that what is read has none.
-/
import TunnelMesh.Net.Address

namespace TunnelMesh.Net

/-- An address with a port. -/
inductive SocketAddress where
  /-- A version 4 address. -/
  | v4 (ip : Ipv4) (port : UInt16)
  /-- A version 6 address with its flow label and its scope, zero for none. -/
  | v6 (ip : Ipv6) (port : UInt16) (flow scope : UInt32)
deriving DecidableEq, Repr

namespace SocketAddress

/-- The address. -/
def address : SocketAddress → Address
  | .v4 ip _ => .v4 ip
  | .v6 ip _ _ _ => .v6 ip

/-- The port. -/
def port : SocketAddress → UInt16
  | .v4 _ p => p
  | .v6 _ p _ _ => p

/-- The flow label; version 4 has none. -/
def flow : SocketAddress → UInt32
  | .v4 _ _ => 0
  | .v6 _ _ f _ => f

/-- The scope; version 4 has none. -/
def scope : SocketAddress → UInt32
  | .v4 _ _ => 0
  | .v6 _ _ _ s => s

/-- An address with a port, no flow label and no scope. -/
def ofAddress : Address → UInt16 → SocketAddress
  | .v4 ip, p => .v4 ip p
  | .v6 ip, p => .v6 ip p 0 0

/-- The text of an address with its port, without the flow label. -/
def toText : SocketAddress → String
  | .v4 ip p => ip.toText ++ ":" ++ toString p.toNat
  | .v6 ip p _ s =>
    let scope := if s = 0 then "" else "%" ++ toString s.toNat
    "[" ++ ip.toText ++ scope ++ "]:" ++ toString p.toNat

/-- How a port is written. -/
def portForm : Text.NumberForm := ⟨10, none, true, Text.bound16⟩

/-- How a scope is written. -/
def scopeForm : Text.NumberForm := ⟨10, none, true, Text.bound32⟩

/-- Reads a colon and a port, and nothing after them. -/
def readPort? : List Char → Option UInt16
  | ':' :: rest =>
    match portForm.read rest with
    | some (p, []) => some (UInt16.ofNat p)
    | _ => none
  | _ => none

/-- Reads the scope, if there is one, and the closing bracket. -/
def readScope? : List Char → Option (UInt32 × List Char)
  | '%' :: rest =>
    match scopeForm.read rest with
    | some (s, ']' :: rest) => some (UInt32.ofNat s, rest)
    | _ => none
  | ']' :: rest => some (0, rest)
  | _ => none

/-- Reads a whole text as an address with a port. -/
def ofText? (s : String) : Option SocketAddress :=
  match s.toList with
  | '[' :: rest => do
    let (ip, rest) ← Ipv6.read false rest
    let (scope, rest) ← readScope? rest
    let port ← readPort? rest
    return .v6 ip port 0 scope
  | cs => do
    let (ip, rest) ← Ipv4.read false cs
    let port ← readPort? rest
    return .v4 ip port

/-- By address, then by port, then by flow label and scope. -/
instance : Ord SocketAddress :=
  ⟨compareLex (compareOn address) (compareOn fun a => [a.port.toNat, a.flow.toNat, a.scope.toNat])⟩

instance : Std.TransOrd SocketAddress :=
  inferInstanceAs (Std.TransCmp (compareLex (compareOn address)
    (compareOn fun a => [a.port.toNat, a.flow.toNat, a.scope.toNat])))

instance : Std.LawfulEqOrd SocketAddress :=
  Order.lawful_compareLex (f := address)
    (g := fun a => [a.port.toNat, a.flow.toNat, a.scope.toNat])
    fun a b h h' => by
      cases a <;> cases b <;>
        simp_all [address, port, flow, scope, UInt16.toNat_inj, UInt32.toNat_inj]

end SocketAddress

end TunnelMesh.Net
