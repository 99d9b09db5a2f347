/-
Numbers that name nodes, clients and networks.
-/
import TunnelMesh.Order

namespace TunnelMesh

/-- Names a node of the mesh. -/
structure NodeId where
  value : UInt64
deriving DecidableEq, Repr, Inhabited

/-- Names the client that a node belongs to. -/
structure ClientId where
  value : UInt64
deriving DecidableEq, Repr

/-- Names a network; nodes of different networks never meet. -/
structure NetworkId where
  value : UInt64
deriving DecidableEq, Repr

namespace NodeId

/-- The id in words. -/
def toText (n : NodeId) : String := s!"node-{n.value.toNat}"

instance : Ord NodeId := ⟨compareOn value⟩

instance : Std.TransOrd NodeId := inferInstanceAs (Std.TransCmp (compareOn value))

instance : Std.LawfulEqOrd NodeId :=
  Order.lawful_compareOn (f := value) fun a b h => by cases a; cases b; simp_all

end NodeId

/-- The id in words. -/
def ClientId.toText (n : ClientId) : String := s!"client-{n.value.toNat}"

/-- The id in words. -/
def NetworkId.toText (n : NetworkId) : String := s!"net-{n.value.toNat}"

/-- An ordered pair of nodes: the one that looks and the one that is looked at. -/
structure Direction where
  observer : NodeId
  dest : NodeId
deriving DecidableEq, Repr

namespace Direction

/-- The pair the other way round. -/
def reverse (d : Direction) : Direction := ⟨d.dest, d.observer⟩

instance : Ord Direction := ⟨compareLex (compareOn observer) (compareOn dest)⟩

instance : Std.TransOrd Direction :=
  inferInstanceAs (Std.TransCmp (compareLex (compareOn observer) (compareOn dest)))

instance : Std.LawfulEqOrd Direction :=
  Order.lawful_compareLex (f := observer) (g := dest) fun a b h h' => by
    cases a; cases b; simp_all

end Direction

end TunnelMesh
