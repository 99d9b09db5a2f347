/-
Shortest paths from one node.

The nearest node that is not settled yet is settled, the lowest id among equals,
and its edges are relaxed: a target is reached anew when the way over the edge is
strictly shorter.  Each reached node points to the node it was reached from, and
following these pointers back leads to the first hop.
-/
import TunnelMesh.Mesh.Link
import TunnelMesh.Mesh.Id

namespace TunnelMesh

/-- The state of a search. -/
structure Search (α : Type) where
  /-- The distances of the nodes reached. -/
  dist : Std.ExtTreeMap NodeId α
  /-- The node that each node was reached from. -/
  parent : Std.ExtTreeMap NodeId NodeId
  settled : Std.ExtTreeSet NodeId

namespace Search

variable {α : Type} [Quantity α]

/-- Only the source is reached, at distance zero. -/
def start (source : NodeId) : Search α := ⟨(∅ : Std.ExtTreeMap NodeId α).insert source (Quantity.ofNat 0), ∅, ∅⟩

/-- The distance of a node that may be settled next: reached, finite and not settled. -/
def open? (s : Search α) (v : NodeId) : Option α :=
  if s.settled.contains v then none else s.dist[v]?.filter Quantity.finite

/-- Takes a node if it is strictly nearer than the best so far. -/
def nearer (s : Search α) (best : Option (NodeId × α)) (v : NodeId) : Option (NodeId × α) :=
  match s.open? v with
  | none => best
  | some d =>
    match best with
    | none => some (v, d)
    | some (_, b) => if Quantity.less d b then some (v, d) else best

/-- The nearest node that may be settled, the first of equals in the order of `ids`. -/
def nearest? (s : Search α) (ids : List NodeId) : Option (NodeId × α) :=
  ids.foldl s.nearer none

/-- Whether a distance improves on what a node has. -/
def improves (s : Search α) (v : NodeId) (d : α) : Bool :=
  match s.dist[v]? with
  | none => Quantity.belowTop d
  | some old => Quantity.less d old

/-- Relaxes an edge from a node at distance `d`. -/
def relax (known : NodeId → Bool) (d : α) (s : Search α) (e : Edge α) (u : NodeId) : Search α :=
  let d' := Quantity.add d e.weight
  if known e.target && !s.settled.contains e.target && s.improves e.target d' then
    { s with dist := s.dist.insert e.target d', parent := s.parent.insert e.target u }
  else s

/-- Settles a node and relaxes its edges. -/
def settle (known : NodeId → Bool) (s : Search α) (u : NodeId) (d : α) (edges : List (Edge α)) :
    Search α :=
  edges.foldl (fun s e => relax known d s e u) { s with settled := s.settled.insert u }

/-- Settles up to `n` nodes. -/
def run (g : Adjacency α) (ids : List NodeId) (known : NodeId → Bool) :
    Nat → Search α → Search α
  | 0, s => s
  | n + 1, s =>
    match s.nearest? ids with
    | none => s
    | some (u, d) => run g ids known n (s.settle known u d (g.out u))

/-- Shortest paths from `source` to the nodes `ids`. -/
def shortestPaths (g : Adjacency α) (ids : List NodeId) (source : NodeId) : Search α :=
  let known : Std.ExtTreeSet NodeId := .ofList ids
  run g ids (fun v => known.contains v) ids.length (start source)

/-- Follows the pointers from a node back to the one after the source, as long as `fuel` lasts. -/
def climb (parent : Std.ExtTreeMap NodeId NodeId) (source : NodeId) : Nat → NodeId → Option NodeId
  | 0, _ => none
  | fuel + 1, v =>
    match parent[v]? with
    | none => none
    | some u => if u = source then some v else climb parent source fuel u

/-- The first node on the way from the source to a node. The pointers form a tree, so that as many
steps as there are pointers suffice. -/
def firstHop (s : Search α) (source dest : NodeId) : Option NodeId :=
  climb s.parent source (s.parent.size + 1) dest

end Search

end TunnelMesh
