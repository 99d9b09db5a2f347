/-
The entries that a node's peers have by its own claims.

There is one for each first hop that holds a subnet, with exactly the subnets that it
holds, in order.  The edges to these hops get the same subnets, and they come in order
of their targets.
-/
import TunnelMesh.Proofs.Route.Candidates
import TunnelMesh.Proofs.Route.Claims

namespace TunnelMesh.RouteGraph

open Quantity Net

variable {α : Type}

theorem edge?_eq_some {a : Adjacency α} {u v : NodeId} {e : Edge α} (h : edge? a u v = some e) :
    e ∈ a.out u ∧ e.target = v :=
  ⟨List.mem_of_find?_eq_some h, by simpa using List.find?_some h⟩

variable [Quantity α]

/-! ### Assembled entries -/

/-- The search that a node's entries come from. -/
def searchFrom (g : RouteGraph α) (source : NodeId) : Search α :=
  Search.shortestPaths g.usable g.ids source

/-- The entry for a first hop with its subnets. -/
def entry (g : RouteGraph α) (keepalive : Option UInt16) (source : NodeId) (hop : Node)
    (nets : Std.ExtTreeSet Subnet) : PeerPlan :=
  ⟨hop.id, hop.clientId, hop.publicKey, nets.toList,
    (edge? g.usable source hop.id).bind (·.endpoint), keepalive⟩

/-- The first hops with their subnets. -/
def hops (g : RouteGraph α) (source : Node) : List (Node × Std.ExtTreeSet Subnet) :=
  (g.claims (g.searchFrom source.id) source).byHop.toList.filterMap fun (hop, nets) =>
    g.table[hop]?.map fun n => (n, nets)

theorem assemble_eq (g : RouteGraph α) (keepalive : Option UInt16) (source : Node) :
    g.assemble keepalive source =
      ((g.hops source).map fun h => g.entry keepalive source.id h.1 h.2,
        (g.hops source).filterMap fun h =>
          (edge? g.usable source.id h.1.id).map fun e => { e with routes := h.2.toList }) := by
  have hhops : ((g.claims (g.searchFrom source.id) source).byHop.toList.filterMap
      fun h => g.table[h.1]?.map fun n => (n, h.2.toList)) =
      (g.hops source).map fun h => (h.1, h.2.toList) := by
    rw [hops, List.map_filterMap]
    refine List.filterMap_congr fun h _ => ?_
    rw [Option.map_map]
    rfl
  refine Prod.ext ?_ ?_
  · show List.map _ (List.filterMap _ _) = _
    refine (congrArg _ hhops).trans ?_
    rw [List.map_map]
    rfl
  · show List.filterMap _ (List.filterMap _ _) = _
    refine (congrArg _ hhops).trans ?_
    rw [List.filterMap_map]
    rfl

variable {nodes : List Node} {g : RouteGraph α}

theorem mem_hops (hg : Indexed nodes g) {source hop : Node}
    {nets : Std.ExtTreeSet Subnet compare} : (hop, nets) ∈ g.hops source ↔
      hop ∈ nodes ∧ (g.claims (g.searchFrom source.id) source).byHop[hop.id]? = some nets := by
  rw [hops, List.mem_filterMap]
  constructor
  · intro hx
    obtain ⟨⟨h, nets'⟩, hmem, heq⟩ := hx
    obtain ⟨n, hn, heq⟩ := Option.map_eq_some_iff.mp heq
    obtain ⟨rfl, rfl⟩ := Prod.mk.inj heq
    obtain ⟨hnode, rfl⟩ := (hg.lookup _ _).mp hn
    exact ⟨hnode, Std.ExtTreeMap.mem_toList_iff_getElem?_eq_some.mp hmem⟩
  · intro hx
    obtain ⟨hnode, hnets⟩ := hx
    refine ⟨(hop.id, nets), Std.ExtTreeMap.mem_toList_iff_getElem?_eq_some.mpr hnets, ?_⟩
    show g.table[hop.id]?.map _ = _
    rw [(hg.lookup _ _).mpr ⟨hnode, rfl⟩]
    rfl

/-- First hops come in order of their ids. -/
theorem pairwise_hops (hg : Indexed nodes g) (source : Node) :
    (g.hops source).Pairwise fun a b => compare a.1.id b.1.id = .lt := by
  rw [hops, List.pairwise_filterMap]
  refine Std.ExtTreeMap.ordered_keys_toList.imp fun {a b} hab x hx y hy => ?_
  obtain ⟨n, hn, rfl⟩ := Option.map_eq_some_iff.mp hx
  obtain ⟨m, hm, rfl⟩ := Option.map_eq_some_iff.mp hy
  rw [((hg.lookup _ _).mp hn).2, ((hg.lookup _ _).mp hm).2]
  exact hab

/-- What an entry with subnets says. -/
structure Assembled (nodes : List Node) (g : RouteGraph α) (source : Node) (p : PeerPlan) :
    Prop where
  /-- It speaks about a node of the graph. -/
  named : ∃ n ∈ nodes, n.id = p.nodeId ∧ n.clientId = p.clientId
  ne_source : p.nodeId ≠ source.id
  routes : p.hasRoutes = true
  sorted : p.allowedIps.Pairwise fun a b => compare a b = .lt
  /-- It has the subnets that the hop holds. -/
  mem_iff : ∀ n, n ∈ p.allowedIps ↔ g.holder? (g.searchFrom source.id) source n = some p.nodeId

/-- A holder is a neighbour of the source. -/
theorem adjacent_of_holder? {source : Node} {n : Subnet} {h : NodeId}
    (hh : g.holder? (g.searchFrom source.id) source n = some h) :
    h ≠ source.id ∧ h ∈ g.ids ∧ ∃ e ∈ g.usable.out source.id, e.target = h := by
  have hs := Search.sound_shortestPaths g.usable g.ids source.id
  obtain ⟨-, -, dest, -, -, -, hhop, -⟩ := (holder?_eq_some hs).mp hh
  exact hs.firstHop_adjacent hhop

/-- **Assembled entries hold what their hops hold.** -/
theorem assembled_of_mem (hg : Indexed nodes g) {keepalive : Option UInt16} {source : Node}
    {p : PeerPlan} (hp : p ∈ (g.assemble keepalive source).1) : Assembled nodes g source p := by
  rw [assemble_eq] at hp
  obtain ⟨⟨hop, nets⟩, hmem, rfl⟩ := List.mem_map.mp hp
  obtain ⟨hnode, hnets⟩ := (mem_hops hg).mp hmem
  obtain ⟨⟨n, hn⟩, hiff⟩ := exists_of_byHop_claims g (g.searchFrom source.id) source hnets
  refine ⟨⟨hop, hnode, rfl, rfl⟩, (adjacent_of_holder? ((hiff n).mp hn)).1, ?_,
    Std.ExtTreeSet.ordered_toList, fun m => ?_⟩
  · show (!nets.toList.isEmpty) = true
    rw [Bool.not_eq_true', List.isEmpty_eq_false_iff]
    exact List.ne_nil_of_mem (Std.ExtTreeSet.mem_toList.mpr hn)
  · show m ∈ nets.toList ↔ _
    rw [Std.ExtTreeSet.mem_toList]
    exact hiff m

/-- There is a usable edge to the peer of an assembled entry. -/
theorem Assembled.exists_edge {source : Node} {p : PeerPlan} (h : Assembled nodes g source p) :
    ∃ e ∈ g.usable.out source.id, e.target = p.nodeId := by
  have hroutes := h.routes
  rw [PeerPlan.hasRoutes, Bool.not_eq_true', List.isEmpty_eq_false_iff] at hroutes
  obtain ⟨n, hn⟩ := List.exists_mem_of_ne_nil _ hroutes
  exact (adjacent_of_holder? ((h.mem_iff n).mp hn)).2.2

/-- Every holder has an entry. -/
theorem exists_mem_assemble (hg : Indexed nodes g) (keepalive : Option UInt16) {source : Node}
    {n : Subnet} {h : NodeId} (hh : g.holder? (g.searchFrom source.id) source n = some h) :
    ∃ p ∈ (g.assemble keepalive source).1, p.nodeId = h := by
  obtain ⟨nets, hnets⟩ := exists_byHop_of_holder? g (g.searchFrom source.id) source hh
  obtain ⟨hop, hnode, rfl⟩ := List.mem_map.mp (hg.mem_ids.mp (adjacent_of_holder? hh).2.1)
  refine ⟨g.entry keepalive source.id hop nets, ?_, rfl⟩
  rw [assemble_eq]
  exact List.mem_map.mpr ⟨(hop, nets), (mem_hops hg).mpr ⟨hnode, hnets⟩, rfl⟩

theorem nodup_assemble (hg : Indexed nodes g) (keepalive : Option UInt16) (source : Node) :
    ((g.assemble keepalive source).1.map PeerPlan.nodeId).Nodup := by
  rw [assemble_eq, List.map_map, List.Nodup, List.pairwise_map]
  refine (pairwise_hops hg source).imp fun {a b} hab heq => ?_
  have hself : compare b.1.id b.1.id = .eq := Std.ReflCmp.compare_self
  rw [show a.1.id = b.1.id from heq, hself] at hab
  exact absurd hab (by simp)

/-! ### Edges with their subnets -/

/-- An edge in the final graph is a usable one with subnets. -/
theorem mem_assemble_edges {keepalive : Option UInt16} {source : Node} {e : Edge α}
    (he : e ∈ (g.assemble keepalive source).2) :
    ∃ e' ∈ g.usable.out source.id, ∃ nets, e = { e' with routes := nets } := by
  rw [assemble_eq] at he
  obtain ⟨h, -, he⟩ := List.mem_filterMap.mp he
  obtain ⟨e', he', rfl⟩ := Option.map_eq_some_iff.mp he
  exact ⟨e', (edge?_eq_some he').1, _, rfl⟩

theorem pairwise_assemble_edges (hg : Indexed nodes g) (keepalive : Option UInt16)
    (source : Node) :
    (g.assemble keepalive source).2.Pairwise fun a b => compare a.target b.target = .lt := by
  rw [assemble_eq, List.pairwise_filterMap]
  refine (pairwise_hops hg source).imp fun {a b} hab x hx y hy => ?_
  obtain ⟨e, he, rfl⟩ := Option.map_eq_some_iff.mp hx
  obtain ⟨e', he', rfl⟩ := Option.map_eq_some_iff.mp hy
  show compare e.target e'.target = .lt
  rw [(edge?_eq_some he).2, (edge?_eq_some he').2]
  exact hab

end TunnelMesh.RouteGraph
