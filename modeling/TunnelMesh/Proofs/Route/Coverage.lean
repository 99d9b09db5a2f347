/-
Which subnets the peers of a node take, and for whom.

A node claims a subnet of another one if it can be reached and has the subnet.  When
no weight is negative and sums stay finite, the peers of a node take exactly the
subnets that have a claimer and that the node itself does not have, each subnet goes
to one peer, and that peer is the first hop on a shortest path to the nearest claimer,
the one with the least id among equals.
-/
import Mathlib
import TunnelMesh.Proofs.Route.Plan

namespace TunnelMesh

open Quantity Adjacency Net

variable {α : Type}

/-- Another node that has a subnet and that edges lead to. -/
structure Claimer (usable : Adjacency α) (nodes : List Node) (source : Node) (n : Subnet)
    (t : Node) : Prop where
  mem : t ∈ nodes
  ne_source : t.id ≠ source.id
  reached : usable.Reaches source.id t.id
  has : n ∈ t.routedSubnets

/-- The claimer with the least distance, and the least id among those. -/
structure NearestClaimer [Quantity α] (usable : Adjacency α) (nodes : List Node) (source : Node)
    (n : Subnet) (t : Node) (d : α) : Prop where
  claimer : Claimer usable nodes source n t
  distance : usable.IsDistance source.id t.id d
  least : ∀ t' d', Claimer usable nodes source n t' → usable.IsDistance source.id t'.id d' →
    less d d' = true ∨ less d' d = false ∧ (compare t.id t'.id).isLE = true

/-! ### Distances -/

namespace Adjacency

theorem nonNegative_of_edges [Quantity α] {g : Adjacency α}
    (h : ∀ e ∈ g.edges, leq (ofNat 0) e.weight = true) : g.NonNegative :=
  fun u e he => h e (mem_edges.mpr ⟨u, he⟩)

/-- Two distances between the same nodes are below each other. -/
theorem IsDistance.leq [Quantity α] {g : Adjacency α} {u v : NodeId} {d d' : α}
    (h : g.IsDistance u v d) (h' : g.IsDistance u v d') : leq d d' = true := by
  obtain ⟨es, hes, rfl⟩ := h'.1
  exact h.2 es hes

end Adjacency

/-! ### Holders -/

namespace RouteGraph

variable [Quantity α] [OrderedQuantity α] {nodes : List Node} {g : RouteGraph α} {source : Node}

section

variable (hg : Indexed nodes g) (hw : g.usable.NonNegative)
  (hfin : g.usable.FinitePaths source.id) (hin : g.usable.LeadsInto g.ids)
  (hsource : source ∈ nodes)

include hg hw hfin hin hsource

/-- The destinations are the other nodes that edges lead to. -/
theorem mem_destinations_iff_reaches {t : Node} :
    t ∈ g.destinations (g.searchFrom source.id) source.id ↔
      t ∈ nodes ∧ t.id ≠ source.id ∧ g.usable.Reaches source.id t.id := by
  have hsrc : source.id ∈ g.ids := hg.mem_ids.mpr (List.mem_map_of_mem hsource)
  rw [mem_destinations, hg.mem_nodes, ← Search.mem_dist_iff_reaches hw hfin hin hsrc,
    Map.mem_iff_exists_getElem?]
  refine and_congr_right fun _ => and_congr_right fun _ => exists_congr fun d => ?_
  exact and_iff_left_of_imp ((Search.sound_shortestPaths g.usable g.ids source.id).finite hfin)

/-- **A subnet has a holder if it has a claimer and is not the source's.** -/
theorem exists_holder?_iff_claimer {n : Subnet} :
    (∃ h, g.holder? (g.searchFrom source.id) source n = some h) ↔
      n ∉ source.routedSubnets ∧ ∃ t, Claimer g.usable nodes source n t := by
  have hs : Search.Sound g.usable g.ids source.id (g.searchFrom source.id) :=
    Search.sound_shortestPaths g.usable g.ids source.id
  rw [exists_holder?_iff hs]
  refine and_congr_right fun _ => exists_congr fun t => ?_
  rw [mem_destinations_iff_reaches hg hw hfin hin hsource]
  constructor
  · intro hx
    obtain ⟨⟨hmem, hne, hreach⟩, hn⟩ := hx
    exact ⟨hmem, hne, hreach, hn⟩
  · intro ht
    exact ⟨⟨ht.mem, ht.ne_source, ht.reached⟩, ht.has⟩

/-- **The holder is the first hop on a shortest path to the nearest claimer.** -/
theorem nearest_of_holder? {n : Subnet} {h : NodeId}
    (hh : g.holder? (g.searchFrom source.id) source n = some h) :
    ∃ t d, NearestClaimer g.usable nodes source n t d ∧
      (g.searchFrom source.id).firstHop source.id t.id = some h ∧
      ∃ e es, g.usable.IsPath source.id (e :: es) t.id ∧ cost (e :: es) = d ∧ e.target = h := by
  have hs := Search.sound_shortestPaths g.usable g.ids source.id
  have hsrc : source.id ∈ g.ids := hg.mem_ids.mpr (List.mem_map_of_mem hsource)
  obtain ⟨-, nearer, t, farther, hsplit, hn, hhop, hnearer⟩ := (holder?_eq_some hs).mp hh
  obtain ⟨d, e, es, hd, hbranch, rfl⟩ := hs.firstHop_eq_some.mp hhop
  have ht := (mem_destinations_iff_reaches hg hw hfin hin hsource).mp
    (show t ∈ g.destinations (g.searchFrom source.id) source.id by rw [searchFrom, hsplit]; simp)
  refine ⟨t, d, ⟨⟨ht.1, ht.2.1, ht.2.2, hn⟩,
    Search.isDistance_of_dist hw hfin hin hsrc hd, fun t' d' ht' hd' => ?_⟩, hhop,
    e, es, hbranch.branch.isPath, hbranch.cost_eq, rfl⟩
  -- Another claimer is this one or comes after it.
  have hdest : t' ∈ nearer ++ t :: farther := by
    rw [← hsplit]
    exact (mem_destinations_iff_reaches hg hw hfin hin hsource).mpr
      ⟨ht'.mem, ht'.ne_source, ht'.reached⟩
  obtain ⟨d₁, hd₁⟩ := Map.mem_iff_exists_getElem?.mp
    ((Search.mem_dist_iff_reaches hw hfin hin hsrc).mpr ht'.reached)
  have hle : leq d₁ d' = true := (Search.isDistance_of_dist hw hfin hin hsrc hd₁).leq hd'
  have hzero := hs.zero_leq hw hd
  have hzero' := hs.zero_leq hw hd₁
  rcases List.mem_append.mp hdest with hbefore | hafter
  · exact absurd ht'.has (hnearer t' hbefore)
  · rcases List.mem_cons.mp hafter with rfl | hafter
    · rw [hd, Option.some.injEq] at hd₁
      refine Or.inr ⟨OrderedQuantity.not_less_of_leq (hd₁ ▸ hle), ?_⟩
      rw [show compare t'.id t'.id = .eq from Std.ReflCmp.compare_self]
      rfl
    · have hsorted := pairwise_destinations hs hw
      rw [hsplit] at hsorted
      have hprec := (List.pairwise_cons.mp (List.pairwise_append.mp hsorted).2.1).1 t' hafter
      rcases hprec d d₁ hd hd₁ with hlt | ⟨hnlt, hid⟩
      · exact Or.inl (OrderedQuantity.less_of_less_of_leq hzero hlt hle)
      · refine Or.inr ⟨OrderedQuantity.not_less_of_leq ?_, hid⟩
        exact OrderedQuantity.leq_trans (OrderedQuantity.leq_of_not_less hzero hzero' hnlt) hle

end

end RouteGraph

/-! ### Peers -/

/-- How the peers of a node share the subnets of others. -/
structure Covers [Quantity α] (usable : Adjacency α) (nodes : List Node) (source : Node)
    (search : Search α) (peers : List PeerPlan) : Prop where
  /-- No subnet goes to two peers. -/
  disjoint : peers.Pairwise fun p q => ∀ n ∈ p.allowedIps, n ∉ q.allowedIps
  /-- The subnets are those of the claimers, without the source's own. -/
  union : ∀ n, (∃ p ∈ peers, n ∈ p.allowedIps) ↔
    n ∉ source.routedSubnets ∧ ∃ t, Claimer usable nodes source n t
  /-- A subnet goes to the first hop towards its nearest claimer, which is on a shortest path. -/
  nearest : ∀ p ∈ peers, ∀ n ∈ p.allowedIps,
    ∃ t d, NearestClaimer usable nodes source n t d ∧
      search.firstHop source.id t.id = some p.nodeId ∧
      ∃ e es, usable.IsPath source.id (e :: es) t.id ∧ cost (e :: es) = d ∧ e.target = p.nodeId

namespace GraphContext

variable [Quantity α] (c : GraphContext α) {nodes : List Node} (h : (nodes.map Node.id).Nodup)
  (links : List (Link α))

include h

theorem leadsInto_usableGraph :
    (c.usableGraph nodes links).LeadsInto (c.routeGraph nodes links).ids := by
  intro u e he
  rw [(c.indexed_routeGraph h links).mem_ids]
  exact ((Candidates.shaped_usable (Candidates.shaped_build c nodes links) c.measured).1.ends
    u e he).2

end GraphContext

namespace RoutingPlan

open RouteGraph

variable [Quantity α] [OrderedQuantity α] (c : GraphContext α) {nodes : List Node}
  (links : List (Link α))

/-- **No subnet is lost, and none is routed twice.** -/
theorem covers_compute (h : (nodes.map Node.id).Nodup)
    (hw : ∀ e ∈ (c.usableGraph nodes links).edges, leq (ofNat 0) e.weight = true)
    {source : Node} (hsource : source ∈ nodes)
    (hfin : (c.usableGraph nodes links).FinitePaths source.id) :
    Covers (c.usableGraph nodes links) nodes source
      ((c.routeGraph nodes links).searchFrom source.id)
      ((compute c nodes links).peersFor source.id) := by
  have hg := c.indexed_routeGraph h links
  have hneg := nonNegative_of_edges hw
  have hin := c.leadsInto_usableGraph h links
  refine ⟨?_, fun n => ?_, fun p hp n hn => ?_⟩
  · -- A subnet of two entries would have one holder, and each node has one entry.
    refine (List.pairwise_map.mp (nodup_peersFor c links h source.id)).imp_of_mem
      fun {p q} hp hq hne n hn hn' => hne ?_
    rw [mem_allowedIps_iff c links h hsource hp] at hn
    rw [mem_allowedIps_iff c links h hsource hq, hn, Option.some.injEq] at hn'
    exact hn'
  · refine Iff.trans ?_ (exists_holder?_iff_claimer hg hneg hfin hin hsource)
    constructor
    · intro hx
      obtain ⟨p, hp, hn⟩ := hx
      exact ⟨p.nodeId, (mem_allowedIps_iff c links h hsource hp n).mp hn⟩
    · intro hx
      obtain ⟨hop, hhop⟩ := hx
      obtain ⟨p, hp, -, hn⟩ := exists_mem_peersFor c links h hsource hhop
      exact ⟨p, hp, hn⟩
  · exact nearest_of_holder? hg hneg hfin hin hsource
      ((mem_allowedIps_iff c links h hsource hp n).mp hn)

theorem covers_compute_row :
    (Sample.row.map Node.id).Nodup ∧
      (∀ e ∈ (Sample.context.usableGraph Sample.row Sample.rowLinks).edges,
        leq (ofNat 0) e.weight = true) ∧
      Sample.node 1 [] ∈ Sample.row ∧
      (Sample.context.usableGraph Sample.row Sample.rowLinks).FinitePaths (Sample.node 1 []).id ∧
      Covers (Sample.context.usableGraph Sample.row Sample.rowLinks) Sample.row (Sample.node 1 [])
        ((Sample.context.routeGraph Sample.row Sample.rowLinks).searchFrom (Sample.node 1 []).id)
        ((compute Sample.context Sample.row Sample.rowLinks).peersFor (Sample.node 1 []).id) := by
  have hnodup : (Sample.row.map Node.id).Nodup := by decide
  have hw : ∀ e ∈ (Sample.context.usableGraph Sample.row Sample.rowLinks).edges,
      leq (ofNat 0) e.weight = true := by
    have hall : ((Sample.context.usableGraph Sample.row Sample.rowLinks).edges.all
      fun e => leq (ofNat 0) e.weight) = true := by cbv
    exact List.all_eq_true.mp hall
  have hmem : Sample.node 1 [] ∈ Sample.row := List.mem_cons_self
  have hfin : (Sample.context.usableGraph Sample.row Sample.rowLinks).FinitePaths
      (Sample.node 1 []).id := fun _ _ _ _ => rfl
  exact ⟨hnodup, hw, hmem, hfin,
    covers_compute Sample.context Sample.rowLinks hnodup hw hmem hfin⟩

end RoutingPlan

end TunnelMesh
