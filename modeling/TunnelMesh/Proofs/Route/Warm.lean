/-
Peers and warm peers are told the same things.

Three passes write entries about a peer.  A routed entry takes the endpoint of the edge
in use, and entries in return and warm ones take that of the candidate edge, or else the
node's own.  Edges in use are candidate edges, no two from one node to another, and a
candidate edge already falls back to the endpoint of its target.  So all three say where
to reach the peer in the same words, and they differ in subnets only.
-/
import TunnelMesh.Proofs.Route.Admission
import TunnelMesh.Proofs.Route.Shape

namespace TunnelMesh

open RouteGraph

/-- The entry with no subnet of its own. -/
def PeerPlan.withoutRoutes (p : PeerPlan) : PeerPlan := { p with allowedIps := [] }

/-- How the peers of a node and the peers that it keeps warm agree. -/
structure RoutingPlan.AgreeAt {α : Type} (plan : RoutingPlan α) (v : NodeId) : Prop where
  /-- Of the warm entries exactly one is about a peer, and it is the peer's without subnets. -/
  warm : ∀ p ∈ plan.peersFor v,
    (plan.preconnectFor v).filter (fun q => q.nodeId == p.nodeId) = [p.withoutRoutes]
  /-- Warm are the nodes with a candidate edge from the node or to it. -/
  neighbours : ∀ w, (∃ q ∈ plan.preconnectFor v, q.nodeId = w) ↔
    (∃ e ∈ plan.adjacency.out v, e.target = w) ∨ ∃ e ∈ plan.adjacency.out w, e.target = v
  once : ((plan.preconnectFor v).map PeerPlan.nodeId).Nodup
  routeless : ∀ q ∈ plan.preconnectFor v, q.allowedIps = []

variable {α : Type}

/-! ### Edges between two nodes -/

/-- In a sorted graph an edge is the one between its ends. -/
theorem Candidates.Shaped.edge?_eq_some {ids : List NodeId} {g : Adjacency α} (h : Shaped ids g)
    {u : NodeId} {e : Edge α} (he : e ∈ g.out u) : edge? g u e.target = some e := by
  unfold edge?
  exact Map.find?_eq_some_of_nodup (nodup_targets (h.sorted u)) he

/-- In a graph over nodes, edges that join two nodes leave one of them. -/
theorem Candidates.Shaped.exists_joins_iff {ids : List NodeId} {g : Adjacency α}
    (h : Shaped ids g) (v w : NodeId) :
    (∃ e ∈ g.edges, Joins e v w) ↔
      (∃ e ∈ g.out v, e.target = w) ∨ ∃ e ∈ g.out w, e.target = v := by
  constructor
  · rintro ⟨e, he, hjoins⟩
    obtain ⟨u, hu⟩ := Adjacency.mem_edges.mp he
    have hsource := h.sourced u e hu
    rcases hjoins with ⟨hs, ht⟩ | ⟨ht, hs⟩
    · rw [← hsource, hs] at hu
      exact Or.inl ⟨e, hu, ht⟩
    · rw [← hsource, hs] at hu
      exact Or.inr ⟨e, hu, ht⟩
  · rintro (⟨e, he, ht⟩ | ⟨e, he, ht⟩)
    · exact ⟨e, Adjacency.mem_edges.mpr ⟨v, he⟩, Or.inl ⟨h.sourced v e he, ht⟩⟩
    · exact ⟨e, Adjacency.mem_edges.mpr ⟨w, he⟩, Or.inr ⟨ht, h.sourced w e he⟩⟩

section Peers

variable [Quantity α] (c : GraphContext α) {nodes : List Node} (links : List (Link α))
  (h : (nodes.map Node.id).Nodup)

/-- The endpoint of a candidate edge falls back to that of its target. -/
theorem GraphContext.endpoint_of_candidate? {c : GraphContext α} {links : List (Link α)}
    {a b : Node} {e : Edge α} (he : c.candidate? links a b = some e) :
    e.endpoint.or b.dialText = e.endpoint := by
  obtain ⟨-, ⟨l, -, -, rfl⟩ | ⟨-, -, -, rfl⟩⟩ := candidate?_eq_some.mp he
  · show (l.endpoint.or b.dialText).or b.dialText = l.endpoint.or b.dialText
    cases l.endpoint <;> simp
  · show b.dialText.or b.dialText = b.dialText
    simp

include h

/-- A node is reached where its edge in use says. -/
theorem dialText_of_mem_usable {u : NodeId} {e : Edge α} {b : Node} (hb : b ∈ nodes)
    (he : e ∈ (c.usableGraph nodes links).out u) (ht : e.target = b.id) :
    dialText (Candidates.build c nodes links) u b = e.endpoint := by
  have hraw := Candidates.shaped_build c nodes links
  have hmem := (Candidates.mem_keepReached.mp (hraw.mem_usable.mp he).1).1
  obtain ⟨a, -, -, b', hb', hcand⟩ := (Candidates.mem_out_build c h links).mp hmem
  have hbb : b' = b := by
    refine List.inj_on_of_nodup_map h hb' hb ?_
    rw [← ht, (GraphContext.ends_of_candidate? hcand).2]
  subst hbb
  unfold dialText
  rw [← ht, hraw.edge?_eq_some hmem]
  exact GraphContext.endpoint_of_candidate? hcand

namespace RoutingPlan

/-- A routed entry is about a node, with the endpoint of the edge in use. -/
theorem exists_entry_of_mem_ownEntries {v : NodeId} {p : PeerPlan}
    (hp : p ∈ c.ownEntries nodes links v) :
    ∃ n ∈ nodes, n.id = p.nodeId ∧
      p.withoutRoutes =
        .empty n ((edge? (c.usableGraph nodes links) v n.id).bind (·.endpoint))
          c.policy.keepalive := by
  have hg := c.indexed_routeGraph h links
  unfold GraphContext.ownEntries at hp
  rcases assembledLists_cases hg c.policy.keepalive v with hnil | ⟨source, -, hid, heq⟩
  · simp [hnil] at hp
  · rw [heq, assemble_eq] at hp
    obtain ⟨⟨hop, nets⟩, hmem, rfl⟩ := List.mem_map.mp hp
    refine ⟨hop, ((mem_hops hg).mp hmem).1, rfl, ?_⟩
    rw [← hid]
    rfl

/-- **Without its subnets every entry reads like a warm one.** -/
theorem withoutRoutes_of_mem_peersFor {v : NodeId} {p : PeerPlan}
    (hp : p ∈ (compute c nodes links).peersFor v) :
    ∃ n ∈ nodes, n.id = p.nodeId ∧
      .empty n (dialText (compute c nodes links).adjacency v n) c.policy.keepalive =
        p.withoutRoutes := by
  obtain ⟨e, he, ht⟩ := exists_usable_of_mem_peersFor c links h hp
  rcases (mem_peersFor c links h).mp hp with hown | ⟨owner, howner, -, -, rfl⟩
  · obtain ⟨n, hn, hid, hentry⟩ := exists_entry_of_mem_ownEntries c links h hown
    have htarget : e.target = n.id := ht.trans hid.symm
    refine ⟨n, hn, hid, ?_⟩
    have husable := (Candidates.shaped_usable (Candidates.shaped_build c nodes links) c.measured).1
    have hdial : dialText (compute c nodes links).adjacency v n = e.endpoint :=
      dialText_of_mem_usable c links h hn he htarget
    have hedge : edge? (c.usableGraph nodes links) v n.id = some e :=
      htarget ▸ husable.edge?_eq_some he
    rw [hentry, hdial, hedge, Option.bind_some]
  · exact ⟨owner, howner, rfl, rfl⟩

/-- Every peer is kept warm as well. -/
theorem withoutRoutes_mem_preconnectFor {v : NodeId} {p : PeerPlan}
    (hp : p ∈ (compute c nodes links).peersFor v) :
    p.withoutRoutes ∈ (compute c nodes links).preconnectFor v := by
  have hraw := Candidates.shaped_build c nodes links
  obtain ⟨e, he, ht⟩ := exists_usable_of_mem_peersFor c links h hp
  obtain ⟨n, hn, hid, hentry⟩ := withoutRoutes_of_mem_peersFor c links h hp
  have hmem := (Candidates.mem_keepReached.mp (hraw.mem_usable.mp he).1).1
  refine (mem_preconnectFor c links h).mpr ⟨n, hn, ?_, hentry⟩
  exact (hraw.exists_joins_iff v n.id).mpr (Or.inl ⟨e, hmem, ht.trans hid.symm⟩)

theorem nodup_preconnectFor (v : NodeId) :
    (((compute c nodes links).preconnectFor v).map PeerPlan.nodeId).Nodup := by
  rw [preconnectFor_compute]
  exact ((List.mergeSort_perm _ _).map _).nodup_iff.mpr
    (nodup_warmList (c.indexed_routeGraph h links) _ v)

/-- There is an entry for each node that a candidate edge joins. -/
theorem exists_mem_preconnectFor_iff (v w : NodeId) :
    (∃ q ∈ (compute c nodes links).preconnectFor v, q.nodeId = w) ↔
      ∃ e ∈ (compute c nodes links).adjacency.edges, Joins e v w := by
  constructor
  · rintro ⟨q, hq, rfl⟩
    obtain ⟨n, -, hjoins, rfl⟩ := (mem_preconnectFor c links h).mp hq
    exact hjoins
  · intro hjoins
    obtain ⟨e, he, hends⟩ := hjoins
    obtain ⟨n, hn, rfl⟩ := List.mem_map.mp
      (hends.ends (Candidates.shaped_build c nodes links) he).2.1
    exact ⟨_, (mem_preconnectFor c links h).mpr ⟨n, hn, ⟨e, he, hends⟩, rfl⟩, rfl⟩

/-- **Peers and warm peers agree in every plan for nodes with distinct ids.** -/
theorem agreeAt_compute (v : NodeId) : (compute c nodes links).AgreeAt v := by
  have hraw := Candidates.shaped_build c nodes links
  refine ⟨?_, ?_, nodup_preconnectFor c links h v, ?_⟩
  · intro p hp
    have hmem := withoutRoutes_mem_preconnectFor c links h hp
    have honce := nodup_preconnectFor c links h v
    exact Map.filter_eq_singleton_of_nodup honce hmem
  · intro w
    rw [exists_mem_preconnectFor_iff c links h]
    exact hraw.exists_joins_iff v w
  · intro q hq
    obtain ⟨n, -, -, rfl⟩ := (mem_preconnectFor c links h).mp hq
    rfl

end RoutingPlan

end Peers

/-- The second node has a routed peer and one in return, and both are kept warm. -/
theorem RoutingPlan.agreeAt_compute_triangle :
    (Sample.triangle.map Node.id).Nodup ∧
      ((compute Sample.probedContext Sample.triangle Sample.triangleLinks).peersFor ⟨2⟩).map
        PeerPlan.hasRoutes = [false, true] ∧
      (compute Sample.probedContext Sample.triangle Sample.triangleLinks).AgreeAt ⟨2⟩ := by
  have hnodup : (Sample.triangle.map Node.id).Nodup := by decide
  have hroutes : ((compute Sample.probedContext Sample.triangle Sample.triangleLinks).peersFor
      ⟨2⟩).map PeerPlan.hasRoutes = [false, true] := by cbv
  exact ⟨hnodup, hroutes, agreeAt_compute Sample.probedContext Sample.triangleLinks hnodup ⟨2⟩⟩

end TunnelMesh
