/-
The shape of every plan.

Nothing is assumed of weights here, so that this holds of any reading of numbers.
-/
import TunnelMesh.Proofs.Route.Plan

namespace TunnelMesh.RoutingPlan

open RouteGraph

variable {α : Type}

/-- The shape of a plan for some nodes. -/
structure WellShaped (nodes : List Node) (plan : RoutingPlan α) : Prop where
  mem_peers : ∀ v, v ∈ plan.peers ↔ v ∈ nodes.map Node.id
  mem_adjacency : ∀ v, v ∈ plan.adjacency ↔ v ∈ nodes.map Node.id
  mem_finalGraph : ∀ v, v ∈ plan.finalGraph ↔ v ∈ nodes.map Node.id
  mem_preconnect : ∀ v, v ∈ plan.preconnect ↔ v ∈ nodes.map Node.id
  /-- A peer with subnets has an entry in return. -/
  reciprocal : ∀ a b, (∃ p ∈ plan.peersFor a, p.nodeId = b ∧ p.allowedIps ≠ []) →
    ∃ q ∈ plan.peersFor b, q.nodeId = a
  /-- No list has its own node. -/
  peers_others : ∀ v, ∀ p ∈ plan.peersFor v, p.nodeId ≠ v
  adjacency_others : ∀ v, ∀ e ∈ plan.adjacency.out v, e.target ≠ v
  finalGraph_others : ∀ v, ∀ e ∈ plan.finalGraph.out v, e.target ≠ v
  preconnect_others : ∀ v, ∀ p ∈ plan.preconnectFor v, p.nodeId ≠ v
  /-- Peers are listed strictly by client and node. -/
  peers_sorted : ∀ v, (plan.peersFor v).Pairwise PeerPlan.Precedes
  preconnect_sorted : ∀ v, (plan.preconnectFor v).Pairwise PeerPlan.Precedes
  /-- Edges are listed strictly by target. -/
  adjacency_sorted : ∀ v, (plan.adjacency.out v).Pairwise fun a b => compare a.target b.target = .lt
  finalGraph_sorted : ∀ v,
    (plan.finalGraph.out v).Pairwise fun a b => compare a.target b.target = .lt
  /-- Subnets are listed strictly. -/
  peers_subnets : ∀ v, ∀ p ∈ plan.peersFor v, p.allowedIps.Pairwise fun a b => compare a b = .lt
  preconnect_subnets : ∀ v, ∀ p ∈ plan.preconnectFor v,
    p.allowedIps.Pairwise fun a b => compare a b = .lt

variable [Quantity α] (c : GraphContext α) {nodes : List Node} (links : List (Link α))

/-! ### Lists of peers -/

theorem mem_peers_compute (h : (nodes.map Node.id).Nodup) (v : NodeId) :
    v ∈ (compute c nodes links).peers ↔ v ∈ nodes.map Node.id := by
  obtain ⟨peers, hpeers, heq⟩ := completed_compute c links h
  rw [heq, Std.ExtTreeMap.mem_map, hpeers.listed.mem_iff]

/-- A node with a list of peers is one of the nodes. -/
theorem exists_node_of_mem_peersFor (h : (nodes.map Node.id).Nodup) {v : NodeId} {p : PeerPlan}
    (hp : p ∈ (compute c nodes links).peersFor v) : ∃ n ∈ nodes, n.id = v := by
  rw [← List.mem_map, ← mem_peers_compute c links h, Map.mem_iff_exists_getElem?]
  rw [peersFor, Std.ExtTreeMap.getD_eq_getD_getElem?] at hp
  cases hl : (compute c nodes links).peers[v]? with
  | none => simp [hl] at hp
  | some l => exact ⟨l, rfl⟩

theorem exists_return (h : (nodes.map Node.id).Nodup) {a b : NodeId}
    (hab : ∃ p ∈ (compute c nodes links).peersFor a, p.nodeId = b ∧ p.allowedIps ≠ []) :
    ∃ q ∈ (compute c nodes links).peersFor b, q.nodeId = a := by
  obtain ⟨peers, hpeers, heq⟩ := peersFor_compute c links h
  obtain ⟨p, hp, hid, hroutes⟩ := hab
  rw [heq, List.mem_mergeSort] at hp
  -- An entry with subnets was there before the entries in return, so that its pair was seen.
  have hpair : (a, b) ∈ routedPairs
      ((c.routeGraph nodes links).assembledLists c.policy.keepalive) := by
    refine mem_routedPairs.mpr ⟨p, (hpeers.added a p hp).resolve_right hroutes, ?_, hid⟩
    rw [PeerPlan.hasRoutes, Bool.not_eq_true', List.isEmpty_eq_false_iff]
    exact hroutes
  obtain ⟨q, hq, hqid⟩ := hpeers.answered (a, b) hpair
  refine ⟨q, ?_, hqid⟩
  rw [heq, List.mem_mergeSort]
  exact hq

/-! ### The final graph -/

theorem finalGraph_compute (nodes : List Node) (v : NodeId) :
    (compute c nodes links).finalGraph[v]? =
      ((c.routeGraph nodes links).table.map fun _ n =>
        (c.routeGraph nodes links).assemble c.policy.keepalive n)[v]?.map Prod.snd :=
  Std.ExtTreeMap.getElem?_map

theorem out_finalGraph (h : (nodes.map Node.id).Nodup) (v : NodeId) :
    (compute c nodes links).finalGraph.out v = [] ∨
      ∃ source ∈ nodes, source.id = v ∧ (compute c nodes links).finalGraph.out v =
        ((c.routeGraph nodes links).assemble c.policy.keepalive source).2 := by
  have hg := c.indexed_routeGraph h links
  have heq : (compute c nodes links).finalGraph =
      ((c.routeGraph nodes links).table.map fun _ n =>
        (c.routeGraph nodes links).assemble c.policy.keepalive n).map fun _ a => a.2 := rfl
  rw [heq, Adjacency.out_eq, Std.ExtTreeMap.getElem?_map, Std.ExtTreeMap.getElem?_map]
  cases hv : (c.routeGraph nodes links).table[v]? with
  | none => exact Or.inl rfl
  | some source =>
      obtain ⟨hsource, hid⟩ := (hg.lookup v source).mp hv
      exact Or.inr ⟨source, hsource, hid, rfl⟩

theorem mem_finalGraph (h : (nodes.map Node.id).Nodup) (v : NodeId) :
    v ∈ (compute c nodes links).finalGraph ↔ v ∈ nodes.map Node.id :=
  Std.ExtTreeMap.mem_map.trans
    (Std.ExtTreeMap.mem_map.trans (c.indexed_routeGraph h links).mem_table)

/-! ### Peers to keep warm -/

theorem mem_preconnect (h : (nodes.map Node.id).Nodup) (v : NodeId) :
    v ∈ (compute c nodes links).preconnect ↔ v ∈ nodes.map Node.id :=
  Std.ExtTreeMap.mem_map.trans
    (mem_keys_neighbours (c.indexed_routeGraph h links) (Candidates.shaped_build c nodes links))

theorem preconnectFor_compute (v : NodeId) :
    (compute c nodes links).preconnectFor v =
      ((c.routeGraph nodes links).warmList (compute c nodes links).adjacency
        c.policy.keepalive v).mergeSort PeerPlan.order :=
  getD_warmPeers _ _ _ v

theorem pairwise_preconnectFor (h : (nodes.map Node.id).Nodup) (v : NodeId) :
    ((compute c nodes links).preconnectFor v).Pairwise PeerPlan.Precedes := by
  rw [preconnectFor_compute]
  exact PeerPlan.pairwise_mergeSort (nodup_warmList (c.indexed_routeGraph h links) _ v)

/-- **The peers to keep warm are the nodes with a candidate edge, without subnets.** -/
theorem mem_preconnectFor (h : (nodes.map Node.id).Nodup) {v : NodeId} {p : PeerPlan} :
    p ∈ (compute c nodes links).preconnectFor v ↔
      ∃ n ∈ nodes, (∃ e ∈ (compute c nodes links).adjacency.edges, Joins e v n.id) ∧
        PeerPlan.empty n (dialText (compute c nodes links).adjacency v n) c.policy.keepalive = p := by
  rw [preconnectFor_compute, List.mem_mergeSort, mem_warmList (c.indexed_routeGraph h links)]
  exact exists_congr fun n => and_congr_right fun _ => and_congr_left fun _ =>
    mem_neighbours _ _ v n.id

/-! ### All lists -/

/-- **Every plan for nodes with distinct ids is in shape.** -/
theorem wellShaped_compute (h : (nodes.map Node.id).Nodup) :
    WellShaped nodes (compute c nodes links) := by
  have hg := c.indexed_routeGraph h links
  have hraw := Candidates.shaped_build c nodes links
  obtain ⟨peers, hpeers, heq⟩ := peersFor_compute c links h
  have hlisted := hpeers.listed
  refine ⟨mem_peers_compute c links h, hraw.mem_iff, mem_finalGraph c links h,
    mem_preconnect c links h, fun a b => exists_return c links h, fun v p hp => ?_,
    fun v e he => (hraw.ends v e he).1, fun v e he => ?_, fun v p hp => ?_, fun v => ?_,
    fun v => ?_, hraw.sorted, fun v => ?_, fun v p hp => ?_, fun v p hp => ?_⟩
  · rw [heq, List.mem_mergeSort] at hp
    exact hlisted.others v p hp
  · rcases out_finalGraph c links h v with hnil | ⟨source, -, hid, hout⟩
    · simp [hnil] at he
    · obtain ⟨e', he', nets, rfl⟩ := mem_assemble_edges (hout ▸ he)
      rw [hid] at he'
      exact ((Candidates.shaped_usable hraw c.measured).1.ends v e' he').1
  · obtain ⟨n, -, ⟨e, he, hjoins⟩, rfl⟩ := (mem_preconnectFor c links h).mp hp
    exact (hjoins.ends hraw he).2.2
  · rw [heq]
    exact PeerPlan.pairwise_mergeSort (hlisted.once v)
  · rw [preconnectFor_compute]
    exact PeerPlan.pairwise_mergeSort (nodup_warmList hg _ v)
  · rcases out_finalGraph c links h v with hnil | ⟨source, -, -, hout⟩
    · simp [hnil]
    · rw [hout]
      exact pairwise_assemble_edges hg _ source
  · obtain ⟨source, hsource, rfl⟩ := exists_node_of_mem_peersFor c links h hp
    rcases assembled_or_empty c links h hsource hp with hassembled | hempty
    · exact hassembled.sorted
    · simp [hempty]
  · obtain ⟨n, -, -, rfl⟩ := (mem_preconnectFor c links h).mp hp
    exact List.Pairwise.nil

theorem wellShaped_compute_row :
    (Sample.row.map Node.id).Nodup ∧
      WellShaped Sample.row (compute Sample.context Sample.row Sample.rowLinks) :=
  ⟨by decide, wellShaped_compute Sample.context Sample.rowLinks (by decide)⟩

end TunnelMesh.RoutingPlan
