/-
The final graph and the routed peers.

Assembling goes over the first hops of a source once and makes two lists of them: the
entries, and the edges to them with their subnets.  A hop without an edge would be in
the first list only.  There is none, because a hop is where a path of usable edges
leaves the source.  What comes after that, entries in return and sorting, concerns the
entries alone, and an entry in return has no subnets, so that the edges keep mirroring
the entries with subnets.
-/
import TunnelMesh.Proofs.Route.Warm

namespace TunnelMesh

/-- The edges in use at a node are those to its peers with subnets. -/
structure RoutingPlan.MirrorsPeers {α : Type} (plan : RoutingPlan α) (v : NodeId) : Prop where
  target_iff : ∀ w, (∃ e ∈ plan.finalGraph.out v, e.target = w) ↔
    ∃ p ∈ plan.peersFor v, p.nodeId = w ∧ p.allowedIps ≠ []
  once : ((plan.finalGraph.out v).map Edge.target).Nodup
  /-- An edge says what the entry about its target says. -/
  entry : ∀ e ∈ plan.finalGraph.out v, ∀ p ∈ plan.peersFor v, p.nodeId = e.target →
    e.routes = p.allowedIps ∧ e.endpoint = p.endpoint
  /-- Without its subnets an edge is a candidate edge. -/
  candidate : ∀ e ∈ plan.finalGraph.out v, { e with routes := [] } ∈ plan.adjacency.out v

variable {α : Type}

/-! ### Edges and entries of the same hops -/

namespace RouteGraph

/-- An edge and an entry say the same. -/
structure Paired (e : Edge α) (p : PeerPlan) : Prop where
  target : e.target = p.nodeId
  routes : e.routes = p.allowedIps
  endpoint : e.endpoint = p.endpoint

variable {nodes : List Node} {g : RouteGraph α}

theorem exists_edge? {a : Adjacency α} {u v : NodeId} (h : ∃ e ∈ a.out u, e.target = v) :
    ∃ e, edge? a u v = some e := by
  rw [← Option.isSome_iff_exists, edge?, List.find?_isSome]
  obtain ⟨e, he, ht⟩ := h
  exact ⟨e, he, beq_iff_eq.mpr ht⟩

theorem paired_entry {keepalive : Option UInt16} {source : NodeId} {hop : Node}
    {nets : Std.ExtTreeSet Net.Subnet compare} {e : Edge α} (h : edge? g.usable source hop.id = some e) :
    Paired { e with routes := nets.toList } (g.entry keepalive source hop nets) := by
  refine ⟨(edge?_eq_some h).2, rfl, ?_⟩
  show e.endpoint = (edge? g.usable source hop.id).bind (·.endpoint)
  rw [h, Option.bind_some]

variable [Quantity α]

/-- **A first hop has a usable edge to it.** -/
theorem exists_edge?_of_mem_hops (hg : Indexed nodes g) {source hop : Node}
    {nets : Std.ExtTreeSet Net.Subnet compare} (h : (hop, nets) ∈ g.hops source) :
    ∃ e, edge? g.usable source.id hop.id = some e := by
  obtain ⟨-, hnets⟩ := (mem_hops hg).mp h
  obtain ⟨⟨n, hn⟩, hiff⟩ := exists_of_byHop_claims g (g.searchFrom source.id) source hnets
  exact exists_edge? (adjacent_of_holder? ((hiff n).mp hn)).2.2

/-- Every entry has its edge. -/
theorem exists_paired_edge (hg : Indexed nodes g) {keepalive : Option UInt16} {source : Node}
    {p : PeerPlan} (hp : p ∈ (g.assemble keepalive source).1) :
    ∃ e ∈ (g.assemble keepalive source).2, Paired e p := by
  rw [assemble_eq] at hp ⊢
  obtain ⟨⟨hop, nets⟩, hmem, rfl⟩ := List.mem_map.mp hp
  obtain ⟨e, he⟩ := exists_edge?_of_mem_hops hg hmem
  refine ⟨{ e with routes := nets.toList }, List.mem_filterMap.mpr ⟨(hop, nets), hmem, ?_⟩,
    paired_entry he⟩
  show (edge? g.usable source.id hop.id).map _ = _
  rw [he, Option.map_some]

/-- Every edge has its entry. -/
theorem exists_paired_entry {keepalive : Option UInt16} {source : Node} {e : Edge α}
    (he : e ∈ (g.assemble keepalive source).2) :
    ∃ p ∈ (g.assemble keepalive source).1, Paired e p := by
  rw [assemble_eq] at he ⊢
  obtain ⟨⟨hop, nets⟩, hmem, heq⟩ := List.mem_filterMap.mp he
  obtain ⟨e', he', rfl⟩ := Option.map_eq_some_iff.mp heq
  exact ⟨_, List.mem_map.mpr ⟨(hop, nets), hmem, rfl⟩, paired_entry he'⟩

end RouteGraph

/-! ### Plans -/

namespace RoutingPlan

open RouteGraph

variable [Quantity α] (c : GraphContext α) {nodes : List Node} (links : List (Link α))
  (h : (nodes.map Node.id).Nodup)

include h

/-- The edges in use at a node are those assembled for it. -/
theorem out_finalGraph_of_mem {source : Node} (hsource : source ∈ nodes) :
    (compute c nodes links).finalGraph.out source.id =
      ((c.routeGraph nodes links).assemble c.policy.keepalive source).2 := by
  have hlookup := ((c.indexed_routeGraph h links).lookup source.id source).mpr ⟨hsource, rfl⟩
  rw [Adjacency.out_eq, finalGraph_compute, Std.ExtTreeMap.getElem?_map, hlookup]
  rfl

theorem ownEntries_of_mem {source : Node} (hsource : source ∈ nodes) :
    c.ownEntries nodes links source.id =
      ((c.routeGraph nodes links).assemble c.policy.keepalive source).1 :=
  getD_assembledLists (c.indexed_routeGraph h links) c.policy.keepalive hsource

/-- Every edge in use has an entry by the node's own claims. -/
theorem exists_entry_of_mem_finalGraph {v : NodeId} {e : Edge α}
    (he : e ∈ (compute c nodes links).finalGraph.out v) :
    ∃ p ∈ c.ownEntries nodes links v, Paired e p := by
  obtain ⟨source, hsource, rfl⟩ := List.mem_map.mp
    ((mem_finalGraph c links h v).mp (Adjacency.mem_of_mem_out he))
  rw [out_finalGraph_of_mem c links h hsource] at he
  rw [ownEntries_of_mem c links h hsource]
  exact exists_paired_entry he

/-- Every entry by the node's own claims has an edge in use. -/
theorem exists_edge_of_mem_ownEntries {v : NodeId} {p : PeerPlan}
    (hp : p ∈ c.ownEntries nodes links v) :
    ∃ e ∈ (compute c nodes links).finalGraph.out v, Paired e p := by
  have hg := c.indexed_routeGraph h links
  obtain ⟨source, hsource, rfl, -⟩ := assembled_of_mem_ownEntries c links h hp
  rw [ownEntries_of_mem c links h hsource] at hp
  rw [out_finalGraph_of_mem c links h hsource]
  exact exists_paired_edge hg hp

/-- **The entries with subnets are those by the node's own claims.** -/
theorem mem_ownEntries_iff {v : NodeId} {p : PeerPlan} :
    p ∈ c.ownEntries nodes links v ↔
      p ∈ (compute c nodes links).peersFor v ∧ p.allowedIps ≠ [] := by
  constructor
  · intro hp
    obtain ⟨source, -, -, hassembled⟩ := assembled_of_mem_ownEntries c links h hp
    have hroutes := hassembled.routes
    rw [PeerPlan.hasRoutes, Bool.not_eq_true', List.isEmpty_eq_false_iff] at hroutes
    exact ⟨(mem_peersFor c links h).mpr (.inl hp), hroutes⟩
  · rintro ⟨hp, hroutes⟩
    rcases (mem_peersFor c links h).mp hp with hown | ⟨owner, -, -, -, rfl⟩
    · exact hown
    · exact absurd rfl hroutes

/-- A usable edge is a candidate edge, over which no subnet is routed yet. -/
theorem mem_adjacency_of_mem_usable {v : NodeId} {e : Edge α}
    (he : e ∈ (c.usableGraph nodes links).out v) :
    e ∈ (compute c nodes links).adjacency.out v ∧ e.routes = [] := by
  have hraw := Candidates.shaped_build c nodes links
  have hmem := (Candidates.mem_keepReached.mp (hraw.mem_usable.mp he).1).1
  obtain ⟨a, -, -, b, -, hcand⟩ := (Candidates.mem_out_build c h links).mp hmem
  obtain ⟨-, ⟨l, -, -, rfl⟩ | ⟨-, -, -, rfl⟩⟩ := GraphContext.candidate?_eq_some.mp hcand
  · exact ⟨hmem, rfl⟩
  · exact ⟨hmem, rfl⟩

/-- **In every plan for nodes with distinct ids the final graph mirrors the routed peers.** -/
theorem mirrorsPeers_compute (v : NodeId) : (compute c nodes links).MirrorsPeers v := by
  constructor
  case target_iff =>
    intro w
    constructor
    · rintro ⟨e, he, rfl⟩
      obtain ⟨p, hp, hpair⟩ := exists_entry_of_mem_finalGraph c links h he
      obtain ⟨hpeer, hroutes⟩ := (mem_ownEntries_iff c links h).mp hp
      exact ⟨p, hpeer, hpair.target.symm, hroutes⟩
    · rintro ⟨p, hp, rfl, hroutes⟩
      have hown := (mem_ownEntries_iff c links h).mpr ⟨hp, hroutes⟩
      obtain ⟨e, he, hpair⟩ := exists_edge_of_mem_ownEntries c links h hown
      exact ⟨e, he, hpair.target⟩
  case once =>
    rcases out_finalGraph c links h v with hnil | ⟨source, -, -, hout⟩
    · rw [hnil]
      exact List.nodup_nil
    · rw [hout]
      exact Candidates.nodup_targets
        (pairwise_assemble_edges (c.indexed_routeGraph h links) _ source)
  case entry =>
    intro e he p hp hid
    obtain ⟨q, hq, hpair⟩ := exists_entry_of_mem_finalGraph c links h he
    -- No two entries are about one peer, so the edge's own entry is meant.
    have hpq : q = p := List.inj_on_of_nodup_map (nodup_peersFor c links h v)
      ((mem_ownEntries_iff c links h).mp hq).1 hp (hpair.target.symm.trans hid.symm)
    exact hpq ▸ ⟨hpair.routes, hpair.endpoint⟩
  case candidate =>
    intro e he
    rcases out_finalGraph c links h v with hnil | ⟨source, -, rfl, hout⟩
    · rw [hnil] at he
      cases he
    · rw [hout] at he
      obtain ⟨e', he', nets, rfl⟩ := mem_assemble_edges he
      obtain ⟨hmem, hroutes⟩ := mem_adjacency_of_mem_usable c links h he'
      show { e' with routes := [] } ∈ _
      rw [← hroutes]
      exact hmem

end RoutingPlan

/-- The second node lists the first one in return only, and has an edge in use to the third. -/
theorem RoutingPlan.mirrorsPeers_compute_triangle :
    (Sample.triangle.map Node.id).Nodup ∧
      ((compute Sample.probedContext Sample.triangle Sample.triangleLinks).finalGraph.out ⟨2⟩).map
        Edge.target = [⟨3⟩] ∧
      (compute Sample.probedContext Sample.triangle Sample.triangleLinks).MirrorsPeers ⟨2⟩ := by
  have hnodup : (Sample.triangle.map Node.id).Nodup := by decide
  exact ⟨hnodup, by cbv,
    mirrorsPeers_compute Sample.probedContext Sample.triangleLinks hnodup ⟨2⟩⟩

end TunnelMesh
