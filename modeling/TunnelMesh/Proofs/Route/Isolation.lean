/-
Networks and nodes that are gone do not interfere.

Candidate edges join live nodes of one network only, so that the live nodes of a network
are a region that no edge crosses.  Two meshes that have the same live nodes in a network,
and the same links between those, are alike there: the plans for them say the same about
each of these nodes, whoever else there is and however the rest is linked.  Leaving the
rest out altogether is one case of that.
-/
import TunnelMesh.Proofs.Route.Region
import TunnelMesh.Proofs.Route.Shape

namespace TunnelMesh

open RouteGraph Net

variable {α : Type}

/-! ### Live nodes of a network -/

namespace GraphContext

/-- The live nodes of a network. -/
def members (c : GraphContext α) (x : NetworkId) (nodes : List Node) : List Node :=
  nodes.filter fun n => c.live n && n.networkId == x

/-- The ids of the live nodes of a network. -/
def region (c : GraphContext α) (x : NetworkId) (nodes : List Node) (v : NodeId) : Bool :=
  (c.members x nodes).any fun n => n.id == v

/-- Two meshes with the same live nodes in a network, and the same links between them. -/
structure Alike (c : GraphContext α) (x : NetworkId) (nodes nodes' : List Node)
    (links links' : List (Link α)) : Prop where
  mem_iff : ∀ n, n ∈ c.members x nodes ↔ n ∈ c.members x nodes'
  between : ∀ a ∈ c.members x nodes, ∀ b ∈ c.members x nodes,
    linksBetween links a.id b.id = linksBetween links' a.id b.id

variable {c : GraphContext α} {x : NetworkId} {nodes nodes' : List Node}
  {links links' : List (Link α)}

theorem mem_members {n : Node} :
    n ∈ c.members x nodes ↔ n ∈ nodes ∧ c.live n = true ∧ n.networkId = x := by
  rw [members, List.mem_filter, Bool.and_eq_true, beq_iff_eq]

theorem members_members : c.members x (c.members x nodes) = c.members x nodes := by
  rw [members, members, List.filter_filter]
  simp only [Bool.and_self]

theorem region_iff {v : NodeId} :
    c.region x nodes v = true ↔ ∃ n ∈ c.members x nodes, n.id = v := by
  simp only [region, List.any_eq_true, beq_iff_eq]

/-- With distinct ids a node belongs to the region if it is one of its nodes. -/
theorem region_id_iff (h : (nodes.map Node.id).Nodup) {n : Node} (hn : n ∈ nodes) :
    c.region x nodes n.id = true ↔ n ∈ c.members x nodes := by
  rw [region_iff]
  constructor
  · rintro ⟨m, hm, hid⟩
    rwa [← List.inj_on_of_nodup_map h (mem_members.mp hm).1 hn hid]
  · intro hm
    exact ⟨n, hm, rfl⟩

namespace Alike

theorem symm (h : c.Alike x nodes nodes' links links') : c.Alike x nodes' nodes links' links :=
  ⟨fun n => (h.mem_iff n).symm, fun a ha b hb =>
    (h.between a ((h.mem_iff a).mpr ha) b ((h.mem_iff b).mpr hb)).symm⟩

/-- A mesh is alike to its live nodes alone. -/
theorem self (c : GraphContext α) (x : NetworkId) (nodes : List Node) (links : List (Link α)) :
    c.Alike x nodes (c.members x nodes) links links :=
  ⟨fun _ => by rw [members_members], fun _ _ _ _ => rfl⟩

theorem region_eq (h : c.Alike x nodes nodes' links links') :
    c.region x nodes = c.region x nodes' := by
  funext v
  rw [Bool.eq_iff_iff, region_iff, region_iff]
  simp only [h.mem_iff]

theorem mem_of_region (h : c.Alike x nodes nodes' links links') (hnodup : (nodes.map Node.id).Nodup)
    {n : Node} (hn : n ∈ nodes) (hin : c.region x nodes n.id = true) : n ∈ nodes' :=
  (mem_members.mp ((h.mem_iff n).mp ((region_id_iff hnodup hn).mp hin))).1

end Alike

variable [Quantity α]

/-- No candidate edge crosses the border of a network or leads to a node that is gone. -/
theorem region_eq_of_mem_build (hnodup : (nodes.map Node.id).Nodup) {u : NodeId} {e : Edge α}
    (he : e ∈ (Candidates.build c nodes links).out u) :
    c.region x nodes u = c.region x nodes e.target := by
  obtain ⟨a, ha, rfl, b, hb, hab⟩ := (Candidates.mem_out_build c hnodup links).mp he
  obtain ⟨-, hnet, hla, hlb⟩ := (c.together_iff a b).mp (candidate?_eq_some.mp hab).1
  rw [(ends_of_candidate? hab).2, Bool.eq_iff_iff, region_id_iff hnodup ha, region_id_iff hnodup hb,
    mem_members, mem_members]
  simp only [ha, hb, hla, hlb, hnet]

namespace Alike

variable (h : c.Alike x nodes nodes' links links') (hnodup : (nodes.map Node.id).Nodup)
  (hnodup' : (nodes'.map Node.id).Nodup)

include h hnodup hnodup'

theorem mem_build {u : NodeId} (hu : c.region x nodes u = true) {e : Edge α}
    (he : e ∈ (Candidates.build c nodes links).out u) :
    e ∈ (Candidates.build c nodes' links').out u := by
  have htarget : c.region x nodes e.target = true := region_eq_of_mem_build hnodup he ▸ hu
  obtain ⟨a, ha, rfl, b, hb, hab⟩ := (Candidates.mem_out_build c hnodup links).mp he
  rw [(ends_of_candidate? hab).2] at htarget
  refine (Candidates.mem_out_build c hnodup' links').mpr
    ⟨a, h.mem_of_region hnodup ha hu, rfl, b, h.mem_of_region hnodup hb htarget, ?_⟩
  rw [← hab]
  exact (candidate?_congr c (h.between a ((region_id_iff hnodup ha).mp hu) b
    ((region_id_iff hnodup hb).mp htarget))).symm

/-- **The candidate graphs are the same in the region.** -/
theorem build_sameIn : (Candidates.build c nodes links).SameIn (c.region x nodes)
    (Candidates.build c nodes' links') where
  closed _ _ he := region_eq_of_mem_build hnodup he
  out_eq u hu := by
    refine (Candidates.shaped_build c nodes links).out_eq_out
      (Candidates.shaped_build c nodes' links') fun e => ⟨h.mem_build hnodup hnodup' hu, ?_⟩
    exact h.symm.mem_build hnodup' hnodup (h.region_eq ▸ hu)

/-- **So are the nodes and the edges in use.** -/
theorem routeGraph_sameIn :
    (c.routeGraph nodes links).SameIn (c.region x nodes) (c.routeGraph nodes' links') where
  usable := (h.build_sameIn hnodup hnodup').usable (Candidates.shaped_build c nodes links)
    (Candidates.shaped_build c nodes' links') c.measured
  table v hv := by
    refine Option.ext fun n => ?_
    rw [(c.indexed_routeGraph hnodup links).lookup, (c.indexed_routeGraph hnodup' links').lookup]
    refine and_congr_left fun hid => ?_
    rw [← hid] at hv
    exact ⟨fun hn => h.mem_of_region hnodup hn hv,
      fun hn => h.symm.mem_of_region hnodup' hn (h.region_eq ▸ hv)⟩

theorem ownEntries_eq {v : NodeId} (hv : c.region x nodes v = true) :
    c.ownEntries nodes links v = c.ownEntries nodes' links' v :=
  (h.routeGraph_sameIn hnodup hnodup').assembledLists_eq (c.indexed_routeGraph hnodup links)
    (c.indexed_routeGraph hnodup' links') c.policy.keepalive hv

end Alike

end GraphContext

/-! ### Plans -/

namespace RoutingPlan

open GraphContext

/-- Two plans that say the same about a node. -/
structure SameAt (v : NodeId) (p p' : RoutingPlan α) : Prop where
  peers : p.peers[v]? = p'.peers[v]?
  adjacency : p.adjacency[v]? = p'.adjacency[v]?
  finalGraph : p.finalGraph[v]? = p'.finalGraph[v]?
  preconnect : p.preconnect[v]? = p'.preconnect[v]?

variable [Quantity α] {c : GraphContext α} {x : NetworkId} {nodes nodes' : List Node}
  {links links' : List (Link α)} (h : c.Alike x nodes nodes' links links')
  (hnodup : (nodes.map Node.id).Nodup) (hnodup' : (nodes'.map Node.id).Nodup)

include h hnodup hnodup'

theorem mem_peersFor_of_alike {v : NodeId} (hv : c.region x nodes v = true) {p : PeerPlan}
    (hp : p ∈ (compute c nodes links).peersFor v) : p ∈ (compute c nodes' links').peersFor v := by
  have hown := h.ownEntries_eq hnodup hnodup' hv
  rw [mem_peersFor c links hnodup] at hp
  rw [mem_peersFor c links' hnodup', ← hown]
  refine hp.imp_right ?_
  rintro ⟨owner, howner, ⟨q, hq, hqv⟩, hnone, rfl⟩
  -- The owner claims over the node, so that there is a usable edge between them.
  have hin : c.region x nodes owner.id = true := by
    obtain ⟨source, -, hid, hassembled⟩ := assembled_of_mem_ownEntries c links hnodup hq
    obtain ⟨e, he, ht⟩ := hassembled.exists_edge
    rw [hid] at he
    rw [(h.routeGraph_sameIn hnodup hnodup').usable.closed owner.id e he, ht, hqv]
    exact hv
  refine ⟨owner, h.mem_of_region hnodup howner hin, ⟨q, ?_, hqv⟩, hnone, ?_⟩
  · rwa [← h.ownEntries_eq hnodup hnodup' hin]
  · show inReturn (Candidates.build c nodes links) _ v owner =
      inReturn (Candidates.build c nodes' links') _ v owner
    rw [inReturn, inReturn, dialText, dialText, (h.build_sameIn hnodup hnodup').edge?_eq hv]

theorem peersFor_eq_of_alike {v : NodeId} (hv : c.region x nodes v = true) :
    (compute c nodes links).peersFor v = (compute c nodes' links').peersFor v := by
  refine Map.eq_of_pairwise (fun a b => PeerPlan.Precedes.asymm)
    (pairwise_peersFor c links hnodup v) (pairwise_peersFor c links' hnodup' v) fun p =>
      ⟨mem_peersFor_of_alike h hnodup hnodup' hv, ?_⟩
  exact mem_peersFor_of_alike h.symm hnodup' hnodup (h.region_eq ▸ hv)

theorem mem_preconnectFor_of_alike {v : NodeId} (hv : c.region x nodes v = true) {p : PeerPlan}
    (hp : p ∈ (compute c nodes links).preconnectFor v) :
    p ∈ (compute c nodes' links').preconnectFor v := by
  have hsame := h.build_sameIn hnodup hnodup'
  obtain ⟨n, hn, ⟨e, he, hjoins⟩, rfl⟩ := (mem_preconnectFor c links hnodup).mp hp
  obtain ⟨u, hu⟩ := Adjacency.mem_edges.mp he
  obtain rfl := (Candidates.shaped_build c nodes links).sourced u e hu
  -- One end of the edge is the node, and the edge does not leave the region.
  have hclosed := hsame.closed e.source e hu
  have hends : c.region x nodes e.source = true ∧ c.region x nodes n.id = true := by
    rcases hjoins with ⟨hs, ht⟩ | ⟨ht, hs⟩
    · rw [hs, ht] at hclosed
      exact ⟨hs ▸ hv, hclosed ▸ hv⟩
    · rw [ht, hv] at hclosed
      exact ⟨hclosed, hs ▸ hclosed⟩
  refine (mem_preconnectFor c links' hnodup').mpr
    ⟨n, h.mem_of_region hnodup hn hends.2, ⟨e, ?_, hjoins⟩, ?_⟩
  · exact Adjacency.mem_edges.mpr ⟨e.source, hsame.out_eq e.source hends.1 ▸ hu⟩
  · show PeerPlan.empty n (dialText (Candidates.build c nodes' links') v n) _ =
      PeerPlan.empty n (dialText (Candidates.build c nodes links) v n) _
    rw [dialText, dialText, hsame.edge?_eq hv]

theorem preconnectFor_eq_of_alike {v : NodeId} (hv : c.region x nodes v = true) :
    (compute c nodes links).preconnectFor v = (compute c nodes' links').preconnectFor v := by
  refine Map.eq_of_pairwise (fun a b => PeerPlan.Precedes.asymm)
    (pairwise_preconnectFor c links hnodup v) (pairwise_preconnectFor c links' hnodup' v) fun p =>
      ⟨mem_preconnectFor_of_alike h hnodup hnodup' hv, ?_⟩
  exact mem_preconnectFor_of_alike h.symm hnodup' hnodup (h.region_eq ▸ hv)

/-- **Plans for meshes that are alike say the same about the live nodes of the network.** -/
theorem sameAt_of_alike {n : Node} (hn : n ∈ c.members x nodes) :
    SameAt n.id (compute c nodes links) (compute c nodes' links') := by
  have hv : c.region x nodes n.id = true := region_iff.mpr ⟨n, hn, rfl⟩
  have hid : n.id ∈ nodes.map Node.id := List.mem_map_of_mem (mem_members.mp hn).1
  have hid' : n.id ∈ nodes'.map Node.id :=
    List.mem_map_of_mem (mem_members.mp ((h.mem_iff n).mp hn)).1
  refine ⟨?_, ?_, ?_, ?_⟩
  · rw [Std.ExtTreeMap.getElem?_eq_some_getD ((mem_peers_compute c links hnodup n.id).mpr hid),
      Std.ExtTreeMap.getElem?_eq_some_getD ((mem_peers_compute c links' hnodup' n.id).mpr hid')]
    exact congrArg some (peersFor_eq_of_alike h hnodup hnodup' hv)
  · show (Candidates.build c nodes links)[n.id]? = (Candidates.build c nodes' links')[n.id]?
    rw [(Candidates.shaped_build c nodes links).getElem?_eq hid,
      (Candidates.shaped_build c nodes' links').getElem?_eq hid',
      (h.build_sameIn hnodup hnodup').out_eq n.id hv]
  · rw [finalGraph_compute, finalGraph_compute,
      (h.routeGraph_sameIn hnodup hnodup').assembled_eq (c.indexed_routeGraph hnodup links)
        (c.indexed_routeGraph hnodup' links') c.policy.keepalive hv]
  · rw [Std.ExtTreeMap.getElem?_eq_some_getD ((mem_preconnect c links hnodup n.id).mpr hid),
      Std.ExtTreeMap.getElem?_eq_some_getD ((mem_preconnect c links' hnodup' n.id).mpr hid')]
    exact congrArg some (preconnectFor_eq_of_alike h hnodup hnodup' hv)

omit h hnodup' in
/-- **Live nodes of a network have the plan that they would have alone, and nobody else changes
it.** -/
theorem isolated_compute (c : GraphContext α) (x : NetworkId) (links : List (Link α)) :
    (∀ n ∈ c.members x nodes,
      SameAt n.id (compute c (c.members x nodes) links) (compute c nodes links)) ∧
    ∀ nodes' links', (nodes'.map Node.id).Nodup → c.Alike x nodes nodes' links links' →
      ∀ n ∈ c.members x nodes, SameAt n.id (compute c nodes' links') (compute c nodes links) := by
  have hall : ∀ nodes' links', (nodes'.map Node.id).Nodup → c.Alike x nodes nodes' links links' →
      ∀ n ∈ c.members x nodes, SameAt n.id (compute c nodes' links') (compute c nodes links) :=
    fun nodes' links' hnodup' h n hn =>
      sameAt_of_alike h.symm hnodup' hnodup ((h.mem_iff n).mp hn)
  have halone : ((c.members x nodes).map Node.id).Nodup :=
    hnodup.sublist ((List.filter_sublist).map Node.id)
  exact ⟨hall _ links halone (.self c x nodes links), hall⟩

end RoutingPlan

/-! ### A row among others -/

namespace Sample

/-- Costs for a mesh whose nodes are there when they were just heard of. -/
def liveContext : GraphContext ℚ := { context with policy := Policy.standard }

/-- A node that was just heard of. -/
def seen (n : Nat) (routes : List Subnet) : Node := { node n routes with lastSeen := some ⟨0, 0⟩ }

/-- Three nodes that are there. -/
def trio : List Node := [seen 1 [], seen 2 [], seen 3 [shared]]

/-- A node of another network. -/
def stranger (n : Nat) : Node := { seen n [shared] with networkId := ⟨7⟩ }

/-- The three among a node that is gone and one of another network. -/
def crowd : List Node := stranger 5 :: trio ++ [node 4 [shared]]

/-- Links with everybody. -/
def crowdLinks : List (Link ℚ) := rowLinks ++ Link.pair ⟨1⟩ ⟨5⟩ 1 100

end Sample

/-- The three alone, and with another stranger. -/
theorem RoutingPlan.isolated_compute_crowd :
    (Sample.crowd.map Node.id).Nodup ∧
      Sample.liveContext.members ⟨0⟩ Sample.crowd = Sample.trio ∧
      (∀ n ∈ Sample.trio,
        SameAt n.id (compute Sample.liveContext Sample.trio Sample.crowdLinks)
          (compute Sample.liveContext Sample.crowd Sample.crowdLinks)) ∧
      ∀ n ∈ Sample.trio,
        SameAt n.id (compute Sample.liveContext (Sample.trio ++ [Sample.stranger 6]) Sample.rowLinks)
          (compute Sample.liveContext Sample.crowd Sample.crowdLinks) := by
  have hnodup : (Sample.crowd.map Node.id).Nodup := by decide
  have hmembers : Sample.liveContext.members ⟨0⟩ Sample.crowd = Sample.trio := rfl
  have halike : Sample.liveContext.Alike ⟨0⟩ Sample.crowd (Sample.trio ++ [Sample.stranger 6])
      Sample.crowdLinks Sample.rowLinks := by
    refine ⟨fun n => Iff.rfl, fun a ha b hb => ?_⟩
    rw [hmembers, Sample.trio] at ha hb
    simp only [List.mem_cons, List.not_mem_nil, or_false] at ha hb
    rcases ha with rfl | rfl | rfl <;> rcases hb with rfl | rfl | rfl <;> rfl
  obtain ⟨halone, hother⟩ :=
    isolated_compute hnodup Sample.liveContext ⟨0⟩ Sample.crowdLinks
  rw [hmembers] at halone hother
  exact ⟨hnodup, hmembers, halone, hother _ _ (by decide) halike⟩

end TunnelMesh
