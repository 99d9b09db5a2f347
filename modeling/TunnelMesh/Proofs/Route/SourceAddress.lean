/-
Which packets a tunnel accepts.

A tunnel accepts a packet from a peer only if the entry for the peer has the packet's
source address, so that a node has to route the answer over the node that the packet
came from.  Where edges weigh the same in both directions, a shortest path is one for
the way back too.  That is enough if there is one neighbour only that shortest paths
back to the source go over: then each node on the way picks the one it was entered from.

It is not enough where there are two of them.  Each search breaks ties by what it settles
first, and seen from both ends of a square that may be different sides: `square_refuses`.
-/
import TunnelMesh.Proofs.Route.Delivery
import TunnelMesh.Proofs.Route.Return

namespace TunnelMesh

open Quantity Adjacency Net

variable {α : Type} [Quantity α]

/-! ### Shortest paths -/

namespace Adjacency

/-- A path that costs no more than any other one between its ends. -/
def IsShortest (g : Adjacency α) (u : NodeId) (es : List (Edge α)) (v : NodeId) : Prop :=
  g.IsPath u es v ∧ ∀ es', g.IsPath u es' v → leq (cost es) (cost es') = true

/-- An edge weighs as much as the one in return. -/
def Balanced (g : Adjacency α) : Prop :=
  ∀ u, ∀ e ∈ g.out u, ∀ e' ∈ g.out e.target, e'.target = u → e'.weight = e.weight

/-- All shortest paths from a node to `s` go over the same neighbour. -/
def Unambiguous (g : Adjacency α) (s : NodeId) : Prop :=
  ∀ v e es e' es', g.IsShortest v (e :: es) s → g.IsShortest v (e' :: es') s →
    e.target = e'.target

variable [StrictQuantity α] {g : Adjacency α} (hg : g.Positive)

section

include hg

theorem Positive.zero_leq_cost {u v : NodeId} {es : List (Edge α)} (h : g.IsPath u es v) :
    leq (ofNat 0) (cost es : α) = true :=
  h.zero_leq_cost (nonNegative_of_edges hg.nonNegative)

/-- A path stays cheaper than another one when both go on in the same way. -/
theorem Positive.less_append {u w v : NodeId} {ps qs es : List (Edge α)} (hps : g.IsPath u ps w)
    (hqs : g.IsPath u qs w) (hes : g.IsPath w es v) (hlt : less (cost ps) (cost qs) = true) :
    less (cost (ps ++ es)) (cost (qs ++ es)) = true := by
  -- Costs are added up from the start, and so the common part is taken from its end.
  induction es using List.reverseRecOn generalizing v with
  | nil => rwa [List.append_nil, List.append_nil]
  | append_singleton es e ih =>
      obtain ⟨x, hes, he, -⟩ := isPath_append.mp hes
      rw [← List.append_assoc, ← List.append_assoc, cost_concat, cost_concat]
      exact StrictQuantity.less_add_less (hg.finite_cost (isPath_append.mpr ⟨w, hps, hes⟩))
        (hg.finite_cost (isPath_append.mpr ⟨w, hqs, hes⟩)) (hg e (mem_edges.mpr ⟨x, he⟩)).1
        (ih hes)

/-- **The first part of a shortest path is one.** -/
theorem IsShortest.left {u w v : NodeId} {ps es : List (Edge α)} (h : g.IsShortest u (ps ++ es) v)
    (hps : g.IsPath u ps w) (hes : g.IsPath w es v) : g.IsShortest u ps w := by
  refine ⟨hps, fun qs hqs => ?_⟩
  rcases OrderedQuantity.leq_or_less (hg.zero_leq_cost hps) (hg.zero_leq_cost hqs) with hle | hlt
  · exact hle
  · have hless := hg.less_append hqs hps hes hlt
    have hnot := OrderedQuantity.not_less_of_leq (h.2 _ (isPath_append.mpr ⟨w, hqs, hes⟩))
    rw [hless] at hnot
    exact absurd hnot (by simp)

/-- After the first edge of a shortest path any other shortest path will do. -/
theorem IsShortest.cons {u v : NodeId} {e : Edge α} {es es' : List (Edge α)}
    (h : g.IsShortest u (e :: es) v) (hes' : g.IsShortest e.target es' v) :
    g.IsShortest u (e :: es') v := by
  have hpath : g.IsPath u (e :: es') v := ⟨h.1.1, hes'.1⟩
  have hle : leq (cost (e :: es')) (cost (e :: es)) = true := by
    rw [hg.cost_cons hpath, hg.cost_cons h.1]
    exact OrderedQuantity.add_leq_add (hg.zero_leq_cost hes'.1)
      (OrderedQuantity.leq_of_less (hg e (mem_edges.mpr ⟨u, h.1.1⟩)).2) (hes'.2 es h.1.2)
  exact ⟨hpath, fun rs hrs => OrderedQuantity.leq_trans hle (h.2 rs hrs)⟩

/-- No shortest path leads back to its start. -/
theorem IsShortest.ne {u v : NodeId} {e : Edge α} {es : List (Edge α)}
    (h : g.IsShortest u (e :: es) v) : u ≠ v := by
  rintro rfl
  have hless : less (ofNat 0) (cost (e :: es) : α) = true :=
    OrderedQuantity.less_of_leq_of_less OrderedQuantity.zero_leq_zero
      (hg.zero_leq_cost h.1.2) (hg.cost_less_cons h.1)
  have hnot := OrderedQuantity.not_less_of_leq (h.2 [] rfl)
  rw [show cost ([] : List (Edge α)) = ofNat 0 from rfl, hless] at hnot
  exact absurd hnot (by simp)

end

/-! ### The way back -/

section Back

variable (hmutual : g.Mutual) (hbalanced : g.Balanced)

include hg hmutual hbalanced

theorem exists_back_concat {u w : NodeId} {ps qs : List (Edge α)} {e : Edge α} (he : e ∈ g.out w)
    (hqs : g.IsPath w qs u) (hcost : cost qs = cost ps) :
    ∃ e', g.IsPath e.target (e' :: qs) u ∧ e'.target = w ∧ cost (e' :: qs) = cost (ps ++ [e]) := by
  obtain ⟨e', he', ht⟩ := hmutual w e he
  have hpath : g.IsPath e.target (e' :: qs) u := ⟨he', ht ▸ hqs⟩
  refine ⟨e', hpath, ht, ?_⟩
  rw [hg.cost_cons hpath, cost_concat, hcost, hbalanced w e he e' he' ht]

/-- For every path there is one back that costs the same. -/
theorem exists_back {u v : NodeId} {es : List (Edge α)} (h : g.IsPath u es v) :
    ∃ es', g.IsPath v es' u ∧ cost es' = cost es := by
  induction es using List.reverseRecOn generalizing v with
  | nil => exact ⟨[], Eq.symm h, rfl⟩
  | append_singleton ps e ih =>
      obtain ⟨w, hps, he, rfl⟩ := isPath_append.mp h
      obtain ⟨qs, hqs, hcost⟩ := ih hps
      obtain ⟨e', hpath, -, heq⟩ := exists_back_concat hg hmutual hbalanced he hqs hcost
      exact ⟨e' :: qs, hpath, heq⟩

/-- **A shortest path that ends with an edge has a way back that starts over it and is shortest.** -/
theorem IsShortest.back {u w : NodeId} {ps : List (Edge α)} {e : Edge α}
    (h : g.IsShortest u (ps ++ [e]) e.target) (hps : g.IsPath u ps w) (he : e ∈ g.out w) :
    ∃ e' qs, g.IsShortest e.target (e' :: qs) u ∧ e'.target = w := by
  obtain ⟨qs, hqs, hcost⟩ := exists_back hg hmutual hbalanced hps
  obtain ⟨e', hpath, ht, heq⟩ := exists_back_concat hg hmutual hbalanced he hqs hcost
  refine ⟨e', qs, ⟨hpath, fun rs hrs => ?_⟩, ht⟩
  obtain ⟨rs', hrs', hcost'⟩ := exists_back hg hmutual hbalanced hrs
  rw [heq, ← hcost']
  exact h.2 rs' hrs'

end Back

end Adjacency

/-! ### Meshes without shared subnets -/

/-- Nodes with ids and addresses of their own, and nothing behind them. -/
structure Addressed (nodes : List Node) : Prop where
  ids : (nodes.map Node.id).Nodup
  addresses : (nodes.map fun n => n.address.address).Nodup
  routes : ∀ n ∈ nodes, n.routes = []

/-- The route to a node is that node's only. -/
theorem Addressed.eq_of_mem {nodes : List Node} (h : Addressed nodes) {n m : Node} (hn : n ∈ nodes)
    (hm : m ∈ nodes) (hmem : n.hostRoute ∈ m.routedSubnets) : m = n := by
  rw [Node.routedSubnets, h.routes m hm, List.map_nil, List.mem_singleton] at hmem
  have haddress : n.hostRoute.address = m.hostRoute.address := by rw [hmem]
  exact (List.inj_on_of_nodup_map h.addresses hn hm haddress).symm

/-! ### Accepting -/

namespace RoutingPlan

/-- A node accepts packets with a source from another one. -/
def Accepts (plan : RoutingPlan α) (source : Subnet) (u v : Node) : Prop :=
  ∃ p ∈ plan.peersFor v.id, p.nodeId = u.id ∧ source ∈ p.allowedIps

/-- A node on the way: whatever shortest path leads on from it, together with the way so far it is a
shortest path from the start. -/
def OnTheWay (g : Adjacency α) (s t u : NodeId) : Prop :=
  ∃ ps, g.IsPath s ps u ∧ ∀ es, g.IsShortest u es t → g.IsShortest s (ps ++ es) t

variable [StrictQuantity α] (c : GraphContext α) {nodes : List Node} (links : List (Link α))
  (h : Addressed nodes) (hpos : (c.usableGraph nodes links).Positive)

include h hpos

/-- Packets are handed over along shortest paths. -/
theorem isShortest_of_handsOver {t u v : Node} (ht : t ∈ nodes) (hu : u ∈ nodes)
    (hstep : (compute c nodes links).HandsOver t.hostRoute u v) :
    ∃ e es, (c.usableGraph nodes links).IsShortest u.id (e :: es) t.id ∧ e.target = v.id := by
  obtain ⟨-, p, htakers, hid⟩ := hstep
  obtain ⟨hp, hn⟩ := List.mem_filter.mp (htakers ▸ List.mem_singleton_self p :
    p ∈ (compute c nodes links).takers u.id t.hostRoute)
  have hholder := (mem_allowedIps_iff c links h.ids hu hp _).mp (of_decide_eq_true hn)
  obtain ⟨t', d, hnear, -, e, es, hpath, rfl, htarget⟩ :=
    RouteGraph.nearest_of_holder? (c.indexed_routeGraph h.ids links)
      (nonNegative_of_edges hpos.nonNegative) (hpos.finitePaths u.id)
      (c.leadsInto_usableGraph h.ids links) hu hholder
  obtain rfl := h.eq_of_mem ht hnear.claimer.mem hnear.claimer.has
  exact ⟨e, es, ⟨hpath, hnear.distance.2⟩, htarget.trans hid⟩

/-- **A node accepts packets from the neighbour that its shortest paths to the source go over.** -/
theorem accepts_of_isShortest {s u v : Node} (hs : s ∈ nodes) (hv : v ∈ nodes)
    (huniq : (c.usableGraph nodes links).Unambiguous s.id) {e : Edge α} {es : List (Edge α)}
    (hes : (c.usableGraph nodes links).IsShortest v.id (e :: es) s.id) (htarget : e.target = u.id) :
    (compute c nodes links).Accepts s.hostRoute u v := by
  have hne : v.id ≠ s.id := hes.ne hpos
  have hlacks : s.hostRoute ∉ v.routedSubnets := fun hmem => hne (h.eq_of_mem hs hv hmem ▸ rfl)
  obtain ⟨hop, d, s', hhop, hnear, e', es', hpath, rfl, rfl⟩ :=
    exists_nearest c links h.ids hpos hv hlacks ⟨hs, hne.symm, ⟨_, hes.1⟩, List.mem_cons_self⟩
  obtain rfl := h.eq_of_mem hs hnear.claimer.mem hnear.claimer.has
  have hsame : e'.target = e.target := huniq v.id e' es' e es ⟨hpath, hnear.distance.2⟩ hes
  obtain ⟨p, hp, hid, hmem⟩ := exists_mem_peersFor c links h.ids hv hhop
  exact ⟨p, hp, hid.trans (hsame.trans htarget), hmem⟩

variable (hbalanced : (c.usableGraph nodes links).Balanced)

include hbalanced

/-- **One move on the way is accepted, and leads on.** -/
theorem OnTheWay.handsOver {s t u v : Node} (hs : s ∈ nodes) (ht : t ∈ nodes) (hu : u ∈ nodes)
    (hv : v ∈ nodes) (huniq : (c.usableGraph nodes links).Unambiguous s.id)
    (hway : OnTheWay (c.usableGraph nodes links) s.id t.id u.id)
    (hstep : (compute c nodes links).HandsOver t.hostRoute u v) :
    (compute c nodes links).Accepts s.hostRoute u v ∧
      OnTheWay (c.usableGraph nodes links) s.id t.id v.id := by
  obtain ⟨ps, hps, hshortest⟩ := hway
  obtain ⟨e, es, hes, htarget⟩ := isShortest_of_handsOver c links h hpos ht hu hstep
  -- The way to the next node is the first part of a shortest path to `t`.
  have hprefix : (c.usableGraph nodes links).IsShortest s.id (ps ++ [e]) e.target := by
    have hwhole := hshortest (e :: es) hes
    rw [List.append_cons] at hwhole
    exact hwhole.left hpos (hps.concat hes.1.1) hes.1.2
  constructor
  · obtain ⟨e', qs, hback, ht'⟩ :=
      hprefix.back hpos (c.mutual_usableGraph nodes links) hbalanced hps hes.1.1
    rw [htarget] at hback
    exact accepts_of_isShortest c links h hpos hs hv huniq hback ht'
  · rw [← htarget]
    refine ⟨ps ++ [e], hprefix.1, fun es' hes' => ?_⟩
    rw [← List.append_cons]
    exact hshortest (e :: es') (hes.cons hpos hes')

theorem OnTheWay.accepts {s t : Node} (hs : s ∈ nodes) (ht : t ∈ nodes)
    (huniq : (c.usableGraph nodes links).Unambiguous s.id) (rest : List Node) :
    ∀ {u : Node}, u ∈ nodes → (∀ v ∈ rest, v ∈ nodes) →
      OnTheWay (c.usableGraph nodes links) s.id t.id u.id →
      (u :: rest).IsChain ((compute c nodes links).HandsOver t.hostRoute) →
      (u :: rest).IsChain ((compute c nodes links).Accepts s.hostRoute) := by
  induction rest with
  | nil => intro u _ _ _ _; exact .singleton u
  | cons v rest ih =>
      intro u hu hmem hway hchain
      obtain ⟨hstep, hchain⟩ := List.isChain_cons_cons.mp hchain
      have hv : v ∈ nodes := hmem v (by simp)
      obtain ⟨haccepts, hway⟩ :=
        hway.handsOver c links h hpos hbalanced hs ht hu hv huniq hstep
      exact .cons_cons haccepts (ih hv (fun x hx => hmem x (by simp [hx])) hway hchain)

/-- **Every node on the way from `s` to `t` accepts packets of `s` from the node before.** -/
theorem accepts_of_delivers {s t : Node} {rest : List Node} (hs : s ∈ nodes) (ht : t ∈ nodes)
    (huniq : (c.usableGraph nodes links).Unambiguous s.id)
    (hwalk : Delivers (compute c nodes links) nodes t.hostRoute s rest) :
    (s :: rest).IsChain ((compute c nodes links).Accepts s.hostRoute) := by
  have hstart : OnTheWay (c.usableGraph nodes links) s.id t.id s.id := ⟨[], rfl, fun _ hes => hes⟩
  exact hstart.accepts c links h hpos hbalanced hs ht huniq rest hs hwalk.subset hwalk.handsOver

end RoutingPlan

/-! ### How many neighbours are on shortest paths -/

/-- Whether an edge of a node is on a shortest path to the source of a search. -/
def Search.leadsBack (s : Search α) (v : NodeId) (e : Edge α) : Bool :=
  match s.dist[v]?, s.dist[e.target]? with
  | some d, some d' => leq (add d' e.weight) d
  | _, _ => false

/-- Whether each node has one neighbour at most that edges on shortest paths lead to. -/
def Search.unambiguous (s : Search α) (es : List (Edge α)) : Bool :=
  es.all fun e => es.all fun e' =>
    !(e.source == e'.source && s.leadsBack e.source e && s.leadsBack e'.source e') ||
      e.target == e'.target

section Check

variable [StrictQuantity α] {g : Adjacency α} {ids : List NodeId} {source : NodeId}
  (hg : g.Positive) (hmutual : g.Mutual) (hbalanced : g.Balanced) (hin : g.LeadsInto ids)
  (hsource : source ∈ ids)

include hg hmutual hbalanced hin hsource

/-- The distances from the source are those to it, as paths lead back. -/
theorem Search.exists_dist_back {v : NodeId} {es : List (Edge α)} (hes : g.IsPath v es source) :
    ∃ d, (shortestPaths g ids source).dist[v]? = some d ∧ leq d (cost es) = true ∧
      ∃ es', g.IsPath v es' source ∧ cost es' = d := by
  have hneg := nonNegative_of_edges hg.nonNegative
  obtain ⟨es', hes', hcost⟩ := exists_back hg hmutual hbalanced hes
  obtain ⟨d, hd, hle⟩ := exists_dist_of_isPath hneg (hg.finitePaths source) hin hsource hes'
  obtain ⟨⟨ps, hps, rfl⟩, -⟩ := isDistance_of_dist hneg (hg.finitePaths source) hin hsource hd
  exact ⟨_, hd, hcost ▸ hle, exists_back hg hmutual hbalanced hps⟩

theorem Adjacency.IsShortest.leadsBack {v : NodeId} {e : Edge α} {es : List (Edge α)}
    (hes : g.IsShortest v (e :: es) source) :
    (Search.shortestPaths g ids source).leadsBack v e = true := by
  obtain ⟨d, hd, -, ps, hps, rfl⟩ :=
    Search.exists_dist_back hg hmutual hbalanced hin hsource hes.1
  obtain ⟨d', hd', hle, qs, hqs, rfl⟩ :=
    Search.exists_dist_back hg hmutual hbalanced hin hsource hes.1.2
  rw [Search.leadsBack, hd, hd']
  show leq (add (cost qs) e.weight) (cost ps) = true
  refine OrderedQuantity.leq_trans ?_ (hes.2 ps hps)
  rw [hg.cost_cons hes.1]
  exact OrderedQuantity.add_leq_add (hg.zero_leq_cost hqs)
    (OrderedQuantity.leq_of_less (hg e (mem_edges.mpr ⟨v, hes.1.1⟩)).2) hle

/-- **A search from the source tells whether its shortest paths are unambiguous.** -/
theorem Adjacency.unambiguous_of_search (hsourced : g.WellSourced)
    (h : (Search.shortestPaths g ids source).unambiguous g.edges = true) :
    g.Unambiguous source := by
  intro v e es e' es' hes hes'
  have hback := hes.leadsBack hg hmutual hbalanced hin hsource
  have hback' := hes'.leadsBack hg hmutual hbalanced hin hsource
  have hv : e.source = v := hsourced v e hes.1.1
  have hv' : e'.source = v := hsourced v e' hes'.1.1
  rw [Search.unambiguous, List.all_eq_true] at h
  have hpair := List.all_eq_true.mp (h e (mem_edges.mpr ⟨v, hes.1.1⟩)) e'
    (mem_edges.mpr ⟨v, hes'.1.1⟩)
  rw [hv, hv', hback, hback'] at hpair
  simpa using hpair

end Check

/-! ### A square -/

namespace Sample

/-- Four nodes without anything behind them. -/
def square : List Node := [node 1 [], node 2 [], node 3 [], node 4 []]

/-- Links around the square. Both ways from the first to the fourth node are as long. -/
def evenLinks : List (Link ℚ) :=
  Link.pair ⟨1⟩ ⟨2⟩ 20 100 ++ Link.pair ⟨2⟩ ⟨4⟩ 10 100 ++
    (Link.pair ⟨1⟩ ⟨3⟩ 10 100 ++ Link.pair ⟨3⟩ ⟨4⟩ 20 100)

/-- Links around the square. The way over the third node is the shorter one. -/
def unevenLinks : List (Link ℚ) :=
  Link.pair ⟨1⟩ ⟨2⟩ 20 100 ++ Link.pair ⟨2⟩ ⟨4⟩ 10 100 ++
    (Link.pair ⟨1⟩ ⟨3⟩ 10 100 ++ Link.pair ⟨3⟩ ⟨4⟩ 10 100)

/-- Whether edges have weights above zero, and the same ones both ways. -/
def evenlyWeighted (es : List (Edge ℚ)) : Bool :=
  es.all fun e => less (ofNat 0) e.weight && es.all fun e' =>
    !(e'.source == e.target && e'.target == e.source) || e'.weight == e.weight

/-- Whether packets for the fourth node go from the first one over the third. -/
def goesOverThird (plan : RoutingPlan ℚ) : Bool :=
  (plan.takers ⟨1⟩ (node 4 []).hostRoute).map PeerPlan.nodeId == [⟨3⟩] &&
    (plan.takers ⟨3⟩ (node 4 []).hostRoute).map PeerPlan.nodeId == [⟨4⟩]

theorem addressed_square : Addressed square := ⟨by decide, by decide, by decide⟩

variable (links : List (Link ℚ))

theorem weights_of_evenlyWeighted
    (h : evenlyWeighted (context.usableGraph square links).edges = true) :
    (context.usableGraph square links).Positive ∧ (context.usableGraph square links).Balanced := by
  have hsourced := (Candidates.shaped_usable (Candidates.shaped_build context square links)
    context.measured).1.sourced
  rw [evenlyWeighted, List.all_eq_true] at h
  simp only [Bool.and_eq_true, List.all_eq_true, Bool.or_eq_true, Bool.not_eq_true',
    Bool.and_eq_false_iff, beq_eq_false_iff_ne, beq_iff_eq] at h
  refine ⟨fun e he => ⟨rfl, (h e he).1⟩, fun u e he e' he' ht => ?_⟩
  rcases (h e (mem_edges.mpr ⟨u, he⟩)).2 e' (mem_edges.mpr ⟨e.target, he'⟩) with (hs | hs) | heq
  · exact absurd (hsourced e.target e' he') hs
  · exact absurd (ht.trans (hsourced u e he).symm) hs
  · exact heq

theorem delivers_of_goesOverThird
    (h : goesOverThird (RoutingPlan.compute context square links) = true) :
    RoutingPlan.Delivers (RoutingPlan.compute context square links) square (node 4 []).hostRoute
      (node 1 []) [node 3 [], node 4 []] := by
  have hstep : ∀ {v w : Node}, (node 4 []).hostRoute ∉ v.routedSubnets →
      ((RoutingPlan.compute context square links).takers v.id (node 4 []).hostRoute).map
        PeerPlan.nodeId = [w.id] →
      (RoutingPlan.compute context square links).HandsOver (node 4 []).hostRoute v w := by
    intro v w hlacks hmap
    obtain ⟨p, hp, hid⟩ := List.map_eq_singleton_iff.mp hmap
    exact ⟨hlacks, p, hp, hid⟩
  rw [goesOverThird, Bool.and_eq_true, beq_iff_eq, beq_iff_eq] at h
  refine ⟨.cons_cons (hstep (by decide) h.1) (.cons_cons (hstep (by decide) h.2) (.singleton _)),
    by simp [square], by decide, List.Nodup.of_map Node.id (by decide), by decide⟩

end Sample

namespace RoutingPlan

/-- Packets from the first to the fourth node go over the third, while those back go over the second.
So the fourth node refuses them. -/
theorem square_refuses :
    Addressed Sample.square ∧
      (Sample.context.usableGraph Sample.square Sample.evenLinks).Positive ∧
      (Sample.context.usableGraph Sample.square Sample.evenLinks).Balanced ∧
      Sample.node 1 [] ∈ Sample.square ∧ Sample.node 4 [] ∈ Sample.square ∧
      Delivers (compute Sample.context Sample.square Sample.evenLinks) Sample.square
        (Sample.node 4 []).hostRoute (Sample.node 1 []) [Sample.node 3 [], Sample.node 4 []] ∧
      ¬ (compute Sample.context Sample.square Sample.evenLinks).Accepts
        (Sample.node 1 []).hostRoute (Sample.node 3 []) (Sample.node 4 []) := by
  obtain ⟨hpos, hbalanced⟩ := Sample.weights_of_evenlyWeighted Sample.evenLinks (by cbv)
  have hplan : (fun plan : RoutingPlan ℚ => Sample.goesOverThird plan &&
      !(plan.peersFor ⟨4⟩).any fun p =>
        p.nodeId == ⟨3⟩ && decide ((Sample.node 1 []).hostRoute ∈ p.allowedIps))
      (compute Sample.context Sample.square Sample.evenLinks) = true := by cbv
  obtain ⟨hgoes, hrefuses⟩ := Bool.and_eq_true_iff.mp hplan
  refine ⟨Sample.addressed_square, hpos, hbalanced, by simp [Sample.square],
    by simp [Sample.square], Sample.delivers_of_goesOverThird Sample.evenLinks hgoes, ?_⟩
  rintro ⟨p, hp, hid, hmem⟩
  rw [Bool.not_eq_true', List.any_eq_false] at hrefuses
  refine hrefuses p hp (Bool.and_eq_true_iff.mpr ⟨beq_iff_eq.mpr hid, decide_eq_true hmem⟩)

/-- With one side shorter than the other the way back is the same. -/
theorem accepts_of_delivers_square :
    Addressed Sample.square ∧
      (Sample.context.usableGraph Sample.square Sample.unevenLinks).Positive ∧
      (Sample.context.usableGraph Sample.square Sample.unevenLinks).Balanced ∧
      Sample.node 1 [] ∈ Sample.square ∧ Sample.node 4 [] ∈ Sample.square ∧
      (Sample.context.usableGraph Sample.square Sample.unevenLinks).Unambiguous ⟨1⟩ ∧
      Delivers (compute Sample.context Sample.square Sample.unevenLinks) Sample.square
        (Sample.node 4 []).hostRoute (Sample.node 1 []) [Sample.node 3 [], Sample.node 4 []] ∧
      [Sample.node 1 [], Sample.node 3 [], Sample.node 4 []].IsChain
        ((compute Sample.context Sample.square Sample.unevenLinks).Accepts
          (Sample.node 1 []).hostRoute) := by
  obtain ⟨hpos, hbalanced⟩ :=
    Sample.weights_of_evenlyWeighted Sample.unevenLinks (by cbv)
  have hmem : Sample.node 1 [] ∈ Sample.square := by simp [Sample.square]
  have hmem' : Sample.node 4 [] ∈ Sample.square := by simp [Sample.square]
  have huniq : (Sample.context.usableGraph Sample.square Sample.unevenLinks).Unambiguous ⟨1⟩ := by
    refine unambiguous_of_search hpos (Sample.context.mutual_usableGraph _ _) hbalanced
      (Sample.context.leadsInto_usableGraph Sample.addressed_square.ids _)
      ((Sample.context.indexed_routeGraph Sample.addressed_square.ids _).mem_ids.mpr
        (List.mem_map_of_mem hmem))
      (Candidates.shaped_usable (Candidates.shaped_build _ _ _) _).1.sourced ?_
    cbv
  have hwalk := Sample.delivers_of_goesOverThird Sample.unevenLinks (by cbv)
  exact ⟨Sample.addressed_square, hpos, hbalanced, hmem, hmem', huniq, hwalk,
    accepts_of_delivers Sample.context Sample.unevenLinks Sample.addressed_square hpos hbalanced
      hmem hmem' huniq hwalk⟩

end RoutingPlan

end TunnelMesh
