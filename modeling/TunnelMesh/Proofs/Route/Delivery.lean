/-
Subnets are reached hop by hop.

A node without a subnet hands over to the one peer that takes it.  That peer is on a
shortest path to the nearest claimer, so that its own nearest claimer is nearer by at
least the weight of an edge: `Below` is what a whole walk keeps, whatever plans the
nodes on it made for themselves.  As weights are positive, no node is below itself, and
a walk visits none twice.

Numbers are exact here, because the cost of a path has to be the cost of its first edge
plus the cost of the rest.
-/
import TunnelMesh.Proofs.Route.Coverage

namespace TunnelMesh

open Quantity Adjacency Net

variable {α : Type} [Quantity α]

/-! ### Costs of exact weights -/

namespace Adjacency

/-- Edges with finite weights above zero only. -/
def Positive (g : Adjacency α) : Prop :=
  ∀ e ∈ g.edges, finite e.weight = true ∧ less (ofNat 0) e.weight = true

variable [ExactQuantity α] {g : Adjacency α}

theorem Positive.nonNegative (hg : g.Positive) : ∀ e ∈ g.edges, leq (ofNat 0) e.weight = true :=
  fun e he => OrderedQuantity.leq_of_less (hg e he).2

theorem Positive.finite_cost (hg : g.Positive) {u v : NodeId} {es : List (Edge α)}
    (h : g.IsPath u es v) : finite (cost es : α) = true := by
  induction es using List.reverseRecOn generalizing v with
  | nil => exact OrderedQuantity.finite_zero
  | append_singleton es e ih =>
      obtain ⟨w, hes, he, -⟩ := isPath_append.mp h
      rw [cost_concat]
      exact ExactQuantity.finite_add (ih hes) (hg e (mem_edges.mpr ⟨w, he⟩)).1

theorem Positive.finitePaths (hg : g.Positive) (u : NodeId) : g.FinitePaths u :=
  fun _ _ hes _ => hg.finite_cost hes

/-- The cost of a path is that of its first edge and the rest. -/
theorem Positive.cost_cons (hg : g.Positive) {u v : NodeId} {e : Edge α} {es : List (Edge α)}
    (h : g.IsPath u (e :: es) v) : cost (e :: es) = add (cost es) e.weight := by
  have hfe : finite e.weight = true := (hg e (mem_edges.mpr ⟨u, h.1⟩)).1
  induction es using List.reverseRecOn generalizing v with
  | nil => rfl
  | append_singleton es f ih =>
      obtain ⟨w, hes, hf, -⟩ := isPath_append.mp (show g.IsPath u ((e :: es) ++ [f]) v from h)
      have hff : finite f.weight = true := (hg f (mem_edges.mpr ⟨w, hf⟩)).1
      have hfes : finite (cost es : α) = true := hg.finite_cost hes.2
      calc cost (e :: (es ++ [f]))
          = add (cost (e :: es)) f.weight := cost_concat (e :: es) f
        _ = add (add (cost es) e.weight) f.weight := by rw [ih hes]
        _ = add (cost es) (add e.weight f.weight) := ExactQuantity.add_assoc hfes hfe hff
        _ = add (cost es) (add f.weight e.weight) := by rw [ExactQuantity.add_comm hfe hff]
        _ = add (add (cost es) f.weight) e.weight := (ExactQuantity.add_assoc hfes hff hfe).symm
        _ = add (cost (es ++ [f])) e.weight := by rw [cost_concat]

/-- Without its first edge a path is cheaper. -/
theorem Positive.cost_less_cons (hg : g.Positive) {u v : NodeId} {e : Edge α}
    {es : List (Edge α)} (h : g.IsPath u (e :: es) v) :
    less (cost es) (cost (e :: es)) = true := by
  rw [hg.cost_cons h]
  obtain ⟨hfe, hpos⟩ := hg e (mem_edges.mpr ⟨u, h.1⟩)
  exact ExactQuantity.less_add (hg.finite_cost h.2) hfe hpos

end Adjacency

theorem zero_leq_of_distance [ExactQuantity α] {usable : Adjacency α} (hpos : usable.Positive)
    {u v : NodeId} {d : α} (h : usable.IsDistance u v d) : leq (ofNat 0) d = true := by
  obtain ⟨es, hes, rfl⟩ := h.1
  exact hes.zero_leq_cost (nonNegative_of_edges hpos.nonNegative)

/-- The nearest claimer is no farther than any other. -/
theorem NearestClaimer.leq [ExactQuantity α] {usable : Adjacency α} (hpos : usable.Positive)
    {nodes : List Node} {source : Node} {n : Subnet} {t t' : Node} {d d' : α}
    (h : NearestClaimer usable nodes source n t d) (ht' : Claimer usable nodes source n t')
    (hd' : usable.IsDistance source.id t'.id d') : leq d d' = true := by
  rcases h.least t' d' ht' hd' with hlt | ⟨hnlt, -⟩
  · exact OrderedQuantity.leq_of_less hlt
  · exact OrderedQuantity.leq_of_not_less (zero_leq_of_distance hpos h.distance)
      (zero_leq_of_distance hpos hd') hnlt

namespace RoutingPlan

open RouteGraph

/-! ### Handing over -/

/-- The peers of a node that take a subnet. -/
def takers (plan : RoutingPlan α) (v : NodeId) (n : Subnet) : List PeerPlan :=
  (plan.peersFor v).filter fun p => decide (n ∈ p.allowedIps)

/-- A node without a subnet hands over to the only peer that takes it. -/
def HandsOver (plan : RoutingPlan α) (n : Subnet) (v w : Node) : Prop :=
  n ∉ v.routedSubnets ∧ ∃ p, plan.takers v.id n = [p] ∧ p.nodeId = w.id

/-- A walk from a node to one that has the subnet, each node handing over to the next. -/
structure Delivers (plan : RoutingPlan α) (nodes : List Node) (n : Subnet) (source : Node)
    (rest : List Node) : Prop where
  handsOver : (source :: rest).IsChain (plan.HandsOver n)
  subset : ∀ v ∈ rest, v ∈ nodes
  arrives : n ∈ ((source :: rest).getLast (List.cons_ne_nil _ _)).routedSubnets
  /-- No node is visited twice. -/
  nodup : (source :: rest).Nodup
  /-- There is one move less than there are nodes, at most. -/
  moves_le : rest.length ≤ nodes.length - 1

/-- A subnet with a holder has one taker. -/
theorem takers_eq (c : GraphContext α) {nodes : List Node} (links : List (Link α))
    (h : (nodes.map Node.id).Nodup) {n : Subnet} {v : Node} (hv : v ∈ nodes) {hop : NodeId}
    (hhop : (c.routeGraph nodes links).holder?
      ((c.routeGraph nodes links).searchFrom v.id) v n = some hop) :
    ∃ p, (compute c nodes links).takers v.id n = [p] ∧ p.nodeId = hop := by
  obtain ⟨p, hp, hid, hn⟩ := exists_mem_peersFor c links h hv hhop
  refine ⟨p, List.perm_singleton.mp ?_, hid⟩
  have hnodup : ((compute c nodes links).peersFor v.id).Nodup :=
    List.Nodup.of_map PeerPlan.nodeId (nodup_peersFor c links h v.id)
  refine (List.perm_ext_iff_of_nodup (hnodup.filter _) (List.nodup_singleton p)).mpr fun q => ?_
  rw [List.mem_filter, decide_eq_true_eq, List.mem_singleton]
  constructor
  · intro hx
    obtain ⟨hq, hnq⟩ := hx
    have hqhop := (mem_allowedIps_iff c links h hv hq n).mp hnq
    rw [hhop, Option.some.injEq] at hqhop
    exact List.inj_on_of_nodup_map (nodup_peersFor c links h v.id) hq hp (hqhop.symm.trans hid.symm)
  · rintro rfl
    exact ⟨hp, hn⟩

/-! ### One move -/

/-- A node without a subnet, at a distance from its nearest claimer. -/
structure Lacks (usable : Adjacency α) (nodes : List Node) (n : Subnet) (v : Node) (d : α) :
    Prop where
  mem : v ∈ nodes
  lacks : n ∉ v.routedSubnets
  nearest : ∃ t, NearestClaimer usable nodes v n t d

/-- A node that has a subnet, or whose nearest claimer is nearer than a distance. -/
def Below (usable : Adjacency α) (nodes : List Node) (n : Subnet) (d : α) (v : Node) : Prop :=
  n ∈ v.routedSubnets ∨ ∃ d', Lacks usable nodes n v d' ∧ less d' d = true

variable [ExactQuantity α]

/-- No node is below its own distance. -/
theorem Lacks.not_below {usable : Adjacency α} (hpos : usable.Positive) {nodes : List Node}
    {n : Subnet} {v : Node} {d : α} (h : Lacks usable nodes n v d) :
    ¬ Below usable nodes n d v := by
  intro hx
  rcases hx with hn | ⟨d', h', hlt⟩
  · exact h.lacks hn
  · obtain ⟨t, ht⟩ := h.nearest
    obtain ⟨t', ht'⟩ := h'.nearest
    have hnlt := OrderedQuantity.not_less_of_leq (ht.leq hpos ht'.claimer ht'.distance)
    rw [hlt] at hnlt
    exact absurd hnlt (by simp)

theorem Below.of_less {usable : Adjacency α} (hpos : usable.Positive) {nodes : List Node}
    {n : Subnet} {v : Node} {d d' : α} (h : Below usable nodes n d' v) (hlt : less d' d = true) :
    Below usable nodes n d v := by
  rcases h with hn | ⟨d₁, h₁, hlt₁⟩
  · exact Or.inl hn
  · obtain ⟨t, ht⟩ := h₁.nearest
    refine Or.inr ⟨d₁, h₁, ?_⟩
    exact OrderedQuantity.less_of_less_of_leq (zero_leq_of_distance hpos ht.distance) hlt₁
      (OrderedQuantity.leq_of_less hlt)

section Move

variable (c : GraphContext α) {nodes : List Node} (links : List (Link α))
  (h : (nodes.map Node.id).Nodup) (hpos : (c.usableGraph nodes links).Positive) {n : Subnet}

include h hpos

/-- A node that a claimer can be reached from has a nearest one. -/
theorem exists_nearest {v t : Node} (hv : v ∈ nodes) (hn : n ∉ v.routedSubnets)
    (ht : Claimer (c.usableGraph nodes links) nodes v n t) :
    ∃ hop d t', (c.routeGraph nodes links).holder?
        ((c.routeGraph nodes links).searchFrom v.id) v n = some hop ∧
      NearestClaimer (c.usableGraph nodes links) nodes v n t' d ∧
      ∃ e es, (c.usableGraph nodes links).IsPath v.id (e :: es) t'.id ∧
        cost (e :: es) = d ∧ e.target = hop := by
  have hg := c.indexed_routeGraph h links
  have hneg := nonNegative_of_edges hpos.nonNegative
  have hin := c.leadsInto_usableGraph h links
  obtain ⟨hop, hhop⟩ := (exists_holder?_iff_claimer hg hneg (hpos.finitePaths v.id) hin hv).mpr
    ⟨hn, t, ht⟩
  obtain ⟨t', d, hnear, -, hpath⟩ :=
    nearest_of_holder? hg hneg (hpos.finitePaths v.id) hin hv hhop
  exact ⟨hop, d, t', hhop, hnear, hpath⟩

theorem exists_distance {u v : NodeId} (hu : u ∈ nodes.map Node.id)
    (hreach : (c.usableGraph nodes links).Reaches u v) :
    ∃ d, (c.usableGraph nodes links).IsDistance u v d := by
  have hsrc : u ∈ (c.routeGraph nodes links).ids := (c.indexed_routeGraph h links).mem_ids.mpr hu
  have hneg := nonNegative_of_edges hpos.nonNegative
  have hin := c.leadsInto_usableGraph h links
  obtain ⟨d, hd⟩ := Map.mem_iff_exists_getElem?.mp
    ((Search.mem_dist_iff_reaches hneg (hpos.finitePaths u) hin hsrc).mpr hreach)
  exact ⟨d, Search.isDistance_of_dist hneg (hpos.finitePaths u) hin hsrc hd⟩

/-- The rest of a path to a claimer bounds the distance of the nearest one. -/
theorem below_of_isPath {w t : Node} (hw : w ∈ nodes) (ht : t ∈ nodes)
    (hn : n ∈ t.routedSubnets) {es : List (Edge α)}
    (hes : (c.usableGraph nodes links).IsPath w.id es t.id) {d : α}
    (hlt : less (cost es) d = true) : Below (c.usableGraph nodes links) nodes n d w := by
  by_cases hown : n ∈ w.routedSubnets
  · exact Or.inl hown
  · have hne : t.id ≠ w.id := by
      intro hid
      rw [List.inj_on_of_nodup_map h ht hw hid] at hn
      exact hown hn
    have hclaimer : Claimer (c.usableGraph nodes links) nodes w n t := ⟨ht, hne, ⟨es, hes⟩, hn⟩
    obtain ⟨-, d', t', -, hnear, -⟩ := exists_nearest c links h hpos hw hown hclaimer
    obtain ⟨d₁, hd₁⟩ := exists_distance c links h hpos (List.mem_map_of_mem hw) hclaimer.reached
    have hle : leq d' d₁ = true := hnear.leq hpos hclaimer hd₁
    refine Or.inr ⟨d', ⟨hw, hown, t', hnear⟩, ?_⟩
    exact OrderedQuantity.less_of_leq_of_less (zero_leq_of_distance hpos hnear.distance)
      (OrderedQuantity.leq_trans hle (hd₁.2 es hes)) hlt

/-- **A node without a subnet hands over to one that is below it.** -/
theorem exists_handsOver {v : Node} {d : α} (hv : Lacks (c.usableGraph nodes links) nodes n v d) :
    ∃ w ∈ nodes, (compute c nodes links).HandsOver n v w ∧
      Below (c.usableGraph nodes links) nodes n d w := by
  obtain ⟨t, ht⟩ := hv.nearest
  obtain ⟨hop, d', t', hhop, hnear, e, es, hpath, rfl, rfl⟩ :=
    exists_nearest c links h hpos hv.mem hv.lacks ht.claimer
  obtain ⟨p, htakers, hid⟩ := takers_eq c links h hv.mem hhop
  have hin := c.leadsInto_usableGraph h links v.id e hpath.1
  obtain ⟨w, hw, hwid⟩ := List.mem_map.mp ((c.indexed_routeGraph h links).mem_ids.mp hin)
  have hless : less (cost es) d = true :=
    OrderedQuantity.less_of_less_of_leq (hpath.2.zero_leq_cost (nonNegative_of_edges hpos.nonNegative))
      (hpos.cost_less_cons hpath) (hnear.leq hpos ht.claimer ht.distance)
  refine ⟨w, hw, ⟨hv.lacks, p, htakers, hid.trans hwid.symm⟩, ?_⟩
  exact below_of_isPath c links h hpos hw hnear.claimer.mem hnear.claimer.has
    (hwid ▸ hpath.2) hless

/-! ### Whole walks -/

/-- **Walks of any length stay below their starts, unless they have arrived.** -/
theorem exists_walk :
    ∀ (k : Nat) {v : Node} {d : α}, Lacks (c.usableGraph nodes links) nodes n v d →
      ∃ rest : List Node, (v :: rest).IsChain ((compute c nodes links).HandsOver n) ∧
        (∀ x ∈ rest, x ∈ nodes ∧ Below (c.usableGraph nodes links) nodes n d x) ∧
        (v :: rest).Nodup ∧
        (n ∈ ((v :: rest).getLast (List.cons_ne_nil _ _)).routedSubnets ∨ rest.length = k) := by
  intro k
  induction k with
  | zero =>
      intro v d _
      exact ⟨[], .singleton v, by simp, by simp, Or.inr rfl⟩
  | succ k ih =>
      intro v d hv
      obtain ⟨w, hw, hstep, hbelow⟩ := exists_handsOver c links h hpos hv
      rcases hbelow with hn | ⟨d', hlacks, hlt⟩
      · refine ⟨[w], .cons_cons hstep (.singleton w), ?_, ?_, Or.inl hn⟩
        · intro x hx
          rw [List.mem_singleton.mp hx]
          exact ⟨hw, Or.inl hn⟩
        · rw [List.nodup_cons, List.mem_singleton]
          refine ⟨?_, List.nodup_singleton w⟩
          rintro rfl
          exact hv.lacks hn
      · obtain ⟨rest, hchain, hall, hnodup, hlast⟩ := ih hlacks
        have hbelow : ∀ x ∈ w :: rest, x ∈ nodes ∧
            Below (c.usableGraph nodes links) nodes n d x := by
          intro x hx
          rcases List.mem_cons.mp hx with rfl | hx
          · exact ⟨hw, Or.inr ⟨d', hlacks, hlt⟩⟩
          · exact ⟨(hall x hx).1, (hall x hx).2.of_less hpos hlt⟩
        refine ⟨w :: rest, .cons_cons hstep hchain, hbelow, ?_, ?_⟩
        · exact List.nodup_cons.mpr ⟨fun hv' => hv.not_below hpos (hbelow v hv').2, hnodup⟩
        · refine hlast.imp id fun hlen => ?_
          rw [List.length_cons, hlen]

/-- **Every subnet that can be reached is delivered, without loops.** -/
theorem exists_delivers {source : Node} (hsource : source ∈ nodes)
    (hn : ∃ t ∈ nodes, n ∈ t.routedSubnets ∧
      (c.usableGraph nodes links).Reaches source.id t.id) :
    ∃ rest, Delivers (compute c nodes links) nodes n source rest := by
  by_cases hown : n ∈ source.routedSubnets
  · exact ⟨[], .singleton source, by simp, hown, by simp, Nat.zero_le _⟩
  · obtain ⟨t, ht, hnt, hreach⟩ := hn
    have hne : t.id ≠ source.id := by
      intro hid
      rw [List.inj_on_of_nodup_map h ht hsource hid] at hnt
      exact hown hnt
    obtain ⟨-, d, t', -, hnear, -⟩ :=
      exists_nearest c links h hpos hsource hown ⟨ht, hne, hreach, hnt⟩
    obtain ⟨rest, hchain, hall, hnodup, hlast⟩ :=
      exists_walk c links h hpos nodes.length ⟨hsource, hown, t', hnear⟩
    -- The nodes of the walk are distinct, so that it is too short not to have arrived.
    have hlen : (source :: rest).length ≤ nodes.length := by
      refine hnodup.length_le_of_subset fun x hx => ?_
      rcases List.mem_cons.mp hx with rfl | hx
      · exact hsource
      · exact (hall x hx).1
    rw [List.length_cons] at hlen
    refine ⟨rest, hchain, fun v hv => (hall v hv).1, hlast.resolve_right (by omega), hnodup,
      by omega⟩

end Move

theorem exists_delivers_row :
    (Sample.row.map Node.id).Nodup ∧
      (Sample.context.usableGraph Sample.row Sample.rowLinks).Positive ∧
      Sample.node 1 [] ∈ Sample.row ∧
      (∃ t ∈ Sample.row, Sample.shared ∈ t.routedSubnets ∧
        (Sample.context.usableGraph Sample.row Sample.rowLinks).Reaches (Sample.node 1 []).id t.id) ∧
      ∃ rest, Delivers (compute Sample.context Sample.row Sample.rowLinks) Sample.row Sample.shared
        (Sample.node 1 []) rest := by
  have hnodup : (Sample.row.map Node.id).Nodup := by decide
  have hpos : (Sample.context.usableGraph Sample.row Sample.rowLinks).Positive := by
    have hall : ((Sample.context.usableGraph Sample.row Sample.rowLinks).edges.all fun e =>
        finite e.weight && less (ofNat 0) e.weight) = true := by cbv
    intro e he
    exact Bool.and_eq_true_iff.mp (List.all_eq_true.mp hall e he)
  have hmem : Sample.node 1 [] ∈ Sample.row := List.mem_cons_self
  -- The second node is next to the first, and the third next to the second.
  have hreach : (Sample.context.usableGraph Sample.row Sample.rowLinks).Reaches
      (Sample.node 1 []).id ⟨3⟩ :=
    ((reaches_refl _ ⟨1⟩).of_any (v := ⟨2⟩) (by cbv)).of_any (by cbv)
  have hn : ∃ t ∈ Sample.row, Sample.shared ∈ t.routedSubnets ∧
      (Sample.context.usableGraph Sample.row Sample.rowLinks).Reaches
        (Sample.node 1 []).id t.id :=
    ⟨Sample.node 3 [Sample.shared], by simp [Sample.row], by decide, hreach⟩
  exact ⟨hnodup, hpos, hmem, hn,
    exists_delivers Sample.context Sample.rowLinks hnodup hpos hmem hn⟩

end RoutingPlan

end TunnelMesh
