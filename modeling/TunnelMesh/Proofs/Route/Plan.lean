/-
The lists of a plan.

A node's list starts with the entries assembled for it.  Then nodes that route over
it and have no entry there get one in return, without subnets.  `Listed` is what both
passes keep, and the lists of peers to keep warm have it as well: every node of the
graph has a list, without itself, and no node is listed twice.

`Completed` is what the second pass adds: it appends only, and afterwards every pair of
an owner and a peer with subnets has its entry on the other side.
-/
import TunnelMesh.Proofs.Route.Peers

namespace TunnelMesh

open Net

/-! ### The order of entries -/

namespace PeerPlan

/-- An entry is listed before another: by client, then by node. -/
def Precedes (a b : PeerPlan) : Prop :=
  a.clientId.value < b.clientId.value ∨
    a.clientId.value = b.clientId.value ∧ a.nodeId.value < b.nodeId.value

theorem order_iff (a b : PeerPlan) :
    order a b = true ↔ a.clientId.value < b.clientId.value ∨
      a.clientId.value = b.clientId.value ∧ a.nodeId.value ≤ b.nodeId.value := by
  simp only [order, Bool.or_eq_true, Bool.and_eq_true, beq_iff_eq, decide_eq_true_eq]

theorem order_trans (a b c : PeerPlan) (hab : order a b = true) (hbc : order b c = true) :
    order a c = true := by
  simp only [order_iff, UInt64.lt_iff_toNat_lt, UInt64.le_iff_toNat_le, ← UInt64.toNat_inj] at *
  omega

theorem order_total (a b : PeerPlan) : (order a b || order b a) = true := by
  simp only [Bool.or_eq_true, order_iff, UInt64.lt_iff_toNat_lt, UInt64.le_iff_toNat_le,
    ← UInt64.toNat_inj]
  omega

theorem Precedes.asymm {a b : PeerPlan} (h : Precedes a b) : ¬ Precedes b a := by
  simp only [Precedes, UInt64.lt_iff_toNat_lt, ← UInt64.toNat_inj] at *
  omega

/-- **Entries about distinct nodes are sorted strictly.** -/
theorem pairwise_mergeSort {l : List PeerPlan} (h : (l.map nodeId).Nodup) :
    (l.mergeSort order).Pairwise Precedes := by
  refine (Map.pairwise_mergeSort_of_nodup order_trans order_total h).imp fun {a b} hab => ?_
  rcases (order_iff a b).mp hab.1 with hlt | ⟨heq, hle⟩
  · exact Or.inl hlt
  · refine Or.inr ⟨heq, UInt64.lt_of_le_of_ne hle fun hval => hab.2 ?_⟩
    exact congrArg NodeId.mk hval

end PeerPlan

namespace PeerLists

theorem getD_map (peers : PeerLists) {f : List PeerPlan → List PeerPlan} (hf : f [] = [])
    (v : NodeId) : (peers.map fun _ l => f l).getD v [] = f (peers.getD v []) := by
  rw [Std.ExtTreeMap.getD_eq_getD_getElem?, Std.ExtTreeMap.getD_eq_getD_getElem?,
    Std.ExtTreeMap.getElem?_map]
  cases peers[v]? with
  | none => simp [hf]
  | some l => rfl

end PeerLists

namespace RouteGraph

/-! ### Lists over nodes -/

/-- Every node has a list of entries about other nodes, each at most once. -/
structure Listed (nodes : List Node) (peers : PeerLists) : Prop where
  mem_iff : ∀ v, v ∈ peers ↔ v ∈ nodes.map Node.id
  named : ∀ v, ∀ p ∈ peers.getD v [], ∃ n ∈ nodes, n.id = p.nodeId ∧ n.clientId = p.clientId
  others : ∀ v, ∀ p ∈ peers.getD v [], p.nodeId ≠ v
  once : ∀ v, ((peers.getD v []).map PeerPlan.nodeId).Nodup

variable {nodes : List Node} {peers start : PeerLists}

/-! ### Pairs with subnets -/

theorem mem_routedPairs {owner v : NodeId} :
    (owner, v) ∈ routedPairs peers ↔
      ∃ p ∈ peers.getD owner [], p.hasRoutes = true ∧ p.nodeId = v := by
  rw [routedPairs, List.mem_flatMap, Std.ExtTreeMap.getD_eq_getD_getElem?]
  constructor
  · intro hx
    obtain ⟨⟨o, l⟩, hol, hp⟩ := hx
    obtain ⟨p, hmem, heq⟩ := List.mem_map.mp hp
    obtain ⟨rfl, rfl⟩ := Prod.mk.inj heq
    obtain ⟨hpl, hr⟩ := List.mem_filter.mp hmem
    rw [Std.ExtTreeMap.mem_toList_iff_getElem?_eq_some.mp hol]
    exact ⟨p, hpl, hr, rfl⟩
  · intro hx
    obtain ⟨p, hp, hr, rfl⟩ := hx
    cases hl : peers[owner]? with
    | none => simp [hl] at hp
    | some l =>
        rw [hl] at hp
        exact ⟨(owner, l), Std.ExtTreeMap.mem_toList_iff_getElem?_eq_some.mpr hl,
          List.mem_map.mpr ⟨p, List.mem_filter.mpr ⟨hp, hr⟩, rfl⟩⟩

theorem Listed.pair_mem (h : Listed nodes peers) {pair : NodeId × NodeId}
    (hp : pair ∈ routedPairs peers) :
    pair.1 ∈ nodes.map Node.id ∧ pair.2 ∈ nodes.map Node.id ∧ pair.1 ≠ pair.2 := by
  obtain ⟨p, hp, -, hid⟩ := mem_routedPairs.mp hp
  refine ⟨?_, ?_, ?_⟩
  · rw [← h.mem_iff, Map.mem_iff_exists_getElem?]
    rw [Std.ExtTreeMap.getD_eq_getD_getElem?] at hp
    cases hl : peers[pair.1]? with
    | none => simp [hl] at hp
    | some l => exact ⟨l, rfl⟩
  · obtain ⟨n, hn, hnid, -⟩ := h.named _ p hp
    exact List.mem_map.mpr ⟨n, hn, hnid.trans hid⟩
  · intro heq
    exact h.others _ p hp (hid.trans heq.symm)

/-! ### Entries in return -/

section Reciprocal

variable {α : Type} {g : RouteGraph α} (raw : Adjacency α)
  (keepalive : Option UInt16)

/-- The entry that a node gets in return from its peer `v`. -/
def inReturn (v : NodeId) (owner : Node) : PeerPlan :=
  .empty owner (dialText raw v owner) keepalive

/-- A pair changes nothing if it has its entry, and else gets one at the end of the list. -/
theorem reciprocate_cases (hg : Indexed nodes g) (peers : PeerLists) {pair : NodeId × NodeId}
    (hp : pair.1 ∈ nodes.map Node.id) :
    (g.reciprocate raw keepalive peers pair = peers ∧
      ∃ p ∈ peers.getD pair.2 [], p.nodeId = pair.1) ∨
    ∃ owner ∈ nodes, owner.id = pair.1 ∧ (∀ p ∈ peers.getD pair.2 [], p.nodeId ≠ pair.1) ∧
      g.reciprocate raw keepalive peers pair =
        peers.insert pair.2 (peers.getD pair.2 [] ++ [inReturn raw keepalive pair.2 owner]) := by
  obtain ⟨owner, howner, hid⟩ := List.mem_map.mp hp
  have htable := (hg.lookup pair.1 owner).mpr ⟨howner, hid⟩
  by_cases hany : ((peers.getD pair.2 []).any fun p => p.nodeId == pair.1) = true
  · refine Or.inl ⟨?_, ?_⟩
    · simp only [reciprocate, htable, hany, if_true]
    · obtain ⟨p, hmem, hpid⟩ := List.any_eq_true.mp hany
      exact ⟨p, hmem, by simpa using hpid⟩
  · refine Or.inr ⟨owner, howner, hid, fun p hmem hpid => hany ?_, ?_⟩
    · exact List.any_eq_true.mpr ⟨p, hmem, by simpa using hpid⟩
    · simp only [reciprocate, htable, hany]
      rfl

/-- What the lists are after some pairs, in terms of those that the pass starts from. -/
structure Completed (nodes : List Node) (start : PeerLists) (pairs : List (NodeId × NodeId))
    (peers : PeerLists) : Prop where
  listed : Listed nodes peers
  kept : ∀ v, ∀ p ∈ start.getD v [], p ∈ peers.getD v []
  /-- An added entry has no subnets. -/
  added : ∀ v, ∀ p ∈ peers.getD v [], p ∈ start.getD v [] ∨ p.allowedIps = []
  answered : ∀ pair ∈ pairs, ∃ p ∈ peers.getD pair.2 [], p.nodeId = pair.1

/-- One more entry about a node that the list does not have. -/
theorem Listed.append (h : Listed nodes peers) {v : NodeId} {p : PeerPlan}
    (hv : v ∈ nodes.map Node.id) (hne : p.nodeId ≠ v)
    (hn : ∃ n ∈ nodes, n.id = p.nodeId ∧ n.clientId = p.clientId)
    (hnew : ∀ q ∈ peers.getD v [], q.nodeId ≠ p.nodeId) :
    Listed nodes (peers.insert v (peers.getD v [] ++ [p])) := by
  refine ⟨fun w => ?_, fun w q hq => ?_, fun w q hq => ?_, fun w => ?_⟩
  · rw [Std.ExtTreeMap.mem_insert, Std.LawfulEqCmp.compare_eq_iff_eq, h.mem_iff]
    constructor
    · intro hx
      rcases hx with rfl | hw
      · exact hv
      · exact hw
    · exact Or.inr
  · rw [Map.getD_insert] at hq
    split at hq
    · rcases List.mem_append.mp hq with hq | hq
      · exact h.named v q hq
      · exact List.mem_singleton.mp hq ▸ hn
    · exact h.named w q hq
  · rw [Map.getD_insert] at hq
    split at hq
    · rename_i hw
      rw [← hw]
      rcases List.mem_append.mp hq with hq | hq
      · exact h.others v q hq
      · exact List.mem_singleton.mp hq ▸ hne
    · exact h.others w q hq
  · rw [Map.getD_insert]
    split
    · rw [List.map_append, List.map_singleton, List.nodup_append]
      refine ⟨h.once v, by simp, fun x hx y hy hxy => ?_⟩
      obtain ⟨q, hq, rfl⟩ := List.mem_map.mp hx
      exact hnew q hq (hxy.trans (List.mem_singleton.mp hy))
    · exact h.once w

theorem mem_getD_insert_append {peers : PeerLists} {v w : NodeId} {p q : PeerPlan} :
    q ∈ (peers.insert v (peers.getD v [] ++ [p])).getD w [] ↔
      q ∈ peers.getD w [] ∨ w = v ∧ q = p := by
  rw [Map.getD_insert]
  by_cases hw : v = w
  · rw [if_pos hw, ← hw, List.mem_append, List.mem_singleton]
    simp
  · rw [if_neg hw]
    constructor
    · exact Or.inl
    · intro hx
      rcases hx with hq | ⟨rfl, -⟩
      · exact hq
      · exact absurd rfl hw

/-- **One pair keeps the lists in shape, adds to them only, and has its entry then.** -/
theorem Completed.reciprocate {pairs : List (NodeId × NodeId)} (h : Completed nodes start pairs peers)
    (hg : Indexed nodes g) (hstart : Listed nodes start) {pair : NodeId × NodeId}
    (hpair : pair ∈ routedPairs start) :
    Completed nodes start (pairs ++ [pair]) (g.reciprocate raw keepalive peers pair) := by
  obtain ⟨hp1, hp2, hne⟩ := hstart.pair_mem hpair
  rcases reciprocate_cases raw keepalive hg peers hp1 with
    ⟨heq, hex⟩ | ⟨owner, howner, hid, hnew, heq⟩
  · rw [heq]
    refine ⟨h.listed, h.kept, h.added, fun q hq => ?_⟩
    rcases List.mem_append.mp hq with hq | hq
    · exact h.answered q hq
    · rw [List.mem_singleton.mp hq]
      exact hex
  · have hentry : (inReturn raw keepalive pair.2 owner).nodeId = pair.1 := hid
    rw [heq]
    refine ⟨h.listed.append hp2 (hentry ▸ hne) ⟨owner, howner, rfl, rfl⟩ (hentry ▸ hnew),
      fun v p hp => mem_getD_insert_append.mpr (Or.inl (h.kept v p hp)), fun v p hp => ?_,
      fun q hq => ?_⟩
    · rcases mem_getD_insert_append.mp hp with hp | ⟨rfl, rfl⟩
      · exact h.added v p hp
      · exact Or.inr rfl
    · rcases List.mem_append.mp hq with hq | hq
      · obtain ⟨p, hp, hpid⟩ := h.answered q hq
        exact ⟨p, mem_getD_insert_append.mpr (Or.inl hp), hpid⟩
      · rw [List.mem_singleton.mp hq]
        exact ⟨_, mem_getD_insert_append.mpr (Or.inr ⟨rfl, rfl⟩), hentry⟩

theorem Completed.foldl (hg : Indexed nodes g) (hstart : Listed nodes start) :
    ∀ (rest done : List (NodeId × NodeId)) {peers : PeerLists},
      (∀ pair ∈ rest, pair ∈ routedPairs start) → Completed nodes start done peers →
      Completed nodes start (done ++ rest) (rest.foldl (g.reciprocate raw keepalive) peers) := by
  intro rest
  induction rest with
  | nil => intro done peers _ h; rwa [List.append_nil]
  | cons pair rest ih =>
      intro done peers hrest h
      rw [List.append_cons]
      exact ih (done ++ [pair]) (fun q hq => hrest q (by simp [hq]))
        (h.reciprocate raw keepalive hg hstart (hrest pair (by simp)))

/-- **After the pass every pair has its entry in return.** -/
theorem completed_enforceSymmetry (hg : Indexed nodes g) (hstart : Listed nodes start) :
    Completed nodes start (routedPairs start) (g.enforceSymmetry raw keepalive start) :=
  Completed.foldl raw keepalive hg hstart (routedPairs start) [] (fun _ hp => hp)
    ⟨hstart, fun _ _ hp => hp, fun _ _ hp => Or.inl hp, by simp⟩

end Reciprocal

/-! ### Peers to keep warm -/

section Warm

variable {α : Type} {g : RouteGraph α} {raw : Adjacency α}

/-- Makes the ends of an edge neighbours of each other. -/
def meet (t : Std.ExtTreeMap NodeId (Std.ExtTreeSet NodeId)) (e : Edge α) :
    Std.ExtTreeMap NodeId (Std.ExtTreeSet NodeId) :=
  let t := t.insert e.source ((t.getD e.source ∅).insert e.target)
  t.insert e.target ((t.getD e.target ∅).insert e.source)

/-- Whether an edge joins two nodes, in either direction. -/
def Joins (e : Edge α) (v w : NodeId) : Prop :=
  e.source = v ∧ e.target = w ∨ e.target = v ∧ e.source = w

theorem mem_getD_foldl_meet (es : List (Edge α))
    (t : Std.ExtTreeMap NodeId (Std.ExtTreeSet NodeId)) (v w : NodeId) :
    w ∈ (es.foldl meet t).getD v ∅ ↔ w ∈ t.getD v ∅ ∨ ∃ e ∈ es, Joins e v w := by
  induction es generalizing t with
  | nil => simp
  | cons e es ih =>
      rw [List.foldl_cons, ih, meet, Map.mem_getD_insert, Map.mem_getD_insert, List.exists_mem_cons_iff,
        or_assoc, or_assoc, Joins, or_assoc]

theorem mem_foldl_meet (es : List (Edge α)) (t : Std.ExtTreeMap NodeId (Std.ExtTreeSet NodeId))
    (v : NodeId) :
    v ∈ es.foldl meet t ↔ v ∈ t ∨ ∃ e ∈ es, e.source = v ∨ e.target = v := by
  induction es generalizing t with
  | nil => simp
  | cons e es ih =>
      rw [List.foldl_cons, ih, meet, Std.ExtTreeMap.mem_insert, Std.ExtTreeMap.mem_insert,
        Std.LawfulEqCmp.compare_eq_iff_eq, Std.LawfulEqCmp.compare_eq_iff_eq, List.exists_mem_cons_iff]
      constructor
      · intro hx
        rcases hx with (h | h | h) | h
        · exact Or.inr (Or.inl (Or.inr h))
        · exact Or.inr (Or.inl (Or.inl h))
        · exact Or.inl h
        · exact Or.inr (Or.inr h)
      · intro hx
        rcases hx with h | (h | h) | h
        · exact Or.inl (Or.inr (Or.inr h))
        · exact Or.inl (Or.inr (Or.inl h))
        · exact Or.inl (Or.inl h)
        · exact Or.inr h

/-- **Neighbours are the nodes that an edge joins.** -/
theorem mem_neighbours (g : RouteGraph α) (raw : Adjacency α) (v w : NodeId) :
    w ∈ (g.neighbours raw).getD v ∅ ↔ ∃ e ∈ raw.edges, Joins e v w := by
  have hstart : w ∉ (g.table.map fun _ _ => (∅ : Std.ExtTreeSet NodeId)).getD v ∅ := by
    rw [Std.ExtTreeMap.getD_eq_getD_getElem?, Std.ExtTreeMap.getElem?_map]
    cases g.table[v]? <;> simp
  exact (mem_getD_foldl_meet raw.edges _ v w).trans (or_iff_right hstart)

theorem Joins.ends {ids : List NodeId} (hraw : Candidates.Shaped ids raw) {e : Edge α}
    (he : e ∈ raw.edges) {v w : NodeId} (h : Joins e v w) : v ∈ ids ∧ w ∈ ids ∧ w ≠ v := by
  obtain ⟨u, hu⟩ := Adjacency.mem_edges.mp he
  have hsource : e.source = u := hraw.sourced u e hu
  have hu' : u ∈ ids := (hraw.mem_iff u).mp (Adjacency.mem_of_mem_out hu)
  obtain ⟨hne, ht⟩ := hraw.ends u e hu
  rcases h with ⟨h1, h2⟩ | ⟨h1, h2⟩
  · exact ⟨h1 ▸ hsource ▸ hu', h2 ▸ ht, fun hc => hne (by rw [h2, hc, ← h1, hsource])⟩
  · exact ⟨h1 ▸ ht, h2 ▸ hsource ▸ hu', fun hc => hne (by rw [h1, ← hc, ← h2, hsource])⟩

theorem mem_keys_neighbours (hg : Indexed nodes g)
    (hraw : Candidates.Shaped (nodes.map Node.id) raw) {v : NodeId} :
    v ∈ g.neighbours raw ↔ v ∈ nodes.map Node.id := by
  refine (mem_foldl_meet raw.edges _ v).trans ?_
  rw [Std.ExtTreeMap.mem_map, hg.mem_table]
  refine or_iff_left_of_imp ?_
  intro hx
  rcases hx with ⟨e, he, hv | hv⟩
  · exact (Joins.ends hraw he (Or.inl ⟨hv, rfl⟩)).1
  · exact (Joins.ends hraw he (Or.inr ⟨hv, rfl⟩)).1

/-- The entries about the neighbours of a node. -/
def warmList (g : RouteGraph α) (raw : Adjacency α) (keepalive : Option UInt16) (v : NodeId) :
    List PeerPlan :=
  (((g.neighbours raw).getD v ∅).toList.filterMap fun n => g.table[n]?).map fun n =>
    PeerPlan.empty n (dialText raw v n) keepalive

theorem getD_warmPeers (g : RouteGraph α) (raw : Adjacency α) (keepalive : Option UInt16)
    (v : NodeId) :
    (g.warmPeers raw keepalive).getD v [] = (g.warmList raw keepalive v).mergeSort PeerPlan.order := by
  rw [warmPeers, warmList, Std.ExtTreeMap.getD_eq_getD_getElem?, Std.ExtTreeMap.getElem?_map,
    Std.ExtTreeMap.getD_eq_getD_getElem?]
  cases (g.neighbours raw)[v]? with
  | none =>
      have hempty : (∅ : Std.ExtTreeSet NodeId).toList = [] := rfl
      rw [Option.map_none, Option.getD_none, Option.getD_none, hempty]
      exact List.mergeSort_nil.symm
  | some set => rfl

theorem mem_warmList (hg : Indexed nodes g) {keepalive : Option UInt16} {v : NodeId}
    {p : PeerPlan} :
    p ∈ g.warmList raw keepalive v ↔
      ∃ n ∈ nodes, n.id ∈ (g.neighbours raw).getD v ∅ ∧
        PeerPlan.empty n (dialText raw v n) keepalive = p := by
  rw [warmList, List.mem_map]
  constructor
  · intro hx
    obtain ⟨n, hn, rfl⟩ := hx
    obtain ⟨w, hw, hlookup⟩ := List.mem_filterMap.mp hn
    obtain ⟨hnode, rfl⟩ := (hg.lookup w n).mp hlookup
    exact ⟨n, hnode, Std.ExtTreeSet.mem_toList.mp hw, rfl⟩
  · intro hx
    obtain ⟨n, hnode, hn, rfl⟩ := hx
    exact ⟨n, List.mem_filterMap.mpr
      ⟨n.id, Std.ExtTreeSet.mem_toList.mpr hn, (hg.lookup n.id n).mpr ⟨hnode, rfl⟩⟩, rfl⟩

theorem nodup_warmList (hg : Indexed nodes g) (keepalive : Option UInt16) (v : NodeId) :
    ((g.warmList raw keepalive v).map PeerPlan.nodeId).Nodup := by
  rw [warmList, List.map_map, List.Nodup, List.pairwise_map, List.pairwise_filterMap]
  refine Std.ExtTreeSet.ordered_toList.imp fun {a b} hab x hx y hy heq => ?_
  have hself : compare b b = .eq := Std.ReflCmp.compare_self
  have hxy : x.id = y.id := heq
  rw [← ((hg.lookup a x).mp hx).2, hxy, ((hg.lookup b y).mp hy).2, hself] at hab
  exact absurd hab (by simp)

end Warm

/-! ### Assembled lists -/

section Lists

variable {α : Type} [Quantity α] {g : RouteGraph α}

/-- The lists that the nodes of a graph start with. -/
def assembledLists (g : RouteGraph α) (keepalive : Option UInt16) : PeerLists :=
  g.table.map fun _ n => (g.assemble keepalive n).1

theorem getD_assembledLists (hg : Indexed nodes g) (keepalive : Option UInt16) {source : Node}
    (hsource : source ∈ nodes) :
    (g.assembledLists keepalive).getD source.id [] = (g.assemble keepalive source).1 := by
  rw [assembledLists, Std.ExtTreeMap.getD_map, (hg.lookup source.id source).mpr ⟨hsource, rfl⟩]
  rfl

theorem assembledLists_cases (hg : Indexed nodes g) (keepalive : Option UInt16) (v : NodeId) :
    (g.assembledLists keepalive).getD v [] = [] ∨
      ∃ source ∈ nodes, source.id = v ∧
        (g.assembledLists keepalive).getD v [] = (g.assemble keepalive source).1 := by
  cases hv : g.table[v]? with
  | none =>
      refine Or.inl ?_
      rw [assembledLists, Std.ExtTreeMap.getD_map, hv]
      rfl
  | some source =>
      obtain ⟨hsource, hid⟩ := (hg.lookup v source).mp hv
      refine Or.inr ⟨source, hsource, hid, ?_⟩
      rw [← hid]
      exact getD_assembledLists hg keepalive hsource

/-- An entry of the lists was assembled for its node. -/
theorem assembled_of_mem_lists (hg : Indexed nodes g) {keepalive : Option UInt16} {v : NodeId}
    {p : PeerPlan} (hp : p ∈ (g.assembledLists keepalive).getD v []) :
    ∃ source ∈ nodes, source.id = v ∧ Assembled nodes g source p := by
  rcases assembledLists_cases hg keepalive v with hnil | ⟨source, hsource, hid, heq⟩
  · simp [hnil] at hp
  · exact ⟨source, hsource, hid, assembled_of_mem hg (heq ▸ hp)⟩

theorem listed_assembledLists (hg : Indexed nodes g) (keepalive : Option UInt16) :
    Listed nodes (g.assembledLists keepalive) := by
  refine ⟨fun v => Std.ExtTreeMap.mem_map.trans hg.mem_table, fun v p hp => ?_,
    fun v p hp => ?_, fun v => ?_⟩
  · obtain ⟨source, -, -, hassembled⟩ := assembled_of_mem_lists hg hp
    exact hassembled.named
  · obtain ⟨source, -, hid, hassembled⟩ := assembled_of_mem_lists hg hp
    exact hid ▸ hassembled.ne_source
  · rcases assembledLists_cases hg keepalive v with hnil | ⟨source, -, -, heq⟩
    · simp [hnil]
    · rw [heq]
      exact nodup_assemble hg keepalive source

end Lists

end RouteGraph

/-! ### Plans -/

namespace GraphContext

variable {α : Type} [Quantity α]

/-- The edges that a plan may use. -/
def usableGraph (c : GraphContext α) (nodes : List Node) (links : List (Link α)) : Adjacency α :=
  Candidates.usable c.measured (Candidates.build c nodes links)

/-- The nodes of a plan with the edges that it may use. -/
def routeGraph (c : GraphContext α) (nodes : List Node) (links : List (Link α)) : RouteGraph α :=
  .of nodes (c.usableGraph nodes links)

theorem indexed_routeGraph (c : GraphContext α) {nodes : List Node}
    (h : (nodes.map Node.id).Nodup) (links : List (Link α)) :
    RouteGraph.Indexed nodes (c.routeGraph nodes links) :=
  RouteGraph.indexed_of h (c.usableGraph nodes links)

end GraphContext

namespace RoutingPlan

open RouteGraph

variable {α : Type} [Quantity α] (c : GraphContext α) {nodes : List Node} (links : List (Link α))

/-- The lists are the assembled ones with the entries in return, sorted. -/
theorem peers_compute (nodes : List Node) :
    (compute c nodes links).peers =
      ((c.routeGraph nodes links).enforceSymmetry (Candidates.build c nodes links)
        c.policy.keepalive ((c.routeGraph nodes links).assembledLists c.policy.keepalive)).map
        fun _ l => l.mergeSort PeerPlan.order := by
  rw [assembledLists, ← Std.ExtTreeMap.map_map (f := fun _ n => _)]
  rfl

theorem completed_compute (h : (nodes.map Node.id).Nodup) :
    ∃ peers : PeerLists,
      Completed nodes ((c.routeGraph nodes links).assembledLists c.policy.keepalive)
        (routedPairs ((c.routeGraph nodes links).assembledLists c.policy.keepalive)) peers ∧
      (compute c nodes links).peers = peers.map fun _ l => l.mergeSort PeerPlan.order := by
  have hg := c.indexed_routeGraph h links
  exact ⟨_, completed_enforceSymmetry (Candidates.build c nodes links) c.policy.keepalive hg
    (listed_assembledLists hg c.policy.keepalive), peers_compute c links nodes⟩

theorem peersFor_compute (h : (nodes.map Node.id).Nodup) :
    ∃ peers : PeerLists,
      Completed nodes ((c.routeGraph nodes links).assembledLists c.policy.keepalive)
        (routedPairs ((c.routeGraph nodes links).assembledLists c.policy.keepalive)) peers ∧
      ∀ v, (compute c nodes links).peersFor v = (peers.getD v []).mergeSort PeerPlan.order := by
  obtain ⟨peers, hpeers, heq⟩ := completed_compute c links h
  refine ⟨peers, hpeers, fun v => ?_⟩
  rw [peersFor, heq]
  exact PeerLists.getD_map peers List.mergeSort_nil v

theorem nodup_peersFor (h : (nodes.map Node.id).Nodup) (v : NodeId) :
    (((compute c nodes links).peersFor v).map PeerPlan.nodeId).Nodup := by
  obtain ⟨peers, hpeers, heq⟩ := peersFor_compute c links h
  rw [heq]
  exact ((List.mergeSort_perm _ _).map _).nodup_iff.mpr (hpeers.listed.once v)

theorem pairwise_peersFor (h : (nodes.map Node.id).Nodup) (v : NodeId) :
    ((compute c nodes links).peersFor v).Pairwise PeerPlan.Precedes := by
  obtain ⟨peers, hpeers, heq⟩ := peersFor_compute c links h
  rw [heq]
  exact PeerPlan.pairwise_mergeSort (hpeers.listed.once v)

/-- An entry is assembled for its node, or has no subnets. -/
theorem assembled_or_empty (h : (nodes.map Node.id).Nodup) {source : Node}
    (hsource : source ∈ nodes) {p : PeerPlan} (hp : p ∈ (compute c nodes links).peersFor source.id) :
    Assembled nodes (c.routeGraph nodes links) source p ∨ p.allowedIps = [] := by
  have hg := c.indexed_routeGraph h links
  obtain ⟨peers, hpeers, heq⟩ := peersFor_compute c links h
  rw [heq, List.mem_mergeSort] at hp
  refine (hpeers.added source.id p hp).imp_left fun hstart => ?_
  rw [getD_assembledLists hg _ hsource] at hstart
  exact assembled_of_mem hg hstart

/-- **Every holder is a peer, with subnets.** -/
theorem exists_mem_peersFor (h : (nodes.map Node.id).Nodup) {source : Node}
    (hsource : source ∈ nodes) {n : Subnet} {hop : NodeId}
    (hn : (c.routeGraph nodes links).holder?
      ((c.routeGraph nodes links).searchFrom source.id) source n = some hop) :
    ∃ p ∈ (compute c nodes links).peersFor source.id, p.nodeId = hop ∧ n ∈ p.allowedIps := by
  have hg := c.indexed_routeGraph h links
  obtain ⟨peers, hpeers, heq⟩ := peersFor_compute c links h
  obtain ⟨p, hp, hid⟩ := exists_mem_assemble hg c.policy.keepalive hn
  refine ⟨p, ?_, hid, ((assembled_of_mem hg hp).mem_iff n).mpr (hid ▸ hn)⟩
  rw [heq, List.mem_mergeSort]
  exact hpeers.kept source.id p ((getD_assembledLists hg _ hsource).symm ▸ hp)

/-- **A peer has the subnets that it holds.** -/
theorem mem_allowedIps_iff (h : (nodes.map Node.id).Nodup) {source : Node}
    (hsource : source ∈ nodes) {p : PeerPlan} (hp : p ∈ (compute c nodes links).peersFor source.id)
    (n : Subnet) :
    n ∈ p.allowedIps ↔ (c.routeGraph nodes links).holder?
      ((c.routeGraph nodes links).searchFrom source.id) source n = some p.nodeId := by
  rcases assembled_or_empty c links h hsource hp with hassembled | hempty
  · exact hassembled.mem_iff n
  · -- A holder has an entry with subnets, and there is no second entry about it.
    rw [hempty]
    refine iff_of_false (by simp) fun hn => ?_
    obtain ⟨q, hq, hid, hmem⟩ := exists_mem_peersFor c links h hsource hn
    have hqp : q = p :=
      List.inj_on_of_nodup_map (nodup_peersFor c links h source.id) hq hp hid
    rw [hqp, hempty] at hmem
    exact absurd hmem (by simp)

end RoutingPlan

/-! ### A small mesh -/

namespace Sample

/-- A node that can be reached, at an address that its number gives. -/
def node (n : Nat) (routes : List Subnet) : Node :=
  { Node.new ⟨UInt64.ofNat n⟩ ⟨⟨List.replicate 32 (UInt8.ofNat n), by simp⟩⟩
      (.host (.v4 ⟨BitVec.ofNat 32 n⟩)) with
    endpoints := [⟨"h", 1, none⟩]
    routes := routes }

/-- A subnet that two of the nodes have. -/
def shared : Subnet := ⟨.v4 ⟨0x0a000000#32⟩, 8, by decide⟩

/-- Four nodes in a row, the last two with one subnet behind both. -/
def row : List Node := [node 1 [], node 2 [], node 3 [shared], node 4 [shared]]

/-- Links between neighbours in the row. -/
def rowLinks : List (Link ℚ) :=
  Link.pair ⟨1⟩ ⟨2⟩ 10 100 ++ Link.pair ⟨2⟩ ⟨3⟩ 10 100 ++ Link.pair ⟨3⟩ ⟨4⟩ 10 100

/-- The usual costs for nodes that are always there. -/
def context : GraphContext ℚ :=
  ⟨Policy.standard.withoutLiveness, ⟨[]⟩, Measurements.empty, ⟨0, 0⟩⟩

end Sample

end TunnelMesh
