/-
Who gets a subnet.

The destinations of a source offer their subnets to their first hops one after the
other, and a claim takes what nobody has.  So a subnet goes to the first hop of the
first offer of it, unless the source has it itself: `holder?` says that without a
table.  Destinations come by distance, then by id, so that the first offer is that
of the nearest claimer, the one with the least id among equals.
-/
import TunnelMesh.Proofs.Route.Shortest
import TunnelMesh.Route.Plan

namespace TunnelMesh.RouteGraph

open Quantity Net

variable {α : Type}

/-! ### Nodes of a graph -/

/-- A graph holds the nodes of a list, each under its id. -/
structure Indexed (nodes : List Node) (g : RouteGraph α) : Prop where
  lookup : ∀ v n, g.table[v]? = some n ↔ n ∈ nodes ∧ n.id = v
  nodes_eq : g.nodes = g.table.values

theorem indexed_of [Quantity α] {nodes : List Node} (h : (nodes.map Node.id).Nodup)
    (usable : Adjacency α) : Indexed nodes (of nodes usable) := by
  refine ⟨fun v n => ?_, rfl⟩
  rw [of, Map.getElem?_foldl_insertIfNew, Std.ExtTreeMap.getElem?_empty, Option.none_or]
  constructor
  · intro hv
    exact ⟨List.mem_of_find?_eq_some hv, by simpa using List.find?_some hv⟩
  · intro hx
    obtain ⟨hn, rfl⟩ := hx
    exact Map.find?_eq_some_of_nodup h hn

namespace Indexed

variable {nodes : List Node} {g : RouteGraph α}

theorem mem_nodes (h : Indexed nodes g) {n : Node} : n ∈ g.nodes ↔ n ∈ nodes := by
  rw [h.nodes_eq, Map.mem_values]
  constructor
  · intro hx
    obtain ⟨v, hv⟩ := hx
    exact ((h.lookup v n).mp hv).1
  · intro hn
    exact ⟨n.id, (h.lookup _ n).mpr ⟨hn, rfl⟩⟩

theorem eq_of_id (h : Indexed nodes g) {n m : Node} (hn : n ∈ nodes) (hm : m ∈ nodes)
    (hid : n.id = m.id) : n = m :=
  Option.some.inj (((h.lookup m.id n).mpr ⟨hn, hid⟩).symm.trans ((h.lookup m.id m).mpr ⟨hm, rfl⟩))

theorem mem_ids (h : Indexed nodes g) {v : NodeId} : v ∈ g.ids ↔ v ∈ nodes.map Node.id := by
  simp only [ids, List.mem_map, h.mem_nodes]

theorem mem_table (h : Indexed nodes g) {v : NodeId} : v ∈ g.table ↔ v ∈ nodes.map Node.id := by
  rw [Map.mem_iff_exists_getElem?, List.mem_map]
  exact exists_congr fun n => h.lookup v n

/-- The table tells which nodes there are, and not how they were listed. -/
theorem table_eq {nodes' : List Node} {g' : RouteGraph α} (h : Indexed nodes g)
    (h' : Indexed nodes' g') (hmem : ∀ n, n ∈ nodes ↔ n ∈ nodes') : g.table = g'.table := by
  refine Std.ExtTreeMap.ext_getElem? fun v => Option.ext fun n => ?_
  rw [h.lookup, h'.lookup, hmem]

end Indexed

/-! ### Claims -/

/-- What a destination offers to its first hop. -/
def offersOf (s : Search α) (source : NodeId) (dest : Node) : List (NodeId × Subnet) :=
  match s.firstHop source dest.id with
  | none => []
  | some hop => dest.routedSubnets.map fun n => (hop, n)

/-- All offers to the first hops of a source, in their order. -/
def offers [Quantity α] (g : RouteGraph α) (s : Search α) (source : NodeId) :
    List (NodeId × Subnet) :=
  (g.destinations s source).flatMap (offersOf s source)

/-- The first hop that gets a subnet: that of the first offer, unless the source has the subnet. -/
def holder? [Quantity α] (g : RouteGraph α) (s : Search α) (source : Node) (n : Subnet) :
    Option NodeId :=
  if n ∈ source.routedSubnets then none
  else ((g.offers s source.id).find? fun o => o.2 == n).map (·.1)

theorem find?_offersOf (s : Search α) (source : NodeId) (n : Subnet) (dest : Node) :
    (offersOf s source dest).find? (fun o => o.2 == n) =
      if n ∈ dest.routedSubnets then (s.firstHop source dest.id).map fun h => (h, n) else none := by
  rw [offersOf]
  cases s.firstHop source dest.id with
  | none => simp
  | some hop =>
      show (dest.routedSubnets.map fun m => (hop, m)).find? _ = _
      rw [List.find?_map]
      cases hfind : dest.routedSubnets.find? fun m => m == n with
      | none =>
          have hn : n ∉ dest.routedSubnets := fun hc => by
            simpa using List.find?_eq_none.mp hfind n hc
          rw [if_neg hn]
          exact congrArg (Option.map _) hfind
      | some m =>
          have hm : m = n := by simpa using List.find?_some hfind
          subst hm
          rw [if_pos (List.mem_of_find?_eq_some hfind)]
          exact congrArg (Option.map _) hfind

namespace Claims

/-- A claim for an offer. -/
def take (c : Claims) (o : NodeId × Subnet) : Claims := c.claim o.1 o.2

theorem visit_eq (s : Search α) (source : NodeId) (c : Claims) (dest : Node) :
    c.visit s source dest = (offersOf s source dest).foldl take c := by
  rw [visit, offersOf]
  cases s.firstHop source dest.id with
  | none => rfl
  | some hop => simp only [List.foldl_map, take]

theorem mem_taken_take (c : Claims) (o : NodeId × Subnet) (n : Subnet) :
    n ∈ (c.take o).taken ↔ o.2 = n ∨ n ∈ c.taken := by
  rw [take, claim]
  split
  · rename_i htaken
    rw [Std.ExtTreeSet.contains_iff_mem] at htaken
    constructor
    · exact Or.inr
    · intro hx
      rcases hx with rfl | hn
      · exact htaken
      · exact hn
  · rw [Std.ExtTreeSet.mem_insert, Std.LawfulEqCmp.compare_eq_iff_eq]

/-- A hop has a subnet after an offer if it had it before, or the offer was made to it in time. -/
theorem mem_byHop_take (c : Claims) (o : NodeId × Subnet) (h : NodeId) (n : Subnet) :
    n ∈ (c.take o).byHop.getD h ∅ ↔ n ∈ c.byHop.getD h ∅ ∨ o = (h, n) ∧ n ∉ c.taken := by
  rw [take, claim]
  split
  · rename_i htaken
    rw [Std.ExtTreeSet.contains_iff_mem] at htaken
    constructor
    · exact Or.inl
    · intro hx
      rcases hx with hn | ⟨rfl, hn⟩
      · exact hn
      · exact absurd htaken hn
  · rename_i htaken
    rw [Std.ExtTreeSet.contains_iff_mem] at htaken
    rw [Map.getD_insert]
    split
    · rename_i hh
      rw [Std.ExtTreeSet.mem_insert, Std.LawfulEqCmp.compare_eq_iff_eq, hh]
      constructor
      · intro hx
        rcases hx with hn | hn
        · exact Or.inr ⟨Prod.ext hh hn, hn ▸ htaken⟩
        · exact Or.inl hn
      · intro hx
        rcases hx with hn | ⟨rfl, -⟩
        · exact Or.inr hn
        · exact Or.inl rfl
    · rename_i hh
      constructor
      · exact Or.inl
      · intro hx
        rcases hx with hn | ⟨rfl, -⟩
        · exact hn
        · exact absurd rfl hh

/-- **Of several offers of a subnet the first counts.** -/
theorem mem_byHop_foldl (os : List (NodeId × Subnet)) (c : Claims) (h : NodeId) (n : Subnet) :
    n ∈ (os.foldl take c).byHop.getD h ∅ ↔
      n ∈ c.byHop.getD h ∅ ∨ n ∉ c.taken ∧ os.find? (fun o => o.2 == n) = some (h, n) := by
  induction os generalizing c with
  | nil => simp
  | cons o os ih =>
      rw [List.foldl_cons, ih, mem_byHop_take, mem_taken_take]
      by_cases hn : o.2 = n
      · rw [List.find?_cons_of_pos (by simpa using hn)]
        simp only [hn, true_or, not_true_eq_false, false_and, or_false, Option.some.injEq]
        exact or_congr_right and_comm
      · have hne : o ≠ (h, n) := fun hc => hn (by rw [hc])
        rw [List.find?_cons_of_neg (by simpa using hn)]
        simp only [hn, hne, false_or, false_and, or_false]

/-- Hops in the table have got something. -/
def Fruitful (c : Claims) : Prop :=
  ∀ (h : NodeId) (nets : Std.ExtTreeSet Subnet), c.byHop[h]? = some nets → ∃ n, n ∈ nets

theorem Fruitful.take {c : Claims} (hc : c.Fruitful) (o : NodeId × Subnet) :
    (c.take o).Fruitful := by
  intro h nets hnets
  rw [Claims.take, claim] at hnets
  split at hnets
  · exact hc h nets hnets
  · rw [Map.getElem?_insert] at hnets
    split at hnets
    · rw [Option.some.injEq] at hnets
      exact ⟨o.2, hnets ▸ Std.ExtTreeSet.mem_insert_self⟩
    · exact hc h nets hnets

theorem Fruitful.foldl {os : List (NodeId × Subnet)} :
    ∀ {c : Claims}, c.Fruitful → (os.foldl Claims.take c).Fruitful := by
  induction os with
  | nil => intro c hc; exact hc
  | cons o os ih => intro c hc; exact ih (hc.take o)

end Claims

section

variable [Quantity α] (g : RouteGraph α) (s : Search α) (source : Node)

theorem claims_eq :
    g.claims s source =
      (g.offers s source.id).foldl Claims.take ⟨.ofList source.routedSubnets, ∅⟩ := by
  rw [claims, offers, List.foldl_flatMap]
  refine List.foldl_ext _ _ _ fun c dest _ => ?_
  exact Claims.visit_eq s source.id c dest

theorem fruitful_claims : (g.claims s source).Fruitful := by
  rw [claims_eq]
  exact Claims.Fruitful.foldl (by intro h nets hnets; simp at hnets)

/-- **A hop gets the subnets that it holds.** -/
theorem mem_byHop_claims (h : NodeId) (n : Subnet) :
    n ∈ (g.claims s source).byHop.getD h ∅ ↔ g.holder? s source n = some h := by
  have hinit : n ∈ (Std.ExtTreeSet.ofList source.routedSubnets) ↔ n ∈ source.routedSubnets := by
    rw [Std.ExtTreeSet.mem_ofList, List.contains_iff_mem]
  rw [claims_eq, Claims.mem_byHop_foldl, hinit, holder?]
  by_cases hown : n ∈ source.routedSubnets
  · simp [hown]
  · rw [if_neg hown, Option.map_eq_some_iff]
    constructor
    · intro hx
      rcases hx with hn | ⟨-, hfind⟩
      · simp at hn
      · exact ⟨(h, n), hfind, rfl⟩
    · intro hx
      obtain ⟨⟨h', n'⟩, hfind, rfl⟩ := hx
      have hn' : n' = n := by simpa using List.find?_some hfind
      exact Or.inr ⟨hown, hn' ▸ hfind⟩

theorem exists_of_byHop_claims {h : NodeId} {nets : Std.ExtTreeSet Subnet}
    (hnets : (g.claims s source).byHop[h]? = some nets) :
    (∃ n, n ∈ nets) ∧ ∀ n, n ∈ nets ↔ g.holder? s source n = some h := by
  refine ⟨fruitful_claims g s source h nets hnets, fun n => ?_⟩
  rw [← mem_byHop_claims, Std.ExtTreeMap.getD_eq_getD_getElem?, hnets, Option.getD_some]

theorem exists_byHop_of_holder? {h : NodeId} {n : Subnet} (hn : g.holder? s source n = some h) :
    ∃ nets, (g.claims s source).byHop[h]? = some nets := by
  rw [← mem_byHop_claims, Std.ExtTreeMap.getD_eq_getD_getElem?] at hn
  cases hnets : (g.claims s source).byHop[h]? with
  | some nets => exact ⟨nets, rfl⟩
  | none =>
      rw [hnets] at hn
      simp at hn

end

/-! ### Destinations -/

variable [Quantity α] {g : RouteGraph α} {s : Search α} {source : NodeId}

theorem mem_destinations {n : Node} :
    n ∈ g.destinations s source ↔
      n ∈ g.nodes ∧ n.id ≠ source ∧ ∃ d, s.dist[n.id]? = some d ∧ finite d = true := by
  simp only [destinations, List.mem_map, List.mem_mergeSort, List.mem_filterMap]
  constructor
  · intro hx
    obtain ⟨⟨m, d⟩, ⟨n', hn', hd⟩, rfl⟩ := hx
    split at hd
    · simp at hd
    · rename_i hne
      rw [Option.map_eq_some_iff] at hd
      obtain ⟨d', hd', heq⟩ := hd
      obtain ⟨rfl, rfl⟩ := Prod.mk.inj heq
      rw [Option.filter_eq_some_iff] at hd'
      exact ⟨hn', hne, d', hd'⟩
  · intro hx
    obtain ⟨hn, hne, d, hd, hf⟩ := hx
    refine ⟨(n, d), ⟨n, hn, ?_⟩, rfl⟩
    rw [if_neg hne, hd]
    simp [hf]

/-- A destination has a first hop. -/
theorem exists_firstHop (h : Search.Sound g.usable g.ids source s) {dest : Node}
    (hd : dest ∈ g.destinations s source) : ∃ hop, s.firstHop source dest.id = some hop := by
  obtain ⟨-, hne, d, hdist, -⟩ := mem_destinations.mp hd
  obtain ⟨-, es, hes⟩ := h.reached _ d hdist
  rw [h.firstHop_eq hes]
  cases es with
  | nil => exact absurd hes.branch.isPath.symm hne
  | cons e es => exact ⟨e.target, rfl⟩

/-- **A subnet that the source does not have goes to the first hop of the first destination that
has it.** -/
theorem holder?_eq_some {src : Node} (hs : Search.Sound g.usable g.ids src.id s) {n : Subnet}
    {h : NodeId} :
    g.holder? s src n = some h ↔
      n ∉ src.routedSubnets ∧ ∃ nearer dest farther,
        g.destinations s src.id = nearer ++ dest :: farther ∧ n ∈ dest.routedSubnets ∧
        s.firstHop src.id dest.id = some h ∧ ∀ dest' ∈ nearer, n ∉ dest'.routedSubnets := by
  rw [holder?, offers, List.find?_flatMap]
  split
  · rename_i hown
    simp [hown]
  · rename_i hown
    simp only [find?_offersOf, Option.map_eq_some_iff, List.findSome?_eq_some_iff]
    constructor
    · intro hx
      obtain ⟨o, ⟨nearer, dest, farther, hsplit, hdest, hnearer⟩, rfl⟩ := hx
      split at hdest
      · rename_i hn
        obtain ⟨hop, hhop, rfl⟩ := Option.map_eq_some_iff.mp hdest
        refine ⟨hown, nearer, dest, farther, hsplit, hn, hhop, fun dest' hd' hn' => ?_⟩
        have hmem : dest' ∈ g.destinations s src.id := by
          rw [hsplit]
          exact List.mem_append_left _ hd'
        obtain ⟨hop', hhop'⟩ := exists_firstHop hs hmem
        have hnone := hnearer dest' hd'
        rw [if_pos hn', hhop'] at hnone
        exact absurd hnone (by simp)
      · exact absurd hdest (by simp)
    · intro hx
      obtain ⟨-, nearer, dest, farther, hsplit, hn, hhop, hnearer⟩ := hx
      refine ⟨(h, n), ⟨nearer, dest, farther, hsplit, by rw [if_pos hn, hhop]; rfl, ?_⟩, rfl⟩
      intro dest' hd'
      rw [if_neg (hnearer dest' hd')]

/-- A subnet is held if some destination has it and the source does not. -/
theorem exists_holder?_iff {src : Node} (hs : Search.Sound g.usable g.ids src.id s) {n : Subnet} :
    (∃ h, g.holder? s src n = some h) ↔
      n ∉ src.routedSubnets ∧ ∃ dest ∈ g.destinations s src.id, n ∈ dest.routedSubnets := by
  constructor
  · intro hx
    obtain ⟨h, hh⟩ := hx
    obtain ⟨hown, nearer, dest, farther, hsplit, hn, -, -⟩ := (holder?_eq_some hs).mp hh
    exact ⟨hown, dest, by rw [hsplit]; simp, hn⟩
  · intro hx
    obtain ⟨hown, dest, hdest, hn⟩ := hx
    -- The first offer is the first element that the search for one finds.
    have hsome : ((g.offers s src.id).find? fun o => o.2 == n).isSome := by
      obtain ⟨hop, hhop⟩ := exists_firstHop hs hdest
      rw [List.find?_isSome]
      refine ⟨(hop, n), List.mem_flatMap.mpr ⟨dest, hdest, ?_⟩, by simp⟩
      rw [offersOf, hhop]
      exact List.mem_map.mpr ⟨n, hn, rfl⟩
    obtain ⟨o, ho⟩ := Option.isSome_iff_exists.mp hsome
    exact ⟨o.1, by rw [holder?, if_neg hown, ho]; rfl⟩

/-! ### The order of destinations -/

/-- A distance comes before another, or they are equal and the ids decide. -/
def Precedes (s : Search α) (a b : Node) : Prop :=
  ∀ da db, s.dist[a.id]? = some da → s.dist[b.id]? = some db →
    less da db = true ∨ less db da = false ∧ (compare a.id b.id).isLE = true

theorem before_total (a b : Node × α) : (before a b || before b a) = true := by
  simp only [before, Bool.or_eq_true, Bool.and_eq_true, Bool.not_eq_true']
  by_cases hab : less a.2 b.2 = true
  · exact Or.inl (Or.inl hab)
  · by_cases hba : less b.2 a.2 = true
    · exact Or.inr (Or.inl hba)
    · rw [Bool.not_eq_true] at hab hba
      by_cases hid : (compare a.1.id b.1.id).isLE = true
      · exact Or.inl (Or.inr ⟨hba, hid⟩)
      · refine Or.inr (Or.inr ⟨hab, ?_⟩)
        rw [Std.OrientedCmp.lt_of_not_isLE hid]
        rfl

variable [OrderedQuantity α]

theorem before_trans {a b c : Node × α} (ha : leq (ofNat 0) a.2 = true)
    (hb : leq (ofNat 0) b.2 = true) (hc : leq (ofNat 0) c.2 = true) (hab : before a b = true)
    (hbc : before b c = true) : before a c = true := by
  simp only [before, Bool.or_eq_true, Bool.and_eq_true, Bool.not_eq_true'] at hab hbc ⊢
  rcases hab with hab | ⟨hab, hid⟩
  · refine Or.inl (OrderedQuantity.less_of_less_of_leq ha hab ?_)
    rcases hbc with hbc | ⟨hbc, -⟩
    · exact OrderedQuantity.leq_of_less hbc
    · exact OrderedQuantity.leq_of_not_less hb hc hbc
  · have hle := OrderedQuantity.leq_of_not_less ha hb hab
    rcases hbc with hbc | ⟨hbc, hid'⟩
    · exact Or.inl (OrderedQuantity.less_of_leq_of_less ha hle hbc)
    · refine Or.inr ⟨?_, Std.TransCmp.isLE_trans hid hid'⟩
      exact OrderedQuantity.not_less_of_leq
        (OrderedQuantity.leq_trans hle (OrderedQuantity.leq_of_not_less hb hc hbc))

/-- Destinations come in order. -/
theorem pairwise_destinations (hs : Search.Sound g.usable g.ids source s)
    (hg : g.usable.NonNegative) : (g.destinations s source).Pairwise (Precedes s) := by
  rw [destinations, List.pairwise_map]
  set l := g.nodes.filterMap fun n =>
    if n.id = source then none
    else (s.dist[n.id]?.filter finite).map fun d => (n, d) with hl
  have hdist : ∀ b ∈ l, s.dist[b.1.id]? = some b.2 := by
    intro b hb
    rw [hl, List.mem_filterMap] at hb
    obtain ⟨n, -, hn⟩ := hb
    split at hn
    · exact absurd hn (by simp)
    · obtain ⟨d, hd, rfl⟩ := Option.map_eq_some_iff.mp hn
      exact (Option.filter_eq_some_iff.mp hd).1
  have hsorted : (l.mergeSort before).Pairwise fun a b => before a b = true :=
    Map.pairwise_mergeSort_of_forall (P := fun b => leq (ofNat 0) b.2 = true)
      (fun b hb => hs.zero_leq hg (hdist b hb)) (fun a b c => before_trans)
      (fun a b _ _ => before_total a b)
  refine hsorted.imp_of_mem fun {a b} ha hb hab da db hda hdb => ?_
  rw [hdist a (List.mem_mergeSort.mp ha), Option.some.injEq] at hda
  rw [hdist b (List.mem_mergeSort.mp hb), Option.some.injEq] at hdb
  simpa only [before, hda, hdb, Bool.or_eq_true, Bool.and_eq_true, Bool.not_eq_true'] using hab

end TunnelMesh.RouteGraph
