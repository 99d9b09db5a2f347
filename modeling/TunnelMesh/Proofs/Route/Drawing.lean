/-
Which candidate edges there are.

Links and pairs of nodes propose edges, first the links and then the pairs, and of the
proposals from one node to another the first is drawn.  `candidate?` says which one
that is by looking at the two nodes and the links between them, and at nothing else:
neither the other nodes and links nor any order among them has a part in it, but for
the order of the links from the one node to the other.

Lists of edges are sorted strictly, so that graphs with the same edges are the same.
-/
import TunnelMesh.Proofs.Route.Candidates

namespace TunnelMesh

variable {α : Type}

/-! ### Links between two nodes -/

/-- The links from one node to another. -/
def linksBetween (links : List (Link α)) (u v : NodeId) : List (Link α) :=
  links.filter fun l => l.source == u && l.target == v

/-- The link that counts from one node to another: the first active one. -/
def activeLink? (links : List (Link α)) (u v : NodeId) : Option (Link α) :=
  (linksBetween links u v).find? (·.active)

theorem activeLink?_eq (links : List (Link α)) (u v : NodeId) :
    activeLink? links u v =
      links.find? fun l => l.source == u && l.target == v && l.active := by
  rw [activeLink?, linksBetween, List.find?_filter]
  simp only [Bool.decide_and, Bool.decide_eq_true]

theorem activeLink?_eq_some {links : List (Link α)} {u v : NodeId} {l : Link α}
    (h : activeLink? links u v = some l) :
    l ∈ links ∧ l.active = true ∧ l.source = u ∧ l.target = v := by
  rw [activeLink?_eq] at h
  have hp := List.find?_some h
  simp only [Bool.and_eq_true, beq_iff_eq] at hp
  exact ⟨List.mem_of_find?_eq_some h, hp.2, hp.1.1, hp.1.2⟩

/-! ### The edge between two nodes -/

namespace GraphContext

/-- Whether there may be edges between two nodes: they are different, live and in one network. -/
def together (c : GraphContext α) (a b : Node) : Bool :=
  a.id != b.id && a.networkId == b.networkId && c.live a && c.live b

theorem together_iff (c : GraphContext α) (a b : Node) :
    c.together a b = true ↔
      a.id ≠ b.id ∧ a.networkId = b.networkId ∧ c.live a = true ∧ c.live b = true := by
  simp [together, and_assoc]

variable [Quantity α]

/-- The candidate edge from one node to another: that of the link that counts, if one of the two can
be reached, and without a link the implicit one, if the target can be reached and access is allowed. -/
def candidate? (c : GraphContext α) (links : List (Link α)) (a b : Node) : Option (Edge α) :=
  if c.together a b then
    match activeLink? links a.id b.id with
    | some l => if a.advertises || b.advertises then some (c.explicitEdge l a b) else none
    | none => if b.advertises && c.access.allows a b then some (c.implicitEdge a b) else none
  else none

theorem candidate?_eq_some {c : GraphContext α} {links : List (Link α)} {a b : Node} {e : Edge α} :
    c.candidate? links a b = some e ↔
      c.together a b = true ∧
        ((∃ l, activeLink? links a.id b.id = some l ∧
            (a.advertises || b.advertises) = true ∧ e = c.explicitEdge l a b) ∨
          activeLink? links a.id b.id = none ∧ b.advertises = true ∧
            c.access.allows a b = true ∧ e = c.implicitEdge a b) := by
  rw [candidate?]
  by_cases ht : c.together a b = true
  · rw [if_pos ht]
    cases activeLink? links a.id b.id with
    | some l => simp [ht, eq_comm (a := e)]
    | none => simp [ht, and_assoc, eq_comm (a := e)]
  · simp [ht]

theorem ends_of_candidate? {c : GraphContext α} {links : List (Link α)} {a b : Node} {e : Edge α}
    (h : c.candidate? links a b = some e) : e.source = a.id ∧ e.target = b.id := by
  obtain ⟨-, ⟨l, -, -, rfl⟩ | ⟨-, -, -, rfl⟩⟩ := candidate?_eq_some.mp h <;> exact ⟨rfl, rfl⟩

/-- The candidate edge between two nodes comes from the links between them. -/
theorem candidate?_congr (c : GraphContext α) {links links' : List (Link α)} {a b : Node}
    (h : linksBetween links a.id b.id = linksBetween links' a.id b.id) :
    c.candidate? links a b = c.candidate? links' a b := by
  rw [candidate?, candidate?, activeLink?, activeLink?, h]

end GraphContext

namespace Candidates

open Adjacency

/-! ### Proposals -/

/-- The ends of an edge. -/
def ends (e : Edge α) : Direction := ⟨e.source, e.target⟩

/-- Draws an edge, unless its ends have one. -/
def draw (s : Adjacency α × Pairs) (e : Edge α) : Adjacency α × Pairs :=
  if !s.2.contains (ends e) then (push s.1 e, s.2.insert (ends e)) else s

theorem draw_of_mem {s : Adjacency α × Pairs} {e : Edge α} (h : ends e ∈ s.2) : draw s e = s := by
  rw [draw, Std.ExtTreeSet.contains_iff_mem.mpr h]
  rfl

theorem draw_of_notMem {s : Adjacency α × Pairs} {e : Edge α} (h : ends e ∉ s.2) :
    draw s e = (push s.1 e, s.2.insert (ends e)) := by
  rw [← Std.ExtTreeSet.contains_iff_mem, Bool.not_eq_true] at h
  rw [draw, h]
  rfl

theorem mem_out_draw {s : Adjacency α × Pairs} {e e' : Edge α} {u : NodeId} :
    e' ∈ (draw s e).1.out u ↔ e' ∈ s.1.out u ∨ ends e ∉ s.2 ∧ e.source = u ∧ e' = e := by
  by_cases hs : ends e ∈ s.2
  · simp [draw_of_mem hs, hs]
  · rw [draw_of_notMem hs, mem_out_push]
    simp [hs]

theorem mem_pairs_draw {s : Adjacency α × Pairs} {e : Edge α} {d : Direction} :
    d ∈ (draw s e).2 ↔ d ∈ s.2 ∨ ends e = d := by
  by_cases hs : ends e ∈ s.2
  · rw [draw_of_mem hs]
    exact (or_iff_left_of_imp fun hd => hd ▸ hs).symm
  · rw [draw_of_notMem hs, Std.ExtTreeSet.mem_insert, Std.LawfulEqCmp.compare_eq_iff_eq, or_comm]

theorem foldl_draw_filterMap {β : Type} (f : β → Option (Edge α)) (l : List β)
    (s : Adjacency α × Pairs) :
    (l.filterMap f).foldl draw s = l.foldl (fun s b => (f b).elim s (draw s)) s := by
  rw [List.foldl_filterMap]
  refine List.foldl_ext _ _ _ fun s b _ => ?_
  cases f b <;> rfl

/-- **Of several proposals with the same ends the first is drawn.** -/
theorem mem_out_foldl_draw (es : List (Edge α)) (s : Adjacency α × Pairs) (u : NodeId)
    (e : Edge α) :
    e ∈ (es.foldl draw s).1.out u ↔
      e ∈ s.1.out u ∨
        e.source = u ∧ ends e ∉ s.2 ∧ es.find? (fun e' => ends e' == ends e) = some e := by
  induction es generalizing s with
  | nil => simp
  | cons e' es ih =>
      -- A proposal with the ends of `e` settles whether `e` is drawn; another one changes nothing.
      rw [List.foldl_cons, ih, mem_out_draw, mem_pairs_draw]
      by_cases hends : ends e' = ends e
      · rw [List.find?_cons_of_pos (by simpa using hends)]
        simp only [hends, or_true, not_true_eq_false, false_and, and_false, or_false,
          Option.some.injEq]
        refine or_congr_right ⟨?_, ?_⟩
        · rintro ⟨hnew, hs, rfl⟩
          exact ⟨hs, hnew, rfl⟩
        · rintro ⟨hs, hnew, rfl⟩
          exact ⟨hnew, hs, rfl⟩
      · have hne : e ≠ e' := by
          rintro rfl
          exact hends rfl
        rw [List.find?_cons_of_neg (by simpa using hends)]
        simp [hends, hne]

variable [Quantity α]

/-- The edge that a link proposes. -/
def linkProposal? (c : GraphContext α) (live : NodeId → Bool) (table : NodeTable) (l : Link α) :
    Option (Edge α) :=
  if !l.active || l.source == l.target then none
  else
    match table[l.source]?, table[l.target]? with
    | some src, some dst =>
      if linkable live src dst then some (c.explicitEdge l src dst) else none
    | _, _ => none

/-- The edge that a pair of nodes proposes. -/
def pairProposal? (c : GraphContext α) (live : NodeId → Bool) (dst src : Node) :
    Option (Edge α) :=
  if c.joinable live src dst then some (c.implicitEdge src dst) else none

/-- All proposals of pairs of nodes. -/
def pairProposals (c : GraphContext α) (live : NodeId → Bool) (table : NodeTable) :
    List (Edge α) :=
  table.values.flatMap fun dst => table.values.filterMap (pairProposal? c live dst)

section Proposals

variable (c : GraphContext α) (live : NodeId → Bool) (table : NodeTable)

theorem addLink_eq (s : Adjacency α × Pairs) (l : Link α) :
    addLink c live table s l = (linkProposal? c live table l).elim s (draw s) := by
  by_cases hskip : (!l.active || l.source == l.target) = true
  · simp [addLink, linkProposal?, hskip]
  · rw [addLink, linkProposal?, if_neg hskip, if_neg hskip]
    cases table[l.source]? with
    | none => rfl
    | some src =>
        cases table[l.target]? with
        | none => rfl
        | some dst =>
            by_cases hfit : linkable live src dst = true
            · simp only [hfit, Bool.true_and, if_true]
              rfl
            · simp [hfit]

theorem addPair_eq (dst : Node) (s : Adjacency α × Pairs) (src : Node) :
    addPair c live dst s src = (pairProposal? c live dst src).elim s (draw s) := by
  rw [addPair, pairProposal?]
  by_cases hfit : c.joinable live src dst = true
  · simp only [hfit, Bool.true_and, if_true]
    rfl
  · simp [hfit]

/-- Edges are drawn by making all proposals. -/
theorem foldl_proposals (links : List (Link α)) (s : Adjacency α × Pairs) :
    table.values.foldl (fun s dst => table.values.foldl (addPair c live dst) s)
        (links.foldl (addLink c live table) s) =
      (links.filterMap (linkProposal? c live table) ++ pairProposals c live table).foldl draw s := by
  simp only [List.foldl_append, pairProposals, List.foldl_flatMap, foldl_draw_filterMap,
    ← addLink_eq, ← addPair_eq]

end Proposals

/-! ### Proposals between two nodes -/

section Between

variable (c : GraphContext α) (live : NodeId → Bool) {table : NodeTable}

theorem linkProposal?_eq_some {l : Link α} {e : Edge α} :
    linkProposal? c live table l = some e ↔
      ∃ src dst, table[l.source]? = some src ∧ table[l.target]? = some dst ∧ l.active = true ∧
        l.source ≠ l.target ∧ linkable live src dst = true ∧ c.explicitEdge l src dst = e := by
  rw [linkProposal?]
  by_cases hskip : (!l.active || l.source == l.target) = true
  · rw [if_pos hskip]
    rw [Bool.or_eq_true, Bool.not_eq_true', beq_iff_eq] at hskip
    constructor
    · simp
    · rintro ⟨src, dst, -, -, hactive, hne, -⟩
      rcases hskip with h | h
      · rw [h] at hactive
        exact absurd hactive (by simp)
      · exact absurd h hne
  · rw [if_neg hskip]
    rw [Bool.or_eq_true, Bool.not_eq_true', beq_iff_eq, not_or, Bool.not_eq_false] at hskip
    cases table[l.source]? with
    | none => simp
    | some src =>
        cases table[l.target]? with
        | none => simp
        | some dst => simp [hskip]

theorem pairProposal?_eq_some {src dst : Node} {e : Edge α} :
    pairProposal? c live dst src = some e ↔
      c.joinable live src dst = true ∧ c.implicitEdge src dst = e := by
  rw [pairProposal?]
  by_cases hfit : c.joinable live src dst = true <;> simp [hfit]

variable (hid : ∀ (v : NodeId) (n : Node), table[v]? = some n → n.id = v) {src dst : Node}
  (hsrc : table[src.id]? = some src) (hdst : table[dst.id]? = some dst)

include hid hsrc hdst

theorem any_linkProposal? (l : Link α) :
    (linkProposal? c live table l).any (fun e => ends e == ⟨src.id, dst.id⟩) = true ↔
      (src.id ≠ dst.id ∧ linkable live src dst = true) ∧
        l.source = src.id ∧ l.target = dst.id ∧ l.active = true := by
  rw [Option.any_eq_true]
  constructor
  · rintro ⟨e, he, hends⟩
    obtain ⟨a, b, ha, hb, hactive, hne, hfit, rfl⟩ := (linkProposal?_eq_some c live).mp he
    obtain ⟨h1, h2⟩ := Direction.mk.inj (beq_iff_eq.mp hends)
    have hs : l.source = src.id := (hid _ _ ha).symm.trans h1
    have ht : l.target = dst.id := (hid _ _ hb).symm.trans h2
    rw [hs, hsrc, Option.some.injEq] at ha
    rw [ht, hdst, Option.some.injEq] at hb
    subst ha hb
    exact ⟨⟨hs ▸ ht ▸ hne, hfit⟩, hs, ht, hactive⟩
  · rintro ⟨⟨hne, hfit⟩, hs, ht, hactive⟩
    refine ⟨c.explicitEdge l src dst, (linkProposal?_eq_some c live).mpr
      ⟨src, dst, hs ▸ hsrc, ht ▸ hdst, hactive, ?_, hfit, rfl⟩, beq_iff_eq.mpr rfl⟩
    rwa [hs, ht]

/-- Between two nodes the link that counts comes first, if the nodes fit. -/
theorem find?_linkProposals (links : List (Link α)) :
    (links.filterMap (linkProposal? c live table)).find? (fun e => ends e == ⟨src.id, dst.id⟩) =
      if src.id ≠ dst.id ∧ linkable live src dst = true then
        (activeLink? links src.id dst.id).map fun l => c.explicitEdge l src dst
      else none := by
  have hany := any_linkProposal? c live hid hsrc hdst
  rw [List.find?_filterMap]
  by_cases hfit : src.id ≠ dst.id ∧ linkable live src dst = true
  · have hpred : (fun l => (linkProposal? c live table l).any
        fun e => ends e == ⟨src.id, dst.id⟩) =
        fun l => l.source == src.id && l.target == dst.id && l.active := by
      funext l
      rw [Bool.eq_iff_iff, hany]
      simp [hfit, and_assoc]
    rw [if_pos hfit, hpred, ← activeLink?_eq]
    cases hl : activeLink? links src.id dst.id with
    | none => rfl
    | some l =>
        obtain ⟨-, hactive, hs, ht⟩ := activeLink?_eq_some hl
        exact (linkProposal?_eq_some c live).mpr
          ⟨src, dst, hs ▸ hsrc, ht ▸ hdst, hactive, by rw [hs, ht]; exact hfit.1, hfit.2, rfl⟩
  · rw [if_neg hfit, List.find?_eq_none.mpr fun l _ hl => hfit ((hany l).mp hl).1]
    rfl

/-- Between two nodes there is one proposal of a pair at most. -/
theorem find?_pairProposals :
    (pairProposals c live table).find? (fun e => ends e == ⟨src.id, dst.id⟩) =
      if c.joinable live src dst = true then some (c.implicitEdge src dst) else none := by
  have hmem : ∀ e, e ∈ pairProposals c live table ↔
      ∃ b ∈ table.values, ∃ a ∈ table.values, c.joinable live a b = true ∧ c.implicitEdge a b = e := by
    intro e
    simp only [pairProposals, List.mem_flatMap, List.mem_filterMap, pairProposal?_eq_some]
  cases hfind : (pairProposals c live table).find? fun e => ends e == ⟨src.id, dst.id⟩ with
  | some e =>
      obtain ⟨b, hb, a, ha, hjoin, rfl⟩ := (hmem e).mp (List.mem_of_find?_eq_some hfind)
      have hends := List.find?_some hfind
      rw [beq_iff_eq] at hends
      obtain ⟨h1, h2⟩ := Direction.mk.inj hends
      obtain ⟨u, hu⟩ := Map.mem_values.mp ha
      obtain ⟨v, hv⟩ := Map.mem_values.mp hb
      have hau : a = src := by
        rw [← hid u a hu, show a.id = src.id from h1, hsrc, Option.some.injEq] at hu
        exact hu.symm
      have hbv : b = dst := by
        rw [← hid v b hv, show b.id = dst.id from h2, hdst, Option.some.injEq] at hv
        exact hv.symm
      subst hau hbv
      rw [if_pos hjoin]
  | none =>
      rw [if_neg]
      intro hjoin
      refine absurd (beq_iff_eq.mpr rfl) (List.find?_eq_none.mp hfind (c.implicitEdge src dst) ?_)
      exact (hmem _).mpr ⟨dst, Map.mem_values.mpr ⟨_, hdst⟩, src, Map.mem_values.mpr ⟨_, hsrc⟩,
        hjoin, rfl⟩

end Between

/-! ### The candidate graph -/

section Build

variable (c : GraphContext α) {nodes : List Node} (h : (nodes.map Node.id).Nodup)
  (links : List (Link α))

/-- All proposals for nodes and links. -/
def proposals (c : GraphContext α) (nodes : List Node) (links : List (Link α)) :
    List (Edge α) :=
  let live := fun id =>
    (Std.ExtTreeSet.ofList ((nodes.filter c.live).map Node.id)).contains id
  links.filterMap (linkProposal? c live (.ofList nodes)) ++ pairProposals c live (.ofList nodes)

theorem build_eq : build c nodes links =
    ((proposals c nodes links).foldl draw ((NodeTable.ofList nodes).map fun _ _ => [], ∅)).1.map
      fun _ es => byTarget es := by
  rw [proposals, ← foldl_proposals]
  rfl

theorem ends_of_mem_proposals {e : Edge α} (he : e ∈ proposals c nodes links) :
    ∃ a ∈ nodes, ∃ b ∈ nodes, ends e = ⟨a.id, b.id⟩ := by
  rcases List.mem_append.mp he with he | he
  · obtain ⟨l, -, hl⟩ := List.mem_filterMap.mp he
    obtain ⟨a, b, ha, hb, -, -, -, rfl⟩ := (linkProposal?_eq_some c _).mp hl
    exact ⟨a, (NodeTable.mem_of_getElem?_ofList ha).1, b, (NodeTable.mem_of_getElem?_ofList hb).1,
      rfl⟩
  · obtain ⟨b, hb, he⟩ := List.mem_flatMap.mp he
    obtain ⟨a, ha, hp⟩ := List.mem_filterMap.mp he
    obtain ⟨-, rfl⟩ := (pairProposal?_eq_some c _).mp hp
    obtain ⟨u, hu⟩ := Map.mem_values.mp ha
    obtain ⟨v, hv⟩ := Map.mem_values.mp hb
    exact ⟨a, (NodeTable.mem_of_getElem?_ofList hu).1, b, (NodeTable.mem_of_getElem?_ofList hv).1,
      rfl⟩

include h

omit [Quantity α] in
theorem contains_liveIds {n : Node} (hn : n ∈ nodes) :
    (Std.ExtTreeSet.ofList ((nodes.filter c.live).map Node.id)).contains n.id = c.live n := by
  rw [Bool.eq_iff_iff, Std.ExtTreeSet.contains_iff_mem, Std.ExtTreeSet.mem_ofList,
    List.contains_iff_mem, List.mem_map]
  constructor
  · rintro ⟨m, hm, hid⟩
    obtain ⟨hm, hlive⟩ := List.mem_filter.mp hm
    rwa [List.inj_on_of_nodup_map h hm hn hid] at hlive
  · intro hlive
    exact ⟨n, List.mem_filter.mpr ⟨hn, hlive⟩, rfl⟩

/-- **The first proposal between two nodes is their candidate edge.** -/
theorem find?_proposals {a b : Node} (ha : a ∈ nodes) (hb : b ∈ nodes) :
    (proposals c nodes links).find? (fun e => ends e == ⟨a.id, b.id⟩) =
      c.candidate? links a b := by
  have hid : ∀ (v : NodeId) (n : Node), (NodeTable.ofList nodes)[v]? = some n → n.id = v :=
    fun v n hn => (NodeTable.mem_of_getElem?_ofList hn).2
  have hta := NodeTable.getElem?_ofList_of_mem h ha
  have htb := NodeTable.getElem?_ofList_of_mem h hb
  rw [proposals, List.find?_append, find?_linkProposals c _ hid hta htb,
    find?_pairProposals c _ hid hta htb, GraphContext.candidate?]
  simp only [linkable, GraphContext.joinable, contains_liveIds c h ha, contains_liveIds c h hb]
  by_cases ht : c.together a b = true
  · obtain ⟨hne, hnet, hla, hlb⟩ := (c.together_iff a b).mp ht
    cases activeLink? links a.id b.id with
    | none => simp [ht, hne, hnet, hla, hlb]
    | some l => cases a.advertises <;> cases b.advertises <;> simp [ht, hne, hnet, hla, hlb]
  · have hapart : ¬(a.id ≠ b.id ∧ a.networkId = b.networkId ∧ c.live a = true ∧ c.live b = true) :=
      fun hall => ht ((c.together_iff a b).mpr hall)
    rw [if_neg ht, if_neg, if_neg]
    · rfl
    · simp only [Bool.and_eq_true, bne_iff_ne, beq_iff_eq]
      exact fun hall => hapart ⟨hall.1.1.1.1.1, hall.1.1.1.1.2, hall.1.1.1.2, hall.1.1.2⟩
    · simp only [Bool.and_eq_true, beq_iff_eq]
      exact fun hall => hapart ⟨hall.1, hall.2.1.1.1, hall.2.1.1.2, hall.2.1.2⟩

/-- **The edges of a node are its candidate edges to the others.** -/
theorem mem_out_build {u : NodeId} {e : Edge α} :
    e ∈ (build c nodes links).out u ↔
      ∃ a ∈ nodes, a.id = u ∧ ∃ b ∈ nodes, c.candidate? links a b = some e := by
  have hstart : ∀ v, out ((NodeTable.ofList nodes).map fun _ _ => ([] : List (Edge α))) v = [] := by
    intro v
    rw [out_eq, Std.ExtTreeMap.getElem?_map]
    cases (NodeTable.ofList nodes)[v]? <;> rfl
  rw [build_eq, out_map _ List.mergeSort_nil, byTarget, List.mem_mergeSort, mem_out_foldl_draw,
    hstart]
  constructor
  · rintro (he | ⟨hs, -, hfind⟩)
    · simp at he
    · obtain ⟨a, ha, b, hb, hends⟩ :=
        ends_of_mem_proposals c links (List.mem_of_find?_eq_some hfind)
      rw [hends, find?_proposals c h links ha hb] at hfind
      exact ⟨a, ha, (Direction.mk.inj hends).1.symm.trans hs, b, hb, hfind⟩
  · rintro ⟨a, ha, rfl, b, hb, he⟩
    obtain ⟨hs, ht⟩ := GraphContext.ends_of_candidate? he
    have hends : ends e = ⟨a.id, b.id⟩ := by rw [ends, hs, ht]
    refine Or.inr ⟨hs, by simp, ?_⟩
    rw [hends, find?_proposals c h links ha hb, he]

end Build

/-! ### Graphs with the same edges -/

section Same

variable {ids ids' : List NodeId} {g g' : Adjacency α}

omit [Quantity α]

/-- Lists of edges with the same elements are the same. -/
theorem Shaped.out_eq_out (h : Shaped ids g) (h' : Shaped ids' g') {u : NodeId}
    (hmem : ∀ e, e ∈ g.out u ↔ e ∈ g'.out u) : g.out u = g'.out u :=
  Map.eq_of_pairwise (fun _ _ => Std.OrientedCmp.not_lt_of_lt) (h.sorted u) (h'.sorted u) hmem

theorem Shaped.getElem?_eq (h : Shaped ids g) {u : NodeId} (hu : u ∈ ids) :
    g[u]? = some (g.out u) :=
  Std.ExtTreeMap.getElem?_eq_some_getD ((h.mem_iff u).mpr hu)

theorem Shaped.eq (h : Shaped ids g) (h' : Shaped ids' g') (hids : ∀ v, v ∈ ids ↔ v ∈ ids')
    (hmem : ∀ u e, e ∈ g.out u ↔ e ∈ g'.out u) : g = g' := by
  refine Std.ExtTreeMap.ext_getElem? fun u => ?_
  by_cases hu : u ∈ ids
  · rw [h.getElem?_eq hu, h'.getElem?_eq ((hids u).mp hu), h.out_eq_out h' (hmem u)]
  · rw [Std.ExtTreeMap.getElem?_eq_none fun hg => hu ((h.mem_iff u).mp hg),
      Std.ExtTreeMap.getElem?_eq_none fun hg => hu ((hids u).mpr ((h'.mem_iff u).mp hg))]

end Same

end Candidates

end TunnelMesh
