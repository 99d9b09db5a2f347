/-
The shape of the candidate graph and of its filters.

`Sketched` is what holds while edges are drawn: every node of the table has a list,
edges are listed at their sources and lead to other nodes of the table, and no pair
of nodes gets a second edge.  Sorting and filtering keep that, and the last filter
leaves edges in pairs only.
-/
import TunnelMesh.Proofs.Map
import TunnelMesh.Proofs.Route.Path
import TunnelMesh.Route.Candidates

namespace TunnelMesh

/-! ### Tables of nodes -/

namespace NodeTable

theorem getElem?_ofList (nodes : List Node) (v : NodeId) :
    (ofList nodes)[v]? = Map.lastWith Node.id v nodes := by
  rw [ofList, Map.getElem?_foldl_insert]
  simp

theorem mem_of_getElem?_ofList {nodes : List Node} {v : NodeId} {n : Node}
    (h : (ofList nodes)[v]? = some n) : n ∈ nodes ∧ n.id = v := by
  rw [getElem?_ofList] at h
  exact Map.lastWith_eq_some h

/-- With distinct ids each node is the one of its id. -/
theorem getElem?_ofList_of_mem {nodes : List Node} (h : (nodes.map Node.id).Nodup) {n : Node}
    (hn : n ∈ nodes) : (ofList nodes)[n.id]? = some n := by
  rw [getElem?_ofList]
  exact Map.find?_eq_some_of_nodup (by rwa [List.map_reverse, List.nodup_reverse]) (by simpa using hn)

theorem mem_ofList {nodes : List Node} {v : NodeId} :
    v ∈ ofList nodes ↔ v ∈ nodes.map Node.id := by
  rw [← Std.ExtTreeMap.isSome_getElem?_iff_mem, getElem?_ofList, Map.lastWith_isSome]

end NodeTable

/-! ### Lists of edges -/

namespace Adjacency

variable {α : Type}

theorem out_eq (g : Adjacency α) (u : NodeId) : g.out u = g[u]?.getD [] :=
  Std.ExtTreeMap.getD_eq_getD_getElem?

theorem mem_of_mem_out {g : Adjacency α} {u : NodeId} {e : Edge α} (h : e ∈ g.out u) : u ∈ g := by
  rw [out_eq] at h
  cases hu : g[u]? with
  | none => simp [hu] at h
  | some es => exact Map.mem_iff_exists_getElem?.mpr ⟨es, hu⟩

theorem mem_edges {g : Adjacency α} {e : Edge α} : e ∈ g.edges ↔ ∃ u, e ∈ g.out u := by
  rw [edges, List.mem_flatten]
  constructor
  · intro hx
    obtain ⟨es, hes, he⟩ := hx
    obtain ⟨u, hu⟩ := Map.mem_values.mp hes
    exact ⟨u, by rw [out_eq, hu]; exact he⟩
  · intro hx
    obtain ⟨u, he⟩ := hx
    obtain ⟨es, hes⟩ := Map.mem_iff_exists_getElem?.mp (mem_of_mem_out he)
    rw [out_eq, hes] at he
    exact ⟨es, Map.mem_values.mpr ⟨u, hes⟩, he⟩

theorem out_map (g : Adjacency α) {f : List (Edge α) → List (Edge α)} (hf : f [] = [])
    (u : NodeId) : out (g.map fun _ es => f es) u = f (g.out u) := by
  rw [out_eq, out_eq, Std.ExtTreeMap.getElem?_map]
  cases g[u]? with
  | none => simp [hf]
  | some es => rfl

theorem out_keep (g : Adjacency α) (p : Edge α → Bool) (u : NodeId) :
    (g.keep p).out u = (g.out u).filter p :=
  out_map g rfl u

theorem mem_keep {g : Adjacency α} {p : Edge α → Bool} {u : NodeId} : u ∈ g.keep p ↔ u ∈ g :=
  Std.ExtTreeMap.mem_map

end Adjacency

namespace Candidates

open Adjacency

variable {α : Type}

theorem out_push (g : Adjacency α) (e : Edge α) (u : NodeId) :
    (push g e).out u = if e.source = u then g.out u ++ [e] else g.out u := by
  rw [push, out, Map.getD_insert]
  by_cases hu : e.source = u
  · rw [if_pos hu, if_pos hu, hu]
  · rw [if_neg hu, if_neg hu]
    rfl

theorem mem_out_push {g : Adjacency α} {e e' : Edge α} {u : NodeId} :
    e' ∈ (push g e).out u ↔ e' ∈ g.out u ∨ e.source = u ∧ e' = e := by
  rw [out_push]
  by_cases hu : e.source = u <;> simp [hu]

/-- What holds while edges are drawn between the nodes of a table. -/
structure Sketched (table : NodeTable) (s : Adjacency α × Pairs) : Prop where
  mem_iff : ∀ v, v ∈ s.1 ↔ v ∈ table
  ends : ∀ u, ∀ e ∈ s.1.out u, e.source = u ∧ e.target ≠ u ∧ e.target ∈ table
  /-- Edges are remembered by their ends. -/
  pair : ∀ u, ∀ e ∈ s.1.out u, Direction.mk u e.target ∈ s.2
  once : ∀ u, ((s.1.out u).map Edge.target).Nodup

/-- Drawing one more edge between nodes that have none. -/
theorem Sketched.push {table : NodeTable} {s : Adjacency α × Pairs} (h : Sketched table s)
    {e : Edge α} (hs : e.source ∈ table) (ht : e.target ∈ table) (hne : e.target ≠ e.source)
    (hnew : Direction.mk e.source e.target ∉ s.2) :
    Sketched table (Candidates.push s.1 e, s.2.insert ⟨e.source, e.target⟩) := by
  refine ⟨fun v => ?_, fun u e' he' => ?_, fun u e' he' => ?_, fun u => ?_⟩
  · rw [Candidates.push, Std.ExtTreeMap.mem_insert, Std.LawfulEqCmp.compare_eq_iff_eq, h.mem_iff]
    constructor
    · intro hx
      rcases hx with rfl | hv
      · exact hs
      · exact hv
    · exact Or.inr
  · rcases mem_out_push.mp he' with he' | ⟨rfl, rfl⟩
    · exact h.ends u e' he'
    · exact ⟨rfl, hne, ht⟩
  · rw [Std.ExtTreeSet.mem_insert, Std.LawfulEqCmp.compare_eq_iff_eq]
    rcases mem_out_push.mp he' with he' | ⟨rfl, rfl⟩
    · exact Or.inr (h.pair u e' he')
    · exact Or.inl rfl
  · rw [out_push]
    split
    · rename_i hu
      rw [List.map_append, List.map_singleton]
      refine List.nodup_append.mpr ⟨h.once u, by simp, ?_⟩
      intro t ht' t' ht'' heq
      rw [List.mem_singleton.mp ht''] at heq
      obtain ⟨e', he', rfl⟩ := List.mem_map.mp ht'
      have hpair := h.pair u e' he'
      rw [heq, ← hu] at hpair
      exact hnew hpair
    · exact h.once u

theorem sketched_start (table : NodeTable) :
    Sketched table ((table.map fun _ _ => [], ∅) : Adjacency α × Pairs) := by
  have hout : ∀ u, out (table.map fun _ _ => ([] : List (Edge α))) u = [] := by
    intro u
    rw [out_eq, Std.ExtTreeMap.getElem?_map]
    cases table[u]? <;> rfl
  refine ⟨fun v => Std.ExtTreeMap.mem_map, fun u e he => ?_, fun u e he => ?_, fun u => ?_⟩
  · rw [hout] at he
    simp at he
  · rw [hout] at he
    simp at he
  · rw [hout]
    simp

/-! ### Graphs over nodes -/

/-- A graph over some nodes: each has a list of edges to others, in order of their targets. -/
structure Shaped (ids : List NodeId) (g : Adjacency α) : Prop where
  mem_iff : ∀ v, v ∈ g ↔ v ∈ ids
  sourced : g.WellSourced
  ends : ∀ u, ∀ e ∈ g.out u, e.target ≠ u ∧ e.target ∈ ids
  sorted : ∀ u, (g.out u).Pairwise fun a b => compare a.target b.target = .lt

theorem pairwise_byTarget {es : List (Edge α)} (h : (es.map Edge.target).Nodup) :
    (byTarget es).Pairwise fun a b => compare a.target b.target = .lt := by
  refine (Map.pairwise_mergeSort_of_nodup (fun a b c => Std.TransCmp.isLE_trans)
    (fun a b => ?_) h).imp ?_
  · rw [Bool.or_eq_true]
    by_cases hab : (compare a.target b.target).isLE = true
    · exact Or.inl hab
    · exact Or.inr (by rw [Std.OrientedCmp.lt_of_not_isLE hab]; rfl)
  · rintro a b ⟨hle, hne⟩
    rcases Ordering.isLE_iff_eq_lt_or_eq_eq.mp hle with hlt | heq
    · exact hlt
    · exact absurd (Std.LawfulEqCmp.eq_of_compare heq) hne

/-- In a list of edges in order of their targets no target comes twice. -/
theorem nodup_targets {es : List (Edge α)}
    (h : es.Pairwise fun a b => compare a.target b.target = .lt) :
    (es.map Edge.target).Nodup := by
  rw [List.Nodup, List.pairwise_map]
  refine h.imp ?_
  intro a b hlt heq
  have hself : compare b.target b.target = .eq := Std.ReflCmp.compare_self
  rw [show a.target = b.target from heq, hself] at hlt
  cases hlt

/-! ### Filters -/

theorem Shaped.keep {ids : List NodeId} {g : Adjacency α} (h : Shaped ids g) (p : Edge α → Bool) :
    Shaped ids (g.keep p) := by
  have hmem : ∀ u e, e ∈ (g.keep p).out u → e ∈ g.out u := by
    intro u e he
    rw [out_keep] at he
    exact (List.mem_filter.mp he).1
  refine ⟨fun v => mem_keep.trans (h.mem_iff v), fun u e he => h.sourced u e (hmem u e he),
    fun u e he => h.ends u e (hmem u e he), fun u => ?_⟩
  rw [out_keep]
  exact (h.sorted u).filter p

theorem mem_pairs {g : Adjacency α} {d : Direction} :
    d ∈ pairs g ↔ ∃ u, ∃ e ∈ g.out u, Direction.mk e.source e.target = d := by
  rw [pairs, Std.ExtTreeSet.mem_ofList, List.contains_iff_mem, List.mem_map]
  constructor
  · intro hx
    obtain ⟨e, he, rfl⟩ := hx
    obtain ⟨u, hu⟩ := mem_edges.mp he
    exact ⟨u, e, hu, rfl⟩
  · intro hx
    obtain ⟨u, e, he, rfl⟩ := hx
    exact ⟨e, mem_edges.mpr ⟨u, he⟩, rfl⟩

theorem mem_keepMutual {g : Adjacency α} (hg : g.WellSourced) {u : NodeId} {e : Edge α} :
    e ∈ (keepMutual g).out u ↔ e ∈ g.out u ∧ ∃ e' ∈ g.out e.target, e'.target = u := by
  rw [keepMutual, out_keep, List.mem_filter, Std.ExtTreeSet.contains_iff_mem, mem_pairs]
  refine and_congr_right fun he => ?_
  have hsrc := hg u e he
  constructor
  · intro hx
    obtain ⟨w, e', he', heq⟩ := hx
    obtain ⟨h1, h2⟩ := Direction.mk.inj heq
    rw [hg w e' he'] at h1
    exact ⟨e', h1 ▸ he', h2.trans hsrc⟩
  · intro hx
    obtain ⟨e', he', ht⟩ := hx
    exact ⟨e.target, e', he', by rw [hg _ e' he', ht, hsrc]⟩

theorem mutual_keepMutual {g : Adjacency α} (hg : g.WellSourced) : (keepMutual g).Mutual := by
  intro u e he
  obtain ⟨he, e', he', ht⟩ := (mem_keepMutual hg).mp he
  exact ⟨e', (mem_keepMutual hg).mpr ⟨he', e, ht ▸ he, rfl⟩, ht⟩

theorem mem_keepReached {m : Measurements α} {g : Adjacency α} {u : NodeId} {e : Edge α} :
    e ∈ (keepReached m g).out u ↔
      e ∈ g.out u ∧ (e.kind = .explicit ∨ m.reached e.source e.target = true) := by
  rw [keepReached, out_keep, List.mem_filter, Bool.or_eq_true, beq_iff_eq]

theorem Shaped.mem_usable {ids : List NodeId} {g : Adjacency α} (h : Shaped ids g)
    {m : Measurements α} {u : NodeId} {e : Edge α} :
    e ∈ (usable m g).out u ↔ e ∈ (keepReached m g).out u ∧
      ∃ e' ∈ (keepReached m g).out e.target, e'.target = u :=
  mem_keepMutual (h.keep _).sourced

/-- **The edges in use form a graph over the nodes, with edges in pairs.** -/
theorem shaped_usable {ids : List NodeId} {g : Adjacency α} (h : Shaped ids g)
    (m : Measurements α) : Shaped ids (usable m g) ∧ (usable m g).Mutual :=
  ⟨(h.keep _).keep _, mutual_keepMutual (h.keep _).sourced⟩

/-! ### Drawing edges -/

variable [Quantity α]

/-- A link changes nothing, or draws the edge between its ends. -/
theorem addLink_cases (c : GraphContext α) (live : NodeId → Bool) (table : NodeTable)
    (s : Adjacency α × Pairs) (l : Link α) :
    addLink c live table s l = s ∨
      ∃ src dst, table[l.source]? = some src ∧ table[l.target]? = some dst ∧
        l.active = true ∧ l.source ≠ l.target ∧ linkable live src dst = true ∧
        Direction.mk src.id dst.id ∉ s.2 ∧
        addLink c live table s l =
          (push s.1 (c.explicitEdge l src dst), s.2.insert ⟨src.id, dst.id⟩) := by
  unfold addLink
  split
  · exact Or.inl rfl
  · rename_i hactive
    simp only [Bool.or_eq_true, Bool.not_eq_true', beq_iff_eq, not_or, Bool.not_eq_false] at hactive
    split
    · rename_i src dst hsrc hdst
      split
      · rename_i hfit
        simp only [Bool.and_eq_true, Bool.not_eq_true', ← Bool.not_eq_true,
          Std.ExtTreeSet.contains_iff_mem] at hfit
        exact Or.inr ⟨src, dst, hsrc, hdst, hactive.1, hactive.2, hfit.1, hfit.2, rfl⟩
      · exact Or.inl rfl
    · exact Or.inl rfl

/-- A pair changes nothing, or has its implicit edge drawn. -/
theorem addPair_cases (c : GraphContext α) (live : NodeId → Bool) (dst : Node)
    (s : Adjacency α × Pairs) (src : Node) :
    addPair c live dst s src = s ∨
      c.joinable live src dst = true ∧ Direction.mk src.id dst.id ∉ s.2 ∧
        addPair c live dst s src =
          (push s.1 (c.implicitEdge src dst), s.2.insert ⟨src.id, dst.id⟩) := by
  unfold addPair
  split
  · rename_i hfit
    simp only [Bool.and_eq_true, Bool.not_eq_true', ← Bool.not_eq_true,
      Std.ExtTreeSet.contains_iff_mem] at hfit
    exact Or.inr ⟨hfit.1, hfit.2, rfl⟩
  · exact Or.inl rfl

section Build

variable {table : NodeTable} (hid : ∀ (v : NodeId) (n : Node), table[v]? = some n → n.id = v)

include hid

theorem Sketched.addLink {s : Adjacency α × Pairs} (h : Sketched table s) (c : GraphContext α)
    (live : NodeId → Bool) (l : Link α) : Sketched table (addLink c live table s l) := by
  rcases addLink_cases c live table s l with heq | ⟨src, dst, hsrc, hdst, -, hne, -, hnew, heq⟩
  · rw [heq]
    exact h
  · rw [heq]
    have hs := hid _ _ hsrc
    have hd := hid _ _ hdst
    refine h.push (e := c.explicitEdge l src dst) ?_ ?_ ?_ hnew
    · rw [show (c.explicitEdge l src dst).source = l.source from hs]
      exact Map.mem_iff_exists_getElem?.mpr ⟨src, hsrc⟩
    · rw [show (c.explicitEdge l src dst).target = l.target from hd]
      exact Map.mem_iff_exists_getElem?.mpr ⟨dst, hdst⟩
    · show dst.id ≠ src.id
      rw [hs, hd]
      exact hne.symm

theorem Sketched.addPair {s : Adjacency α × Pairs} (h : Sketched table s) (c : GraphContext α)
    (live : NodeId → Bool) {dst src : Node} (hdst : dst ∈ table.values) (hsrc : src ∈ table.values) :
    Sketched table (addPair c live dst s src) := by
  rcases addPair_cases c live dst s src with heq | ⟨hjoin, hnew, heq⟩
  · rw [heq]
    exact h
  · rw [heq]
    have hmem : ∀ n ∈ table.values, n.id ∈ table := by
      intro n hn
      obtain ⟨v, hv⟩ := Map.mem_values.mp hn
      exact Map.mem_iff_exists_getElem?.mpr ⟨n, hid v n hv ▸ hv⟩
    have hne : src.id ≠ dst.id := by
      simp only [GraphContext.joinable, Bool.and_eq_true, bne_iff_ne] at hjoin
      exact hjoin.1.1.1.1.1
    exact h.push (e := c.implicitEdge src dst) (hmem src hsrc) (hmem dst hdst) hne.symm hnew

theorem Sketched.links (c : GraphContext α) (live : NodeId → Bool) :
    ∀ (links : List (Link α)) {s : Adjacency α × Pairs}, Sketched table s →
      Sketched table (links.foldl (Candidates.addLink c live table) s) := by
  intro links
  induction links with
  | nil => intro s h; exact h
  | cons l links ih => intro s h; exact ih (h.addLink hid c live l)

theorem Sketched.sources (c : GraphContext α) (live : NodeId → Bool) {dst : Node}
    (hdst : dst ∈ table.values) :
    ∀ (srcs : List Node) {s : Adjacency α × Pairs}, (∀ n ∈ srcs, n ∈ table.values) →
      Sketched table s → Sketched table (srcs.foldl (Candidates.addPair c live dst) s) := by
  intro srcs
  induction srcs with
  | nil => intro s _ h; exact h
  | cons src srcs ih =>
      intro s hsrcs h
      exact ih (fun n hn => hsrcs n (by simp [hn])) (h.addPair hid c live hdst (hsrcs src (by simp)))

theorem Sketched.targets (c : GraphContext α) (live : NodeId → Bool) :
    ∀ (dsts : List Node) {s : Adjacency α × Pairs}, (∀ n ∈ dsts, n ∈ table.values) →
      Sketched table s →
      Sketched table (dsts.foldl
        (fun s dst => table.values.foldl (Candidates.addPair c live dst) s) s) := by
  intro dsts
  induction dsts with
  | nil => intro s _ h; exact h
  | cons dst dsts ih =>
      intro s hdsts h
      exact ih (fun n hn => hdsts n (by simp [hn]))
        (Sketched.sources hid c live (hdsts dst (by simp)) table.values (fun _ hn => hn) h)

end Build

/-- **The candidate graph is a graph over the nodes.** -/
theorem shaped_build (c : GraphContext α) (nodes : List Node) (links : List (Link α)) :
    Shaped (nodes.map Node.id) (build c nodes links) := by
  have hid : ∀ (v : NodeId) (n : Node), (NodeTable.ofList nodes)[v]? = some n → n.id = v :=
    fun v n h => (NodeTable.mem_of_getElem?_ofList h).2
  -- The edges are drawn link by link and then pair by pair, and sorted at the end.
  obtain ⟨s, hs, hbuild⟩ : ∃ s : Adjacency α × Pairs, Sketched (NodeTable.ofList nodes) s ∧
      build c nodes links = s.1.map fun _ es => byTarget es :=
    ⟨_, Sketched.targets hid c _ _ (fun _ hn => hn)
      (Sketched.links hid c _ links (sketched_start _)), rfl⟩
  have hmem : ∀ u e, e ∈ (build c nodes links).out u → e ∈ s.1.out u := by
    intro u e he
    rw [hbuild, out_map _ (List.mergeSort_nil)] at he
    exact List.mem_mergeSort.mp he
  refine ⟨fun v => ?_, fun u e he => ?_, fun u e he => ?_, fun u => ?_⟩
  · rw [hbuild, Std.ExtTreeMap.mem_map, hs.mem_iff, NodeTable.mem_ofList]
  · exact (hs.ends u e (hmem u e he)).1
  · obtain ⟨-, hne, ht⟩ := hs.ends u e (hmem u e he)
    exact ⟨hne, NodeTable.mem_ofList.mp ht⟩
  · rw [hbuild, out_map _ (List.mergeSort_nil)]
    exact pairwise_byTarget (hs.once u)

end Candidates

end TunnelMesh
