/-
What a region of a mesh sees of the rest.

A region is a set of ids that no edge crosses.  A search from a node of the region
reaches nodes of the region only, and looks at the edges of nodes that it reached, so
that two graphs with the same edges in the region give the same search: outside nodes
are never open, and having more of them only means that more rounds are allowed than
there is something left to settle.

Destinations, claims, first hops and entries follow, as they come from the search and
from what the table has for nodes of the region.
-/
import TunnelMesh.Proofs.Route.Drawing
import TunnelMesh.Proofs.Route.Return

namespace TunnelMesh

open Quantity Net

variable {α : Type} {inside : NodeId → Bool}

namespace Adjacency

/-- Two graphs with the same edges in a region that no edge of the first one crosses. -/
structure SameIn (inside : NodeId → Bool) (g g' : Adjacency α) : Prop where
  closed : ∀ u, ∀ e ∈ g.out u, inside u = inside e.target
  out_eq : ∀ u, inside u = true → g.out u = g'.out u

namespace SameIn

variable {g g' : Adjacency α}

theorem target (h : SameIn inside g g') {u : NodeId} (hu : inside u = true) {e : Edge α}
    (he : e ∈ g.out u) : inside e.target = true :=
  h.closed u e he ▸ hu

theorem path (h : SameIn inside g g') {es : List (Edge α)} :
    ∀ {u v : NodeId}, inside u = true → g.IsPath u es v → inside v = true := by
  induction es with
  | nil =>
      rintro u v hu rfl
      exact hu
  | cons e es ih =>
      rintro u v hu ⟨he, hes⟩
      exact ih (h.target hu he) hes

theorem edge?_eq (h : SameIn inside g g') {u : NodeId} (hu : inside u = true) (v : NodeId) :
    RouteGraph.edge? g u v = RouteGraph.edge? g' u v := by
  rw [RouteGraph.edge?, RouteGraph.edge?, h.out_eq u hu]

/-- The filters decide about an edge by the edge and those from its target. -/
theorem usable {ids ids' : List NodeId} (h : SameIn inside g g') (hg : Candidates.Shaped ids g)
    (hg' : Candidates.Shaped ids' g') (m : Measurements α) :
    SameIn inside (Candidates.usable m g) (Candidates.usable m g') := by
  refine ⟨fun u e he => ?_, fun u hu => ?_⟩
  · exact h.closed u e (Candidates.mem_keepReached.mp (hg.mem_usable.mp he).1).1
  · refine (Candidates.shaped_usable hg m).1.out_eq_out (Candidates.shaped_usable hg' m).1
      fun e => ?_
    rw [hg.mem_usable, hg'.mem_usable]
    simp only [Candidates.mem_keepReached, ← h.out_eq u hu]
    refine and_congr_right fun he => ?_
    rw [← h.out_eq e.target (h.target hu he.1)]

end SameIn

end Adjacency

/-! ### Searches -/

namespace Search

/-- Only nodes of the region were reached. -/
def StaysIn (inside : NodeId → Bool) (s : Search α) : Prop := ∀ v ∈ s.dist, inside v = true

variable [Quantity α] {g g' : Adjacency α} {ids ids' : List NodeId} {known known' : NodeId → Bool}
  {source : NodeId}

theorem Sound.staysIn {s : Search α} (h : Sound g ids source s) (hg : g.SameIn inside g')
    (hsource : inside source = true) : s.StaysIn inside := by
  intro v hv
  obtain ⟨d, hd⟩ := Map.mem_iff_exists_getElem?.mp hv
  obtain ⟨-, es, hes⟩ := h.reached v d hd
  exact hg.path hsource hes.branch.isPath

theorem StaysIn.of_open? {s : Search α} (h : s.StaysIn inside) {v : NodeId} {d : α}
    (hd : s.open? v = some d) : inside v = true :=
  h v (Map.mem_iff_exists_getElem?.mpr ⟨d, (open?_eq_some.mp hd).2.1⟩)

/-- Outside nodes are not open, and so never the nearest one. -/
theorem nearest?_filter {s : Search α} (h : s.StaysIn inside) (ids : List NodeId) :
    s.nearest? (ids.filter inside) = s.nearest? ids := by
  rw [nearest?, nearest?, List.foldl_filter]
  refine List.foldl_ext _ _ _ fun best v _ => ?_
  by_cases hv : inside v = true
  · rw [if_pos hv]
  · have hopen : s.open? v = none := by
      cases hd : s.open? v with
      | none => rfl
      | some d => exact absurd (h.of_open? hd) hv
    rw [if_neg hv, nearer, hopen]

theorem settle_congr (s : Search α) (u : NodeId) (d : α) {es : List (Edge α)}
    (h : ∀ e ∈ es, known e.target = known' e.target) :
    s.settle known u d es = s.settle known' u d es :=
  List.foldl_ext _ _ _ fun s e he => by rw [relax, relax, h e he]

/-- **Round by round the searches are the same.** -/
theorem run_congr (hg : g.SameIn inside g') (hids : ids.filter inside = ids'.filter inside)
    (hsource : inside source = true) (hids_of : ∀ v, known v = true → v ∈ ids)
    (hknown : ∀ v, inside v = true → known v = known' v) :
    ∀ (n : Nat) {s : Search α}, Sound g ids source s →
      run g ids known n s = run g' ids' known' n s := by
  intro n
  induction n with
  | zero => intro s _; rfl
  | succ n ih =>
      intro s hs
      have hin := hs.staysIn hg hsource
      have hnearest : s.nearest? ids = s.nearest? ids' := by
        rw [← nearest?_filter hin ids, hids, nearest?_filter hin ids']
      rw [run, run, ← hnearest]
      cases hnear : s.nearest? ids with
      | none => rfl
      | some best =>
          obtain ⟨u, d⟩ := best
          have hu : inside u = true := hin.of_open? (open?_of_nearest? hnear).2
          show run g ids known n (s.settle known u d (g.out u)) =
            run g' ids' known' n (s.settle known' u d (g'.out u))
          rw [ih (hs.settle hids_of hnear), ← hg.out_eq u hu,
            settle_congr s u d fun e he => hknown e.target (hg.target hu he)]

/-- Rounds after the last open node change nothing. -/
theorem run_of_le {n m : Nat} (hle : n ≤ m) :
    ∀ {s : Search α}, (run g ids known n s).nearest? ids = none →
      run g ids known m s = run g ids known n s := by
  induction n generalizing m with
  | zero =>
      intro s h
      rw [run] at h
      cases m with
      | zero => rfl
      | succ m => rw [run, run, h]
  | succ n ih =>
      intro s h
      obtain ⟨m, rfl⟩ : ∃ k, m = k + 1 := ⟨m - 1, by omega⟩
      rw [run] at h
      rw [run, run]
      cases hnear : s.nearest? ids with
      | none => rfl
      | some best =>
          rw [hnear] at h
          exact ih (by omega) h

/-- **A search from the region sees the region only.** -/
theorem shortestPaths_congr (hg : g.SameIn inside g')
    (hids : ids.filter inside = ids'.filter inside) (hsource : inside source = true) :
    shortestPaths g ids source = shortestPaths g' ids' source := by
  let known (ids : List NodeId) (v : NodeId) : Bool := (Std.ExtTreeSet.ofList ids).contains v
  have hmem : ∀ ids v, known ids v = true ↔ v ∈ ids := fun ids v => by simp [known]
  have hknown : ∀ v, inside v = true → known ids v = known ids' v := by
    intro v hv
    have hfilter : v ∈ ids.filter inside ↔ v ∈ ids'.filter inside := by rw [hids]
    rw [List.mem_filter, List.mem_filter, and_iff_left hv, and_iff_left hv] at hfilter
    rw [Bool.eq_iff_iff, hmem, hmem, hfilter]
  -- Both searches have rounds enough, and may have as many as the other one needs.
  have hend : ∀ (g : Adjacency α) ids,
      (run g ids (known ids) ids.length (start source)).nearest? ids = none :=
    fun g ids => nearest?_run _ _ _ (List.length_filter_le _ _)
  calc shortestPaths g ids source
      = run g ids (known ids) (max ids.length ids'.length) (start source) :=
        (run_of_le (Nat.le_max_left _ _) (hend g ids)).symm
    _ = run g' ids' (known ids') (max ids.length ids'.length) (start source) :=
        run_congr hg hids hsource (fun v => (hmem ids v).mp) hknown _ (sound_start g ids source)
    _ = shortestPaths g' ids' source := run_of_le (Nat.le_max_right _ _) (hend g' ids')

end Search

/-! ### Entries -/

namespace RouteGraph

/-- Two graphs with the same nodes and usable edges in a region. -/
structure SameIn (inside : NodeId → Bool) (g g' : RouteGraph α) : Prop where
  usable : g.usable.SameIn inside g'.usable
  table : ∀ v, inside v = true → g.table[v]? = g'.table[v]?

variable {nodes nodes' : List Node} {g g' : RouteGraph α}

/-- Nodes come in order of their ids. -/
theorem Indexed.pairwise_nodes (hg : Indexed nodes g) :
    g.nodes.Pairwise fun a b => compare a.id b.id = .lt := by
  rw [hg.nodes_eq, Map.values_eq_map_toList, List.pairwise_map]
  refine Std.ExtTreeMap.ordered_keys_toList.imp_of_mem fun {a b} ha hb hab => ?_
  rw [Std.ExtTreeMap.mem_toList_iff_getElem?_eq_some] at ha hb
  rw [((hg.lookup _ _).mp ha).2, ((hg.lookup _ _).mp hb).2]
  exact hab

namespace SameIn

theorem nodes_filter (h : SameIn inside g g') (hg : Indexed nodes g) (hg' : Indexed nodes' g') :
    (g.nodes.filter fun n => inside n.id) = g'.nodes.filter fun n => inside n.id := by
  have hself : ∀ {nodes : List Node} {g : RouteGraph α}, Indexed nodes g → ∀ n,
      n ∈ g.nodes ↔ g.table[n.id]? = some n := by
    intro nodes g hg n
    rw [hg.mem_nodes, hg.lookup]
    exact (and_iff_left rfl).symm
  refine Map.eq_of_pairwise (fun a b => Std.OrientedCmp.not_lt_of_lt)
    (hg.pairwise_nodes.filter _) (hg'.pairwise_nodes.filter _) fun n => ?_
  rw [List.mem_filter, List.mem_filter]
  refine and_congr_left fun hn => ?_
  rw [hself hg, hself hg', h.table n.id hn]

variable [Quantity α]

section

variable (h : SameIn inside g g') (hg : Indexed nodes g) (hg' : Indexed nodes' g')
  {source : NodeId} (hsource : inside source = true)

include h hg hg' hsource

theorem searchFrom_eq : g.searchFrom source = g'.searchFrom source := by
  refine Search.shortestPaths_congr h.usable ?_ hsource
  rw [ids, ids, List.filter_map, List.filter_map]
  exact congrArg _ (h.nodes_filter hg hg')

/-- Destinations were reached, so that they are in the region. -/
theorem destinations_eq : g.destinations (g.searchFrom source) source =
    g'.destinations (g.searchFrom source) source := by
  have hin : (g.searchFrom source).StaysIn inside :=
    (Search.sound_shortestPaths _ _ _).staysIn h.usable hsource
  generalize g.searchFrom source = s at hin
  have hfilter : ∀ nodes : List Node, (nodes.filterMap fun n =>
      if n.id = source then none else (s.dist[n.id]?.filter finite).map fun d => (n, d)) =
      (nodes.filter fun n => inside n.id).filterMap fun n =>
        if n.id = source then none else (s.dist[n.id]?.filter finite).map fun d => (n, d) := by
    intro nodes
    rw [List.filterMap_filter]
    refine List.filterMap_congr fun n _ => ?_
    by_cases hn : inside n.id = true
    · rw [if_pos hn]
    · have hnone : s.dist[n.id]? = none :=
        Std.ExtTreeMap.getElem?_eq_none fun hmem => hn (hin _ hmem)
      rw [if_neg hn, hnone]
      simp
  rw [destinations, destinations, hfilter g.nodes, hfilter g'.nodes, h.nodes_filter hg hg']

end

section

variable (h : SameIn inside g g') (hg : Indexed nodes g) (hg' : Indexed nodes' g')
  {source : Node} (hsource : inside source.id = true)

include h hg hg' hsource

theorem claims_eq :
    g.claims (g.searchFrom source.id) source = g'.claims (g'.searchFrom source.id) source := by
  rw [← h.searchFrom_eq hg hg' hsource, claims, claims, h.destinations_eq hg hg' hsource]

/-- First hops are next to the source, so that they are in the region. -/
theorem hops_eq : g.hops source = g'.hops source := by
  rw [hops, hops, ← h.claims_eq hg hg' hsource]
  refine List.filterMap_congr ?_
  rintro ⟨hop, nets⟩ hmem
  obtain ⟨⟨n, hn⟩, hiff⟩ := exists_of_byHop_claims g (g.searchFrom source.id) source
    (Std.ExtTreeMap.mem_toList_iff_getElem?_eq_some.mp hmem)
  obtain ⟨-, -, e, he, ht⟩ := adjacent_of_holder? ((hiff n).mp hn)
  show g.table[hop]?.map _ = g'.table[hop]?.map _
  rw [h.table hop (ht ▸ h.usable.target hsource he)]

/-- **Nodes of the region have the same entries and edges.** -/
theorem assemble_eq (keepalive : Option UInt16) :
    g.assemble keepalive source = g'.assemble keepalive source := by
  have hentry : ∀ hop nets,
      g.entry keepalive source.id hop nets = g'.entry keepalive source.id hop nets := by
    intro hop nets
    rw [entry, entry, h.usable.edge?_eq hsource]
  rw [RouteGraph.assemble_eq, RouteGraph.assemble_eq, ← h.hops_eq hg hg' hsource]
  simp only [hentry, h.usable.edge?_eq hsource]

omit hsource in
theorem assembled_eq (keepalive : Option UInt16) {v : NodeId} (hv : inside v = true) :
    (g.table.map fun _ n => g.assemble keepalive n)[v]? =
      (g'.table.map fun _ n => g'.assemble keepalive n)[v]? := by
  rw [Std.ExtTreeMap.getElem?_map, Std.ExtTreeMap.getElem?_map, ← h.table v hv]
  cases hn : g.table[v]? with
  | none => rw [Option.map_none, Option.map_none]
  | some n =>
      obtain ⟨-, rfl⟩ := (hg.lookup v n).mp hn
      rw [Option.map_some, Option.map_some, h.assemble_eq hg hg' hv keepalive]

omit hsource in
theorem assembledLists_eq (keepalive : Option UInt16) {v : NodeId} (hv : inside v = true) :
    (g.assembledLists keepalive).getD v [] = (g'.assembledLists keepalive).getD v [] := by
  have hlists : ∀ g : RouteGraph α, (g.assembledLists keepalive).getD v [] =
      ((g.table.map fun _ n => g.assemble keepalive n)[v]?.map Prod.fst).getD [] := by
    intro g
    rw [assembledLists, Std.ExtTreeMap.getD_map, Std.ExtTreeMap.getElem?_map, Option.map_map]
    rfl
  rw [hlists, hlists, h.assembled_eq hg hg' keepalive hv]

end

end SameIn

end RouteGraph

end TunnelMesh
