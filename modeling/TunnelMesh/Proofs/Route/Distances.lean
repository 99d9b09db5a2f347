/-
What a search tells about every node.

A graph may have edges to nodes that are not searched; they are passed over, so that
the search is that of the graph without them.  There every edge leads to a node that
is searched, and what was shown of such graphs applies: a node has a finite distance
exactly if edges lead to it, the distance is the least cost of a path, and the
pointers spell out a path that costs no more.

Nothing is asked of the weights but that they are not negative and that the sums
along paths stay finite, which exact numbers always do.
-/
import Mathlib
import TunnelMesh.Proofs.Route.Candidates
import TunnelMesh.Proofs.Route.Coverage

namespace TunnelMesh

open Quantity Adjacency

variable {α : Type}

/-- The graph without edges to other nodes than the given ones. -/
def Adjacency.among (g : Adjacency α) (ids : List NodeId) : Adjacency α :=
  g.keep fun e => ids.contains e.target

theorem Adjacency.mem_out_among {g : Adjacency α} {ids : List NodeId} {u : NodeId} {e : Edge α} :
    e ∈ (g.among ids).out u ↔ e ∈ g.out u ∧ e.target ∈ ids := by
  rw [among, out_keep, List.mem_filter, List.contains_iff_mem]

theorem Adjacency.leadsInto_among (g : Adjacency α) (ids : List NodeId) :
    (g.among ids).LeadsInto ids :=
  fun _ _ he => (mem_out_among.mp he).2

namespace Search

variable [Quantity α] {g : Adjacency α} {ids : List NodeId} {source : NodeId}

/-! ### Edges to other nodes -/

theorem settle_among {known : NodeId → Bool} (hknown : ∀ v, known v = ids.contains v) (s : Search α)
    (u : NodeId) (d : α) :
    s.settle known u d ((g.among ids).out u) = s.settle known u d (g.out u) := by
  rw [settle, settle, among, out_keep, List.foldl_filter]
  refine List.foldl_ext _ _ _ fun s e _ => ?_
  by_cases he : ids.contains e.target = true
  · rw [if_pos he]
  · rw [if_neg he, relax, hknown, Bool.not_eq_true _ |>.mp he]
    rfl

theorem run_among {known : NodeId → Bool} (hknown : ∀ v, known v = ids.contains v) :
    ∀ (n : Nat) (s : Search α), run (g.among ids) ids known n s = run g ids known n s := by
  intro n
  induction n with
  | zero => intro s; rfl
  | succ n ih =>
      intro s
      rw [run, run]
      cases s.nearest? ids with
      | none => rfl
      | some best =>
          obtain ⟨u, d⟩ := best
          dsimp only
          rw [ih, settle_among hknown]

/-- **Edges to nodes that are not searched do not count.** -/
theorem shortestPaths_among (g : Adjacency α) (ids : List NodeId) (source : NodeId) :
    shortestPaths (g.among ids) ids source = shortestPaths g ids source :=
  run_among (fun v => by simp) _ _

/-! ### Distances and first hops -/

/-- What a search says of a node is true. -/
structure Resolves (g : Adjacency α) (source : NodeId) (s : Search α) (v : NodeId) : Prop where
  /-- The node has a finite distance exactly if edges lead to it. -/
  reached : (∃ d, s.dist[v]? = some d ∧ finite d = true) ↔ g.Reaches source v
  /-- A distance is the least cost of a path. -/
  least : ∀ d, s.dist[v]? = some d → finite d = true ∧ g.IsDistance source v d
  /-- The pointers of a node that was reached spell out a path of least cost, and the first hop is
  its second node. -/
  path : ∀ d, s.dist[v]? = some d → ∃ es, Branch g s source v es ∧ g.IsPath source es v ∧
    cost es = d ∧ s.firstHop source v = (visited source es)[1]?
  /-- A node that was not reached has no first hop. -/
  lost : s.dist[v]? = none → s.firstHop source v = none

theorem Sound.firstHop_eq_none {s : Search α} (h : Sound g ids source s) {v : NodeId}
    (hv : s.dist[v]? = none) : s.firstHop source v = none := by
  rw [Option.eq_none_iff_forall_ne_some]
  intro hop hhop
  obtain ⟨d, -, -, hd, -⟩ := h.firstHop_eq_some.mp hhop
  rw [hv] at hd
  cases hd

/-- **Shortest paths are shortest.** -/
theorem resolves_shortestPaths [OrderedQuantity α] (hg : (g.among ids).NonNegative)
    (hfin : (g.among ids).FinitePaths source) (hsource : source ∈ ids) (v : NodeId) :
    Resolves (g.among ids) source (shortestPaths g ids source) v := by
  rw [← shortestPaths_among]
  have hs := sound_shortestPaths (g.among ids) ids source
  have hin := leadsInto_among g ids
  refine ⟨?_, fun d hd => ⟨hs.finite hfin hd, isDistance_of_dist hg hfin hin hsource hd⟩,
    fun d hd => ?_, hs.firstHop_eq_none⟩
  · rw [← mem_dist_iff_reaches hg hfin hin hsource, Map.mem_iff_exists_getElem?]
    exact exists_congr fun d => and_iff_left_of_imp (hs.finite hfin)
  · obtain ⟨-, es, hes⟩ := hs.reached v d hd
    refine ⟨es, hes.branch, hes.branch.isPath, hes.cost_eq, ?_⟩
    rw [hs.firstHop_eq hes]
    cases es <;> rfl

namespace Sample

/-- Nodes 1 to 4. -/
def four : List NodeId := [⟨1⟩, ⟨2⟩, ⟨3⟩, ⟨4⟩]

def edge (u v : UInt64) (weight : ℚ) : Edge ℚ := ⟨⟨u⟩, ⟨v⟩, .explicit, 0, 0, none, weight, []⟩

/-- Two edges lead from 1 to 2, the way on to 3 costs nothing, and only over 9, which is none of the
four, does a way lead to 4. -/
def forked : Adjacency ℚ :=
  (∅ : Adjacency ℚ).insert ⟨1⟩ [edge 1 2 2, edge 1 2 1, edge 1 3 5, edge 1 9 0]
    |>.insert ⟨2⟩ [edge 2 3 0] |>.insert ⟨9⟩ [edge 9 4 1]

end Sample

theorem resolves_shortestPaths_forked :
    (Sample.forked.among Sample.four).NonNegative ∧
      (Sample.forked.among Sample.four).FinitePaths ⟨1⟩ ∧ ⟨1⟩ ∈ Sample.four ∧
      (shortestPaths Sample.forked Sample.four ⟨1⟩).dist[(⟨3⟩ : NodeId)]? = some 1 ∧
      (shortestPaths Sample.forked Sample.four ⟨1⟩).firstHop ⟨1⟩ ⟨3⟩ = some ⟨2⟩ ∧
      (shortestPaths Sample.forked Sample.four ⟨1⟩).dist[(⟨4⟩ : NodeId)]? = none ∧
      ∀ v, Resolves (Sample.forked.among Sample.four) ⟨1⟩
        (shortestPaths Sample.forked Sample.four ⟨1⟩) v := by
  have hg : (Sample.forked.among Sample.four).NonNegative := by
    have hall : ((Sample.forked.among Sample.four).edges.all fun e => leq (ofNat 0) e.weight) =
        true := by cbv
    exact nonNegative_of_edges (List.all_eq_true.mp hall)
  have hfin : (Sample.forked.among Sample.four).FinitePaths ⟨1⟩ := fun _ _ _ _ => rfl
  have hsource : ⟨1⟩ ∈ Sample.four := List.mem_cons_self
  exact ⟨hg, hfin, hsource, by cbv, by cbv, by cbv, resolves_shortestPaths hg hfin hsource⟩

end Search

end TunnelMesh
