/-
Plans do not depend on how nodes and links are listed.

The candidate edge between two nodes comes from these nodes and the links from the one
to the other, and of these links the first active one counts.  So nodes may come in any
order, and links too as long as those with the same ends keep theirs.  Everything after
the candidate graph is computed from tables, which have no order but that of their keys.
-/
import TunnelMesh.Proofs.Route.Drawing
import TunnelMesh.Proofs.Route.Plan

namespace TunnelMesh

variable {α : Type}

/-! ### Links in another order -/

/-- The same links, those with the same ends in the same order. -/
structure Rearranged (links links' : List (Link α)) : Prop where
  perm : links.Perm links'
  between : ∀ u v, linksBetween links u v = linksBetween links' u v

/-- Links with the same ends are all that has to be compared. -/
theorem Rearranged.of_between {links links' : List (Link α)}
    (h : ∀ u v, linksBetween links u v = linksBetween links' u v) : Rearranged links links' := by
  classical
  refine ⟨List.perm_iff_count.mpr fun l => ?_, h⟩
  have hcount : ∀ ls : List (Link α), (linksBetween ls l.source l.target).count l = ls.count l :=
    fun ls => List.count_filter (by simp)
  rw [← hcount links, ← hcount links', h]

/-- Two blocks without common ends may trade places. -/
theorem Rearranged.append_comm {links links' : List (Link α)}
    (h : ∀ l ∈ links, ∀ l' ∈ links', ¬(l.source = l'.source ∧ l.target = l'.target)) :
    Rearranged (links ++ links') (links' ++ links) := by
  refine .of_between fun u v => ?_
  rw [linksBetween, linksBetween, List.filter_append, List.filter_append]
  -- At most one of the two blocks has links with these ends.
  by_cases hl : ∃ l ∈ links, l.source = u ∧ l.target = v
  · obtain ⟨l, hl, rfl, rfl⟩ := hl
    have hnil : (links'.filter fun l' => l'.source == l.source && l'.target == l.target) = [] := by
      refine List.filter_eq_nil_iff.mpr fun l' hl' heq => h l hl l' hl' ?_
      rw [Bool.and_eq_true, beq_iff_eq, beq_iff_eq] at heq
      exact ⟨heq.1.symm, heq.2.symm⟩
    rw [hnil, List.append_nil, List.nil_append]
  · have hnil : (links.filter fun l => l.source == u && l.target == v) = [] := by
      refine List.filter_eq_nil_iff.mpr fun l hmem heq => hl ⟨l, hmem, ?_⟩
      rwa [Bool.and_eq_true, beq_iff_eq, beq_iff_eq] at heq
    rw [hnil, List.append_nil, List.nil_append]

/-! ### Plans -/

section Compute

variable [Quantity α] (c : GraphContext α) {nodes nodes' : List Node} {links links' : List (Link α)}
  (h : (nodes.map Node.id).Nodup) (hnodes : nodes.Perm nodes')

include h hnodes

theorem Candidates.build_perm (hlinks : Rearranged links links') :
    build c nodes links = build c nodes' links' := by
  have h' : (nodes'.map Node.id).Nodup := (hnodes.map Node.id).nodup_iff.mp h
  refine (shaped_build c nodes links).eq (shaped_build c nodes' links')
    (fun v => (hnodes.map Node.id).mem_iff) fun u e => ?_
  rw [mem_out_build c h, mem_out_build c h']
  simp only [hnodes.mem_iff, fun a b : Node => c.candidate?_congr (hlinks.between a.id b.id)]

theorem RouteGraph.of_perm (usable : Adjacency α) : of nodes usable = of nodes' usable := by
  have h' : (nodes'.map Node.id).Nodup := (hnodes.map Node.id).nodup_iff.mp h
  have htable : (of nodes usable).table = (of nodes' usable).table :=
    (indexed_of h usable).table_eq (indexed_of h' usable) fun n => hnodes.mem_iff
  exact congrArg (fun t : NodeTable => (⟨t.values, t, usable⟩ : RouteGraph α)) htable

/-- **The whole plan stays the same when nodes and links come in another order.** -/
theorem RoutingPlan.compute_perm (hlinks : Rearranged links links') :
    compute c nodes links = compute c nodes' links' := by
  have hraw := Candidates.build_perm c h hnodes hlinks
  rw [compute, compute, hraw, RouteGraph.of_perm h hnodes]

end Compute

/-! ### A row from its other end -/

namespace Sample

/-- Two links from the first to the second node, and one back. -/
def doubled : List (Link ℚ) :=
  (Link.new ⟨1⟩ ⟨2⟩).withHints 500 100 :: Link.pair ⟨1⟩ ⟨2⟩ 10 100

/-- The rest of the row. -/
def remaining : List (Link ℚ) := Link.pair ⟨2⟩ ⟨3⟩ 10 100 ++ Link.pair ⟨3⟩ ⟨4⟩ 10 100

end Sample

theorem RoutingPlan.compute_perm_row :
    (Sample.row.map Node.id).Nodup ∧ Sample.row.Perm Sample.row.reverse ∧
      Rearranged (Sample.doubled ++ Sample.remaining) (Sample.remaining ++ Sample.doubled) ∧
      compute Sample.context Sample.row (Sample.doubled ++ Sample.remaining) =
        compute Sample.context Sample.row.reverse (Sample.remaining ++ Sample.doubled) := by
  have hnodup : (Sample.row.map Node.id).Nodup := by decide
  have hperm : Sample.row.Perm Sample.row.reverse := (List.reverse_perm _).symm
  have hlinks : Rearranged (Sample.doubled ++ Sample.remaining)
      (Sample.remaining ++ Sample.doubled) := .append_comm (by decide)
  exact ⟨hnodup, hperm, hlinks, compute_perm Sample.context hnodup hperm hlinks⟩

end TunnelMesh
