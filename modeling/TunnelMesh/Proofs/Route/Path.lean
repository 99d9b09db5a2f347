/-
Paths of a graph and what they cost.

A path is a row of edges, each leaving the node that the one before leads to.  Its
cost is added up from the start, so that an edge at the end adds its weight to the
cost of the rest; nothing is assumed of addition for that.  The distance between
two nodes is the least cost of a path.
-/
import Mathlib.Data.List.Induction
import TunnelMesh.Mesh.Link
import TunnelMesh.Proofs.Route.Quantity

namespace TunnelMesh

open Quantity

namespace Adjacency

variable {α : Type}

/-- A row of edges that leads from one node to another. -/
def IsPath (g : Adjacency α) (u : NodeId) : List (Edge α) → NodeId → Prop
  | [], v => u = v
  | e :: es, v => e ∈ g.out u ∧ IsPath g e.target es v

/-- The nodes on a path, the first one first. -/
def visited (u : NodeId) (es : List (Edge α)) : List NodeId := u :: es.map Edge.target

/-- Whether edges lead from one node to another. -/
def Reaches (g : Adjacency α) (u v : NodeId) : Prop := ∃ es, g.IsPath u es v

/-- What the edges of a path cost, added up from its start. -/
def cost [Quantity α] (es : List (Edge α)) : α :=
  es.foldl (fun d e => add d e.weight) (ofNat 0)

/-- The least cost of a path from one node to another. -/
def IsDistance [Quantity α] (g : Adjacency α) (u v : NodeId) (d : α) : Prop :=
  (∃ es, g.IsPath u es v ∧ cost es = d) ∧ ∀ es, g.IsPath u es v → leq d (cost es) = true

/-- No edge has a negative weight, or one that is no number. -/
def NonNegative [Quantity α] (g : Adjacency α) : Prop :=
  ∀ u, ∀ e ∈ g.out u, leq (ofNat 0) e.weight = true

/-- Every path from a node that visits no node twice has a finite cost. -/
def FinitePaths [Quantity α] (g : Adjacency α) (u : NodeId) : Prop :=
  ∀ es v, g.IsPath u es v → (visited u es).Nodup → finite (cost es : α) = true

/-- Every edge leads to one of the nodes. -/
def LeadsInto (g : Adjacency α) (ids : List NodeId) : Prop :=
  ∀ u, ∀ e ∈ g.out u, e.target ∈ ids

/-- Edges are listed at their sources. -/
def WellSourced (g : Adjacency α) : Prop := ∀ u, ∀ e ∈ g.out u, e.source = u

/-- An edge in each direction, or none. -/
def Mutual (g : Adjacency α) : Prop :=
  ∀ u, ∀ e ∈ g.out u, ∃ e' ∈ g.out e.target, e'.target = u

/-! ### Paths -/

theorem isPath_append {g : Adjacency α} {u v : NodeId} {es es' : List (Edge α)} :
    g.IsPath u (es ++ es') v ↔ ∃ w, g.IsPath u es w ∧ g.IsPath w es' v := by
  induction es generalizing u with
  | nil => simp [IsPath]
  | cons e es ih => simp [IsPath, ih, and_assoc]

theorem IsPath.concat {g : Adjacency α} {u w : NodeId} {es : List (Edge α)} {e : Edge α}
    (h : g.IsPath u es w) (he : e ∈ g.out w) : g.IsPath u (es ++ [e]) e.target :=
  isPath_append.mpr ⟨w, h, he, rfl⟩

theorem reaches_refl (g : Adjacency α) (u : NodeId) : g.Reaches u u := ⟨[], rfl⟩

theorem Reaches.concat {g : Adjacency α} {u w : NodeId} {e : Edge α} (h : g.Reaches u w)
    (he : e ∈ g.out w) : g.Reaches u e.target := by
  obtain ⟨es, hes⟩ := h
  exact ⟨es ++ [e], hes.concat he⟩

theorem Reaches.of_any {g : Adjacency α} {u w v : NodeId} (h : g.Reaches u w)
    (hv : ((g.out w).any fun e => e.target == v) = true) : g.Reaches u v := by
  obtain ⟨e, he, ht⟩ := List.any_eq_true.mp hv
  rw [← beq_iff_eq.mp ht]
  exact h.concat he

@[simp] theorem visited_concat (u : NodeId) (es : List (Edge α)) (e : Edge α) :
    visited u (es ++ [e]) = visited u es ++ [e.target] := by
  simp [visited]

theorem nodup_visited_concat {u : NodeId} {es : List (Edge α)} {e : Edge α}
    (h : (visited u es).Nodup) (he : e.target ∉ visited u es) :
    (visited u (es ++ [e])).Nodup := by
  rw [visited_concat]
  refine List.nodup_append.mpr ⟨h, by simp, ?_⟩
  intro x hx y hy hxy
  rw [List.mem_singleton.mp hy] at hxy
  exact he (hxy ▸ hx)

theorem mem_visited_self (u : NodeId) (es : List (Edge α)) : u ∈ visited u es := by
  simp [visited]

/-! ### Costs -/

section Cost

variable [Quantity α]

@[simp] theorem cost_concat (es : List (Edge α)) (e : Edge α) :
    cost (es ++ [e]) = add (cost es) e.weight := by
  simp [cost]

theorem IsPath.zero_leq_cost [OrderedQuantity α] {g : Adjacency α} (hg : g.NonNegative)
    {u v : NodeId} {es : List (Edge α)} (h : g.IsPath u es v) :
    leq (ofNat 0) (cost es : α) = true := by
  induction es using List.reverseRecOn generalizing v with
  | nil => exact OrderedQuantity.zero_leq_zero
  | append_singleton es e ih =>
      obtain ⟨w, hes, he, -⟩ := isPath_append.mp h
      rw [cost_concat]
      exact OrderedQuantity.zero_leq_add (ih hes) (hg w e he)

end Cost

end Adjacency

end TunnelMesh
