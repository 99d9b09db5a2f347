/-
Walking back to the first hop always ends.

`firstHop` follows pointers for as many steps as there are pointers, and a walk that was
cut off would look like one that found nothing.  `WalksBack` is the walk without a limit
on its steps: a node stands in it with a result only if the walk from there ends.

A node has a pointer exactly if some edge to it was relaxed, and then the pointers spell
out a branch of the tree, so that the walk from it climbs down the branch to the source.
Nothing is asked of the weights: they may be negative, infinite or no numbers at all.
-/
import TunnelMesh.Proofs.Route.Tree

namespace TunnelMesh.Search

open Quantity Adjacency

variable {α : Type} {g : Adjacency α} {ids : List NodeId} {source v : NodeId}

/-! ### The walk -/

/-- The walk from a node back to the source ends with a result: nothing where there is no pointer to
follow, and else the node whose pointer leads to the source. -/
inductive WalksBack (parent : Std.ExtTreeMap NodeId NodeId) (source : NodeId) :
    NodeId → Option NodeId → Prop
  | lost {v : NodeId} (h : parent[v]? = none) : WalksBack parent source v none
  | found {v : NodeId} (h : parent[v]? = some source) : WalksBack parent source v (some v)
  | back {v u : NodeId} {hop : Option NodeId} (h : parent[v]? = some u) (hne : u ≠ source)
      (hu : WalksBack parent source u hop) : WalksBack parent source v hop

/-- A walk has one result. -/
theorem WalksBack.unique {parent : Std.ExtTreeMap NodeId NodeId} {hop hop' : Option NodeId}
    (h : WalksBack parent source v hop) (h' : WalksBack parent source v hop') : hop = hop' := by
  induction h with
  | lost hp =>
      cases h' with
      | lost => rfl
      | found hp' | back hp' => exact absurd (hp.symm.trans hp') (by simp)
  | found hp =>
      cases h' with
      | lost hp' => exact absurd (hp.symm.trans hp') (by simp)
      | found => rfl
      | back hp' hne => exact absurd (Option.some.inj (hp.symm.trans hp')).symm hne
  | back hp hne _ ih =>
      cases h' with
      | lost hp' => exact absurd (hp.symm.trans hp') (by simp)
      | found hp' => exact absurd (Option.some.inj (hp.symm.trans hp')) hne
      | back hp' _ hu =>
          cases Option.some.inj (hp.symm.trans hp')
          exact ih hu

/-- The walk along a branch ends with the first edge of the branch. -/
theorem walksBack_branch {s : Search α} (hs : s.parent[source]? = none) {es : List (Edge α)}
    (h : Branch g s source v es) :
    WalksBack s.parent source v (es.head?.map Edge.target) := by
  induction h with
  | root => exact .lost hs
  | @grow u es e hu _ hp ih =>
      by_cases husrc : u = source
      · subst husrc
        rw [hu.eq_nil hs]
        exact .found hp
      · cases hu with
        | root => exact absurd rfl husrc
        | @grow w fs f hw hf hq =>
            have hhead : (fs ++ [f] ++ [e]).head? = (fs ++ [f]).head? := by simp [List.head?_append]
            rw [hhead]
            exact .back hp husrc ih

/-! ### Relaxed edges -/

variable [Quantity α]

/-- The nodes that are reached anew while edges of a node are relaxed, in order. -/
def relaxedAlong (known : NodeId → Bool) (u : NodeId) (d : α) (s : Search α) :
    List (Edge α) → List NodeId
  | [] => []
  | e :: es =>
    let rest := relaxedAlong known u d (relax known d s e u) es
    if known e.target && !s.settled.contains e.target && s.improves e.target (add d e.weight) then
      e.target :: rest
    else rest

/-- The nodes that are reached anew while up to `n` nodes are settled, in order. -/
def relaxedIn (g : Adjacency α) (ids : List NodeId) (known : NodeId → Bool) :
    Nat → Search α → List NodeId
  | 0, _ => []
  | n + 1, s =>
    match s.nearest? ids with
    | none => []
    | some (u, d) =>
      relaxedAlong known u d (s.mark u) (g.out u) ++
        relaxedIn g ids known n (s.settle known u d (g.out u))

/-- The nodes that are relaxed in a search, each as often as it is. -/
def relaxed (g : Adjacency α) (ids : List NodeId) (source : NodeId) : List NodeId :=
  let known : Std.ExtTreeSet NodeId := .ofList ids
  relaxedIn g ids (fun v => known.contains v) ids.length (start source)

theorem mem_parent_relaxAll (known : NodeId → Bool) (u : NodeId) (d : α) :
    ∀ (es : List (Edge α)) (s : Search α),
      v ∈ (relaxAll known u d s es).parent ↔ v ∈ s.parent ∨ v ∈ relaxedAlong known u d s es := by
  intro es
  induction es with
  | nil => intro s; simp [relaxAll, relaxedAlong]
  | cons e es ih =>
      intro s
      have hfold : relaxAll known u d s (e :: es) = relaxAll known u d (relax known d s e u) es := rfl
      rw [hfold, ih, relaxedAlong]
      by_cases hc : (known e.target && !s.settled.contains e.target &&
          s.improves e.target (add d e.weight)) = true
      · have hrelax : relax known d s e u = s.reach e.target (add d e.weight) u := by
          rw [relax]
          exact if_pos hc
        rw [if_pos hc, hrelax, Map.mem_iff_exists_getElem?, getElem?_parent_reach,
          Map.mem_iff_exists_getElem?, List.mem_cons]
        by_cases hv : e.target = v
        · simp [hv]
        · simp [hv, Ne.symm hv]
      · have hrelax : relax known d s e u = s := by
          rw [relax]
          exact if_neg hc
        rw [if_neg hc, hrelax]

theorem mem_parent_run {known : NodeId → Bool} :
    ∀ (n : Nat) (s : Search α),
      v ∈ (run g ids known n s).parent ↔ v ∈ s.parent ∨ v ∈ relaxedIn g ids known n s := by
  intro n
  induction n with
  | zero => intro s; simp [run, relaxedIn]
  | succ n ih =>
      intro s
      rw [run, relaxedIn]
      cases s.nearest? ids with
      | none => simp
      | some best =>
          obtain ⟨u, d⟩ := best
          dsimp only
          have hmark : (s.mark u).parent = s.parent := rfl
          rw [ih, settle_eq, mem_parent_relaxAll, hmark, List.mem_append, or_assoc]

/-- **The nodes with a pointer are those that were relaxed.** -/
theorem mem_parent_shortestPaths :
    v ∈ (shortestPaths g ids source).parent ↔ v ∈ relaxed g ids source := by
  rw [shortestPaths, mem_parent_run, relaxed]
  simp [start]

/-! ### What comes of the walk -/

/-- The walk from any node ends with its first hop. -/
theorem Sound.walksBack {s : Search α} (h : Sound g ids source s) (v : NodeId) :
    WalksBack s.parent source v (s.firstHop source v) := by
  cases hp : s.parent[v]? with
  | none =>
      rw [firstHop, climb, hp]
      exact .lost hp
  | some u =>
      obtain ⟨-, hv, -⟩ := h.parent_settled v u hp
      obtain ⟨d, hd⟩ := Map.mem_iff_exists_getElem?.mp hv
      obtain ⟨-, es, hes⟩ := h.reached v d hd
      rw [h.firstHop_eq hes]
      exact walksBack_branch h.parent_source hes.branch

theorem Sound.firstHop_eq_none_iff {s : Search α} (h : Sound g ids source s) :
    s.firstHop source v = none ↔ v ∉ s.parent := by
  have hwalk := h.walksBack v
  rw [Map.mem_iff_exists_getElem?, not_exists]
  constructor
  · intro hnone u hp
    -- A node with a pointer has a branch that is not empty.
    obtain ⟨-, hv, hne⟩ := h.parent_settled v u hp
    obtain ⟨d, hd⟩ := Map.mem_iff_exists_getElem?.mp hv
    obtain ⟨-, es, hes⟩ := h.reached v d hd
    rw [h.firstHop_eq hes, Option.map_eq_none_iff, List.head?_eq_none_iff] at hnone
    subst hnone
    exact hne hes.branch.isPath.symm
  · intro hp
    exact hwalk.unique (.lost (Option.eq_none_iff_forall_ne_some.mpr hp))

/-- What is promised of the walk back from a node after a search. -/
structure LeadsToFirstHop (g : Adjacency α) (ids : List NodeId) (source v : NodeId) : Prop where
  /-- The walk ends, and the first hop is its result. -/
  ends : ∀ hop, WalksBack (shortestPaths g ids source).parent source v hop ↔
    (shortestPaths g ids source).firstHop source v = hop
  /-- It finds nothing exactly from the source and from nodes that were never relaxed. -/
  none_iff : (shortestPaths g ids source).firstHop source v = none ↔
    v = source ∨ v ∉ relaxed g ids source
  /-- What it finds is another node than the source, to which the source has an edge. -/
  next : ∀ hop, (shortestPaths g ids source).firstHop source v = some hop →
    hop ≠ source ∧ hop ∈ ids ∧ ∃ e ∈ g.out source, e.target = hop

/-- **Walking back to the first hop always ends**, for any nodes, edges and weights. -/
theorem leadsToFirstHop_shortestPaths (g : Adjacency α) (ids : List NodeId) (source v : NodeId) :
    LeadsToFirstHop g ids source v := by
  have hs := sound_shortestPaths g ids source
  refine ⟨fun hop => ⟨fun hwalk => ?_, fun heq => ?_⟩, ?_, fun hop hhop => hs.firstHop_adjacent hhop⟩
  · exact (hs.walksBack v).unique hwalk
  · rw [← heq]
    exact hs.walksBack v
  · rw [hs.firstHop_eq_none_iff, ← mem_parent_shortestPaths, iff_or_self]
    rintro rfl
    rw [Map.mem_iff_exists_getElem?, hs.parent_source]
    simp

end TunnelMesh.Search
