/-
The pointers of a search form a tree.

`Sound` is what holds of a search after every step, whatever the weights are: each
node that has a pointer was reached from a settled one over an edge, and following
the pointers back from any reached node spells out a path from the source whose
nodes are all different.  A node's pointer changes only while the node is not
settled, and pointers lead to settled nodes only, so that a change never touches
the path to another node.

From that, `firstHop` always finds the first edge of the path.
-/
import Mathlib.Data.List.Perm.Subperm
import TunnelMesh.Proofs.Map
import TunnelMesh.Proofs.Route.Path
import TunnelMesh.Route.ShortestPath

namespace TunnelMesh.Search

open Quantity Adjacency

variable {α : Type} {g : Adjacency α} {ids : List NodeId} {source : NodeId}

/-- The path that the pointers spell out, from the source to a node. -/
inductive Branch (g : Adjacency α) (s : Search α) (source : NodeId) :
    NodeId → List (Edge α) → Prop
  | root : Branch g s source source []
  | grow {u : NodeId} {es : List (Edge α)} {e : Edge α} (h : Branch g s source u es)
      (he : e ∈ g.out u) (hp : s.parent[e.target]? = some u) :
      Branch g s source e.target (es ++ [e])

/-! ### Branches -/

theorem Branch.isPath {s : Search α} {v : NodeId} {es : List (Edge α)}
    (h : Branch g s source v es) : g.IsPath source es v := by
  induction h with
  | root => rfl
  | grow _ he _ ih => exact ih.concat he

/-- A branch lasts as long as the pointers of its nodes do. -/
theorem Branch.congr {s s' : Search α} {v : NodeId} {es : List (Edge α)}
    (h : Branch g s source v es)
    (hp : ∀ x ∈ visited source es, s'.parent[x]? = s.parent[x]?) : Branch g s' source v es := by
  induction h with
  | root => exact .root
  | @grow u es e _ he hpar ih =>
      refine .grow (ih fun x hx => hp x (by simp [hx])) he ?_
      rw [hp e.target (by simp), hpar]

/-- Only the source has an empty branch, if it has no pointer. -/
theorem Branch.eq_nil {s : Search α} {es : List (Edge α)} (h : Branch g s source source es)
    (hs : s.parent[source]? = none) : es = [] := by
  generalize hv : source = v at h
  cases h with
  | root => rfl
  | grow _ _ hp =>
      rw [← hv, hs] at hp
      exact absurd hp (by simp)

theorem Branch.mem_parent {s : Search α} {v : NodeId} {es : List (Edge α)}
    (h : Branch g s source v es) : ∀ x ∈ es.map Edge.target, x ∈ s.parent := by
  induction h with
  | root => simp
  | @grow u es e _ _ hp ih =>
      intro x hx
      rw [List.map_append, List.mem_append] at hx
      rcases hx with hx | hx
      · exact ih x hx
      · rw [List.map_singleton, List.mem_singleton] at hx
        rw [hx]
        exact Map.mem_iff_exists_getElem?.mpr ⟨u, hp⟩

/-- Climbing finds the first edge of a branch. -/
theorem climb_branch {s : Search α} (hs : s.parent[source]? = none) {v : NodeId}
    {es : List (Edge α)} (h : Branch g s source v es) :
    ∀ fuel, es.length ≤ fuel →
      climb s.parent source fuel v = es.head?.map Edge.target := by
  induction h with
  | root =>
      intro fuel _
      cases fuel with
      | zero => rfl
      | succ fuel => simp [climb, hs]
  | @grow u es e hu _ hp ih =>
      intro fuel hle
      rw [List.length_append, List.length_singleton] at hle
      obtain ⟨fuel, rfl⟩ : ∃ k, fuel = k + 1 := ⟨fuel - 1, by omega⟩
      simp only [climb, hp]
      by_cases husrc : u = source
      · rw [if_pos husrc]
        subst husrc
        rw [hu.eq_nil hs]
        rfl
      · rw [if_neg husrc, ih fuel (by omega)]
        cases hu with
        | root => exact absurd rfl husrc
        | grow => simp [List.head?_append]

/-! ### Single changes -/

/-- The search with one more node settled. -/
def mark (s : Search α) (u : NodeId) : Search α := { s with settled := s.settled.insert u }

theorem mem_settled_mark {s : Search α} {u v : NodeId} :
    v ∈ (s.mark u).settled ↔ v = u ∨ v ∈ s.settled := by
  rw [mark, Std.ExtTreeSet.mem_insert, Std.LawfulEqCmp.compare_eq_iff_eq, eq_comm]

/-- The search after a node was reached over an edge. -/
def reach (s : Search α) (v : NodeId) (d : α) (u : NodeId) : Search α :=
  { s with dist := s.dist.insert v d, parent := s.parent.insert v u }

theorem getElem?_dist_reach (s : Search α) (v u w : NodeId) (d : α) :
    (s.reach v d u).dist[w]? = if v = w then some d else s.dist[w]? := by
  rw [reach, Map.getElem?_insert]

theorem getElem?_parent_reach (s : Search α) (v u w : NodeId) (d : α) :
    (s.reach v d u).parent[w]? = if v = w then some u else s.parent[w]? := by
  rw [reach, Map.getElem?_insert]

/-! ### The invariant -/

variable [Quantity α]

/-- A branch to a node at its distance, on which only the node itself may be open. -/
structure Branch.Simple (g : Adjacency α) (s : Search α) (source v : NodeId) (d : α)
    (es : List (Edge α)) : Prop where
  branch : Branch g s source v es
  cost_eq : cost es = d
  nodup : (visited source es).Nodup
  settled : ∀ x ∈ visited source es, x ≠ v → x ∈ s.settled

/-- What holds of a search at any time. -/
structure Sound (g : Adjacency α) (ids : List NodeId) (source : NodeId) (s : Search α) : Prop where
  dist_source : s.dist[source]? = some (ofNat 0)
  /-- The source is settled first. -/
  source_settled : ∀ v ∈ s.settled, source ∈ s.settled
  settled_reached : ∀ v ∈ s.settled, v ∈ ids ∧ ∃ d, s.dist[v]? = some d ∧ finite d = true
  /-- Pointers lead from reached nodes to settled ones. -/
  parent_settled : ∀ v u, s.parent[v]? = some u → u ∈ s.settled ∧ v ∈ s.dist ∧ v ≠ source
  reached : ∀ v d, s.dist[v]? = some d → (v = source ∨ v ∈ ids) ∧ ∃ es, Branch.Simple g s source v d es

/-! ### The start -/

theorem sound_start (g : Adjacency α) (ids : List NodeId) (source : NodeId) :
    Sound g ids source (start source) where
  dist_source := by simp [start]
  source_settled := by simp [start]
  settled_reached := by simp [start]
  parent_settled := by simp [start]
  reached := by
    intro v d hd
    rw [start, Map.getElem?_insert] at hd
    split at hd
    · rename_i h
      subst h
      rw [Option.some.injEq] at hd
      subst hd
      exact ⟨Or.inl rfl, [], .root, rfl, by simp [visited], by simp [visited]⟩
    · simp at hd

/-! ### Marking a node as settled -/

theorem Branch.Simple.mark {s : Search α} {v : NodeId} {d : α} {es : List (Edge α)}
    (h : Branch.Simple g s source v d es) (u : NodeId) :
    Branch.Simple g (s.mark u) source v d es where
  branch := h.branch.congr fun _ _ => rfl
  cost_eq := h.cost_eq
  nodup := h.nodup
  settled x hx hne := mem_settled_mark.mpr (Or.inr (h.settled x hx hne))

theorem Sound.mark {s : Search α} (h : Sound g ids source s) {u : NodeId} {d : α} (hu : u ∈ ids)
    (hd : s.dist[u]? = some d) (hf : finite d = true) : Sound g ids source (s.mark u) where
  dist_source := h.dist_source
  source_settled v hv := by
    rw [mem_settled_mark] at hv ⊢
    rcases hv with rfl | hv
    · -- The path to the node starts at the source, which is the node itself or settled.
      obtain ⟨-, es, hes⟩ := h.reached v d hd
      by_cases hsrc : source = v
      · exact Or.inl hsrc
      · exact Or.inr (hes.settled source (mem_visited_self _ _) hsrc)
    · exact Or.inr (h.source_settled v hv)
  settled_reached v hv := by
    rw [mem_settled_mark] at hv
    rcases hv with rfl | hv
    · exact ⟨hu, d, hd, hf⟩
    · exact h.settled_reached v hv
  parent_settled v w hp := by
    obtain ⟨hw, hv⟩ := h.parent_settled v w hp
    exact ⟨mem_settled_mark.mpr (Or.inr hw), hv⟩
  reached v d' hd' := by
    obtain ⟨hv, es, hes⟩ := h.reached v d' hd'
    exact ⟨hv, es, hes.mark u⟩

/-! ### Relaxing an edge -/

/-- An edge changes nothing, or reaches a node anew that is not settled. -/
theorem relax_cases (known : NodeId → Bool) (d : α) (s : Search α) (e : Edge α) (u : NodeId) :
    relax known d s e u = s ∧ (known e.target = false ∨ e.target ∈ s.settled ∨
        s.improves e.target (add d e.weight) = false) ∨
      relax known d s e u = s.reach e.target (add d e.weight) u ∧
        known e.target = true ∧ e.target ∉ s.settled ∧
        s.improves e.target (add d e.weight) = true := by
  unfold relax
  by_cases hc : (known e.target && !s.settled.contains e.target &&
      s.improves e.target (add d e.weight)) = true
  · rw [if_pos hc]
    simp only [Bool.and_eq_true, Bool.not_eq_true', ← Bool.not_eq_true,
      Std.ExtTreeSet.contains_iff_mem] at hc
    exact Or.inr ⟨rfl, hc.1.1, hc.1.2, hc.2⟩
  · rw [if_neg hc]
    refine Or.inl ⟨rfl, ?_⟩
    simp only [Bool.and_eq_true, Bool.not_eq_true', ← Bool.not_eq_true,
      Std.ExtTreeSet.contains_iff_mem] at hc ⊢
    by_cases hk : known e.target = true
    · by_cases hv : e.target ∈ s.settled
      · exact Or.inr (Or.inl hv)
      · exact Or.inr (Or.inr fun hi => hc ⟨⟨hk, hv⟩, hi⟩)
    · exact Or.inl hk

/-- Reaching an open node changes no branch but its own. -/
theorem Branch.Simple.reach {s : Search α} {w : NodeId} {d : α} {es : List (Edge α)}
    (h : Branch.Simple g s source w d es) {v : NodeId} (hv : v ∉ s.settled) (hne : v ≠ w)
    (d' : α) (u : NodeId) : Branch.Simple g (s.reach v d' u) source w d es where
  branch := h.branch.congr fun x hx => by
    rw [getElem?_parent_reach, if_neg]
    rintro rfl
    exact hv (h.settled v hx hne)
  cost_eq := h.cost_eq
  nodup := h.nodup
  settled := h.settled

/-- All nodes on the branch of a settled node are settled. -/
theorem Branch.Simple.mem_settled {s : Search α} {u : NodeId} {d : α} {es : List (Edge α)}
    (h : Branch.Simple g s source u d es) (hu : u ∈ s.settled) {x : NodeId}
    (hx : x ∈ visited source es) : x ∈ s.settled := by
  by_cases hxu : x = u
  · rw [hxu]
    exact hu
  · exact h.settled x hx hxu

/-- The branch of a settled node grows by an edge to an open one. -/
theorem Branch.Simple.extend {s : Search α} {u : NodeId} {d : α} {es : List (Edge α)}
    (h : Branch.Simple g s source u d es) (hu : u ∈ s.settled) {e : Edge α} (he : e ∈ g.out u)
    (hopen : e.target ∉ s.settled) :
    Branch.Simple g (s.reach e.target (add d e.weight) u) source e.target (add d e.weight)
      (es ++ [e]) := by
  have hne : e.target ≠ u := by
    intro hc
    exact hopen (hc ▸ hu)
  have hnew : e.target ∉ visited source es := by
    intro hc
    exact hopen (h.mem_settled hu hc)
  refine ⟨?_, ?_, nodup_visited_concat h.nodup hnew, ?_⟩
  · refine .grow (h.reach hopen hne _ u).branch he ?_
    rw [getElem?_parent_reach, if_pos rfl]
  · rw [cost_concat, h.cost_eq]
  · intro x hx hxv
    rw [visited_concat, List.mem_append, List.mem_singleton] at hx
    exact h.mem_settled hu (hx.resolve_right hxv)

theorem Sound.relax {s : Search α} (h : Sound g ids source s) {known : NodeId → Bool}
    (hknown : ∀ v, known v = true → v ∈ ids) {u : NodeId} {d : α} (hu : u ∈ s.settled)
    (hd : s.dist[u]? = some d) {e : Edge α} (he : e ∈ g.out u) :
    Sound g ids source (relax known d s e u) := by
  rcases relax_cases known d s e u with ⟨heq, -⟩ | ⟨heq, hk, hopen, -⟩
  · rw [heq]
    exact h
  · rw [heq]
    have hsrc : e.target ≠ source := by
      intro hc
      exact hopen (hc ▸ h.source_settled u hu)
    refine ⟨?_, h.source_settled, ?_, ?_, ?_⟩
    · rw [getElem?_dist_reach, if_neg hsrc]
      exact h.dist_source
    · intro v hv
      obtain ⟨hi, d', hd', hf⟩ := h.settled_reached v hv
      refine ⟨hi, d', ?_, hf⟩
      rw [getElem?_dist_reach, if_neg, hd']
      rintro rfl
      exact hopen hv
    · intro v w hp
      rw [getElem?_parent_reach] at hp
      rw [Map.mem_iff_exists_getElem?, getElem?_dist_reach]
      split at hp
      · rename_i hv
        rw [Option.some.injEq] at hp
        subst hv hp
        exact ⟨hu, by simp, hsrc⟩
      · obtain ⟨hw, hv, hvs⟩ := h.parent_settled v w hp
        refine ⟨hw, ?_, hvs⟩
        rename_i hev
        rw [if_neg hev]
        exact Map.mem_iff_exists_getElem?.mp hv
    · intro v d' hd'
      rw [getElem?_dist_reach] at hd'
      obtain ⟨-, es, hes⟩ := h.reached u d hd
      split at hd'
      · rename_i hv
        rw [Option.some.injEq] at hd'
        subst hv hd'
        exact ⟨Or.inr (hknown _ hk), es ++ [e], hes.extend hu he hopen⟩
      · rename_i hv
        obtain ⟨hvi, es', hes'⟩ := h.reached v d' hd'
        exact ⟨hvi, es', hes'.reach hopen hv _ u⟩

/-! ### Settling a node -/

theorem settled_relax (known : NodeId → Bool) (d : α) (s : Search α) (e : Edge α) (u : NodeId) :
    (relax known d s e u).settled = s.settled := by
  rcases relax_cases known d s e u with ⟨heq, -⟩ | ⟨heq, -⟩ <;> rw [heq]
  rfl

/-- The distance of a settled node stays. -/
theorem getElem?_dist_relax (known : NodeId → Bool) (d : α) {s : Search α} (e : Edge α)
    (u : NodeId) {v : NodeId} (hv : v ∈ s.settled) :
    (relax known d s e u).dist[v]? = s.dist[v]? := by
  rcases relax_cases known d s e u with ⟨heq, -⟩ | ⟨heq, -, hopen, -⟩
  · rw [heq]
  · rw [heq, getElem?_dist_reach, if_neg]
    rintro rfl
    exact hopen hv

/-- The search after some edges of a node were relaxed. -/
def relaxAll (known : NodeId → Bool) (u : NodeId) (d : α) (s : Search α) (es : List (Edge α)) :
    Search α :=
  es.foldl (fun s e => relax known d s e u) s

theorem settle_eq (known : NodeId → Bool) (s : Search α) (u : NodeId) (d : α)
    (es : List (Edge α)) : s.settle known u d es = relaxAll known u d (s.mark u) es := rfl

theorem settled_relaxAll (known : NodeId → Bool) (u : NodeId) (d : α) (s : Search α)
    (es : List (Edge α)) : (relaxAll known u d s es).settled = s.settled := by
  induction es generalizing s with
  | nil => rfl
  | cons e es ih => exact (ih _).trans (settled_relax known d s e u)

theorem getElem?_dist_relaxAll (known : NodeId → Bool) (u : NodeId) (d : α) {v : NodeId}
    (es : List (Edge α)) {s : Search α} (hv : v ∈ s.settled) :
    (relaxAll known u d s es).dist[v]? = s.dist[v]? := by
  induction es generalizing s with
  | nil => rfl
  | cons e es ih =>
      refine (ih ?_).trans (getElem?_dist_relax known d e u hv)
      rw [settled_relax]
      exact hv

theorem Sound.relaxAll {known : NodeId → Bool} (hknown : ∀ v, known v = true → v ∈ ids)
    {u : NodeId} {d : α} {es : List (Edge α)} (hes : ∀ e ∈ es, e ∈ g.out u) :
    ∀ {s : Search α}, Sound g ids source s → u ∈ s.settled → s.dist[u]? = some d →
      Sound g ids source (relaxAll known u d s es) := by
  induction es with
  | nil => intro s h _ _; exact h
  | cons e es ih =>
      intro s h hu hd
      refine ih (fun e' he' => hes e' (by simp [he'])) (h.relax hknown hu hd (hes e (by simp))) ?_ ?_
      · rw [settled_relax]
        exact hu
      · rw [getElem?_dist_relax known d e u hu]
        exact hd

theorem open?_eq_some {s : Search α} {v : NodeId} {d : α} :
    s.open? v = some d ↔ v ∉ s.settled ∧ s.dist[v]? = some d ∧ finite d = true := by
  unfold open?
  by_cases hv : v ∈ s.settled
  · simp [hv]
  · simp [hv, Option.filter_eq_some_iff]

/-- What `nearer` takes was open or taken before. -/
theorem nearer_cases (s : Search α) (best : Option (NodeId × α)) (v : NodeId) :
    s.nearer best v = best ∨ ∃ d, s.open? v = some d ∧ s.nearer best v = some (v, d) := by
  unfold nearer
  split
  · exact Or.inl rfl
  · rename_i d hd
    split
    · exact Or.inr ⟨d, hd, rfl⟩
    · split
      · exact Or.inr ⟨d, hd, rfl⟩
      · exact Or.inl rfl

theorem mem_of_foldl_nearer (s : Search α) {u : NodeId} {d : α} :
    ∀ (l : List NodeId) (best : Option (NodeId × α)), l.foldl s.nearer best = some (u, d) →
      best = some (u, d) ∨ u ∈ l ∧ s.open? u = some d := by
  intro l
  induction l with
  | nil => intro best h; exact Or.inl h
  | cons v l ih =>
      intro best h
      rcases ih _ h with hb | ⟨hu, hd⟩
      · rcases nearer_cases s best v with heq | ⟨d', hd', heq⟩
        · exact Or.inl (heq ▸ hb)
        · rw [heq, Option.some.injEq, Prod.mk.injEq] at hb
          obtain ⟨rfl, rfl⟩ := hb
          exact Or.inr ⟨by simp, hd'⟩
      · exact Or.inr ⟨by simp [hu], hd⟩

theorem open?_of_nearest? {s : Search α} {u : NodeId} {d : α} (h : s.nearest? ids = some (u, d)) :
    u ∈ ids ∧ s.open? u = some d := by
  rcases mem_of_foldl_nearer s ids none h with hb | hu
  · exact absurd hb (by simp)
  · exact hu

theorem Sound.settle {s : Search α} (h : Sound g ids source s) {known : NodeId → Bool}
    (hknown : ∀ v, known v = true → v ∈ ids) {u : NodeId} {d : α}
    (hnear : s.nearest? ids = some (u, d)) :
    Sound g ids source (s.settle known u d (g.out u)) := by
  obtain ⟨hu, hopen⟩ := open?_of_nearest? hnear
  obtain ⟨-, hd, hf⟩ := open?_eq_some.mp hopen
  rw [settle_eq]
  exact (h.mark hu hd hf).relaxAll hknown (fun e he => he) (mem_settled_mark.mpr (Or.inl rfl)) hd

theorem Sound.run {known : NodeId → Bool} (hknown : ∀ v, known v = true → v ∈ ids) :
    ∀ (n : Nat) {s : Search α}, Sound g ids source s → Sound g ids source (run g ids known n s) := by
  intro n
  induction n with
  | zero => intro s h; exact h
  | succ n ih =>
      intro s h
      rw [Search.run]
      split
      · exact h
      · rename_i u d hnear
        exact ih (h.settle hknown hnear)

/-- **The pointers of a finished search form a tree.** -/
theorem sound_shortestPaths (g : Adjacency α) (ids : List NodeId) (source : NodeId) :
    Sound g ids source (shortestPaths g ids source) :=
  Sound.run (fun v hv => by simpa using hv) _ (sound_start g ids source)

/-! ### The first hop -/

/-- A branch is no longer than there are pointers. -/
theorem Branch.Simple.length_le {s : Search α} {v : NodeId} {d : α} {es : List (Edge α)}
    (h : Branch.Simple g s source v d es) : es.length ≤ s.parent.size := by
  have hnodup : (es.map Edge.target).Nodup := (List.nodup_cons.mp h.nodup).2
  have hsub : es.map Edge.target ⊆ s.parent.keys := by
    intro x hx
    rw [Std.ExtTreeMap.mem_keys]
    exact h.branch.mem_parent x hx
  have hle := (List.subperm_of_subset hnodup hsub).length_le
  rwa [List.length_map, Std.ExtTreeMap.length_keys] at hle

theorem Sound.parent_source {s : Search α} (h : Sound g ids source s) :
    s.parent[source]? = none := by
  cases hp : s.parent[source]? with
  | none => rfl
  | some u => exact absurd rfl (h.parent_settled source u hp).2.2

/-- **The first hop is where the first edge of a branch leads.** -/
theorem Sound.firstHop_eq {s : Search α} (h : Sound g ids source s) {v : NodeId} {d : α}
    {es : List (Edge α)} (hes : Branch.Simple g s source v d es) :
    s.firstHop source v = es.head?.map Edge.target :=
  climb_branch h.parent_source hes.branch _ (by have := hes.length_le; omega)

/-- A first hop comes from a branch with at least one edge. -/
theorem Sound.firstHop_eq_some {s : Search α} (h : Sound g ids source s) {v hop : NodeId} :
    s.firstHop source v = some hop ↔
      ∃ d e es, s.dist[v]? = some d ∧ Branch.Simple g s source v d (e :: es) ∧ e.target = hop := by
  constructor
  · intro hv
    cases hd : s.dist[v]? with
    | none =>
        -- Without a distance there is no pointer to follow.
        have hp : s.parent[v]? = none := by
          cases hp : s.parent[v]? with
          | none => rfl
          | some u =>
              obtain ⟨-, hmem, -⟩ := h.parent_settled v u hp
              obtain ⟨d, hd'⟩ := Map.mem_iff_exists_getElem?.mp hmem
              rw [hd] at hd'
              exact absurd hd' (by simp)
        rw [firstHop, climb, hp] at hv
        exact absurd hv (by simp)
    | some d =>
        obtain ⟨-, es, hes⟩ := h.reached v d hd
        rw [h.firstHop_eq hes] at hv
        cases es with
        | nil => exact absurd hv (by simp)
        | cons e es =>
            rw [List.head?_cons, Option.map_some, Option.some.injEq] at hv
            exact ⟨d, e, es, rfl, hes, hv⟩
  · intro hx
    obtain ⟨d, e, es, -, hes, rfl⟩ := hx
    rw [h.firstHop_eq hes]
    rfl

/-- The first hop is a node next to the source. -/
theorem Sound.firstHop_adjacent {s : Search α} (h : Sound g ids source s) {v hop : NodeId}
    (hv : s.firstHop source v = some hop) :
    hop ≠ source ∧ hop ∈ ids ∧ ∃ e ∈ g.out source, e.target = hop := by
  obtain ⟨d, e, es, -, hes, rfl⟩ := h.firstHop_eq_some.mp hv
  have hne : e.target ≠ source := by
    intro hc
    exact (List.nodup_cons.mp hes.nodup).1 (by simp [hc])
  refine ⟨hne, ?_, e, hes.branch.isPath.1, rfl⟩
  obtain ⟨d', hd'⟩ := Map.mem_iff_exists_getElem?.mp (show e.target ∈ s.dist by
    obtain ⟨u, hu⟩ := Map.mem_iff_exists_getElem?.mp (hes.branch.mem_parent e.target (by simp))
    exact (h.parent_settled _ u hu).2.1)
  exact (h.reached _ d' hd').1.resolve_left hne

end TunnelMesh.Search
