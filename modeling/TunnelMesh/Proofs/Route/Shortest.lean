/-
Shortest paths are shortest.

The nodes are settled by distance, so that a settled node is never farther than one
that is open, and every edge of a settled node has been relaxed: its target is no
farther than the node and the edge together.  Each round settles a node, and there
are as many rounds as nodes, so that at the end nothing is open.

Then the nodes reached are those that edges lead to, and following any path from
the source shows by the relaxed edges that its cost is no less than the distance of
its end.  Addition need not be associative for that: both sides add up from the
source.
-/
import TunnelMesh.Proofs.Route.Tree

namespace TunnelMesh.Search

open Quantity Adjacency

variable {α : Type} {g : Adjacency α} {ids : List NodeId} {source : NodeId}

/-! ### The rounds -/

/-- The nodes that are not settled yet. -/
def unsettled (s : Search α) (ids : List NodeId) : List NodeId :=
  ids.filter fun v => !s.settled.contains v

theorem mem_unsettled {s : Search α} {v : NodeId} :
    v ∈ s.unsettled ids ↔ v ∈ ids ∧ v ∉ s.settled := by
  rw [unsettled, List.mem_filter, Bool.not_eq_true', ← Bool.not_eq_true,
    Std.ExtTreeSet.contains_iff_mem]

variable [Quantity α]

theorem foldl_nearer_ne_none (s : Search α) :
    ∀ (l : List NodeId) (best : NodeId × α), l.foldl s.nearer (some best) ≠ none := by
  intro l
  induction l with
  | nil => intro best; simp
  | cons v l ih =>
      intro best
      rw [List.foldl_cons]
      rcases nearer_cases s (some best) v with heq | ⟨d, -, heq⟩ <;> rw [heq] <;> exact ih _

theorem open?_of_nearest?_eq_none {s : Search α} :
    ∀ (l : List NodeId), s.nearest? l = none → ∀ v ∈ l, s.open? v = none := by
  intro l
  induction l with
  | nil => intro _ v hv; simp at hv
  | cons w l ih =>
      intro h v hv
      rw [nearest?, List.foldl_cons] at h
      cases hw : s.open? w with
      | some d =>
          have hnear : s.nearer none w = some (w, d) := by simp [nearer, hw]
          rw [hnear] at h
          exact absurd h (foldl_nearer_ne_none s l _)
      | none =>
          have hnear : s.nearer none w = none := by simp [nearer, hw]
          rw [hnear] at h
          rcases List.mem_cons.mp hv with rfl | hv
          · exact hw
          · exact ih h v hv

/-- A round settles a node. -/
theorem unsettled_settle_lt (known : NodeId → Bool) {s : Search α} {u : NodeId} {d : α}
    (h : s.nearest? ids = some (u, d)) (es : List (Edge α)) :
    ((s.settle known u d es).unsettled ids).length < (s.unsettled ids).length := by
  obtain ⟨hu, hopen⟩ := open?_of_nearest? h
  obtain ⟨hns, -, -⟩ := open?_eq_some.mp hopen
  have hsub : (s.settle known u d es).unsettled ids = (s.unsettled ids).filter (· != u) := by
    rw [settle_eq, unsettled, settled_relaxAll, unsettled, List.filter_filter]
    refine List.filter_congr fun v _ => ?_
    rw [mark, Std.ExtTreeSet.contains_insert]
    by_cases hv : v = u
    · simp [hv]
    · have hc : compare u v ≠ .eq := fun hc => hv (Std.LawfulEqCmp.eq_of_compare hc).symm
      rw [beq_eq_false_iff_ne.mpr hc, bne_iff_ne.mpr hv]
      rfl
  rw [hsub]
  refine List.length_filter_lt_length_iff_exists.mpr ⟨u, mem_unsettled.mpr ⟨hu, hns⟩, by simp⟩

theorem nearest?_run (known : NodeId → Bool) :
    ∀ (n : Nat) (s : Search α), (s.unsettled ids).length ≤ n →
      (run g ids known n s).nearest? ids = none := by
  intro n
  induction n with
  | zero =>
      intro s hle
      show s.nearest? ids = none
      cases hnear : s.nearest? ids with
      | none => rfl
      | some best =>
          have := unsettled_settle_lt known hnear []
          omega
  | succ n ih =>
      intro s hle
      rw [Search.run]
      split
      · assumption
      · rename_i u d hnear
        refine ih _ ?_
        have := unsettled_settle_lt known hnear (g.out u)
        omega

/-- At the end no node is open. -/
theorem open?_shortestPaths (g : Adjacency α) (source : NodeId) {v : NodeId} (hv : v ∈ ids) :
    (shortestPaths g ids source).open? v = none := by
  refine open?_of_nearest?_eq_none ids (nearest?_run _ _ _ ?_) v hv
  exact List.length_filter_le _ _

/-! ### The order of settling -/

theorem Sound.finite {s : Search α} (h : Sound g ids source s) (hfin : g.FinitePaths source)
    {v : NodeId} {d : α} (hd : s.dist[v]? = some d) : finite d = true := by
  obtain ⟨-, es, hes⟩ := h.reached v d hd
  rw [← hes.cost_eq]
  exact hfin es v hes.branch.isPath hes.nodup

/-- Settled nodes are no farther than open ones. -/
def Frontier (s : Search α) : Prop :=
  ∀ u ∈ s.settled, ∀ v, v ∉ s.settled → ∀ du dv, s.dist[u]? = some du → s.dist[v]? = some dv →
    leq du dv = true

/-- The target of an edge is no farther than a node at distance `d` and the edge together. -/
def Relaxed (s : Search α) (d : α) (e : Edge α) : Prop :=
  ∃ d', s.dist[e.target]? = some d' ∧ leq d' (add d e.weight) = true

/-- The node settled last is the farthest of the settled ones. -/
def Farthest (s : Search α) (d : α) : Prop :=
  ∀ x ∈ s.settled, ∀ dx, s.dist[x]? = some dx → leq dx d = true

theorem Farthest.relax {s : Search α} {d : α} (hfar : Farthest s d) (known : NodeId → Bool)
    (e : Edge α) (u : NodeId) : Farthest (relax known d s e u) d := by
  intro x hx dx hdx
  rw [settled_relax] at hx
  rw [getElem?_dist_relax known d e u hx] at hdx
  exact hfar x hx dx hdx

/-- What the order of settling gives. -/
structure Ordered (g : Adjacency α) (s : Search α) : Prop where
  frontier : Frontier s
  relaxed : ∀ u ∈ s.settled, ∀ d, s.dist[u]? = some d → ∀ e ∈ g.out u, Relaxed s d e

theorem ordered_start (g : Adjacency α) (source : NodeId) : Ordered g (start source) where
  frontier := by simp [Frontier, start]
  relaxed := by simp [start]

variable [OrderedQuantity α]

theorem Sound.zero_leq {s : Search α} (h : Sound g ids source s) (hg : g.NonNegative) {v : NodeId}
    {d : α} (hd : s.dist[v]? = some d) : leq (ofNat 0) d = true := by
  obtain ⟨-, es, hes⟩ := h.reached v d hd
  rw [← hes.cost_eq]
  exact hes.branch.isPath.zero_leq_cost hg

/-- The nearer of the best node so far and an open one is no farther than either. -/
theorem nearer_leq {s : Search α} {v : NodeId} {dv : α} (hv : s.open? v = some dv)
    (hzero : leq (ofNat 0) dv = true) {best : Option (NodeId × α)}
    (hbest : ∀ b, best = some b → leq (ofNat 0) b.2 = true) :
    ∃ b', s.nearer best v = some b' ∧ leq (ofNat 0) b'.2 = true ∧ leq b'.2 dv = true ∧
      ∀ b, best = some b → leq b'.2 b.2 = true := by
  cases best with
  | none =>
      exact ⟨(v, dv), by simp [nearer, hv], hzero, OrderedQuantity.leq_refl hzero, by simp⟩
  | some b =>
      have hbz := hbest b rfl
      by_cases hlt : less dv b.2 = true
      · refine ⟨(v, dv), by simp [nearer, hv, hlt], hzero, OrderedQuantity.leq_refl hzero, ?_⟩
        intro b' hb'
        obtain rfl := Option.some.inj hb'
        exact OrderedQuantity.leq_of_less hlt
      · refine ⟨b, by simp [nearer, hv, hlt], hbz, ?_, ?_⟩
        · exact OrderedQuantity.leq_of_not_less hbz hzero (by simpa using hlt)
        · intro b' hb'
          obtain rfl := Option.some.inj hb'
          exact OrderedQuantity.leq_refl hbz

theorem foldl_nearer_leq {s : Search α}
    (hs : ∀ (v : NodeId) (d : α), s.dist[v]? = some d → leq (ofNat 0) d = true) {u : NodeId} {d : α} :
    ∀ (l : List NodeId) (best : Option (NodeId × α)),
      (∀ b, best = some b → leq (ofNat 0) b.2 = true) → l.foldl s.nearer best = some (u, d) →
      (∀ b, best = some b → leq d b.2 = true) ∧
        ∀ v ∈ l, ∀ d', s.open? v = some d' → leq d d' = true := by
  intro l
  induction l with
  | nil =>
      intro best hbest h
      rw [List.foldl_nil] at h
      refine ⟨fun b hb => ?_, by simp⟩
      rw [h, Option.some.injEq] at hb
      rw [← hb]
      exact OrderedQuantity.leq_refl (hbest _ h)
  | cons v l ih =>
      intro best hbest h
      rw [List.foldl_cons] at h
      cases hv : s.open? v with
      | none =>
          have hnear : s.nearer best v = best := by simp [nearer, hv]
          rw [hnear] at h
          obtain ⟨hb, hl⟩ := ih best hbest h
          refine ⟨hb, fun w hw d' hd' => ?_⟩
          rcases List.mem_cons.mp hw with rfl | hw
          · rw [hv] at hd'
            exact absurd hd' (by simp)
          · exact hl w hw d' hd'
      | some dv =>
          have hzero : leq (ofNat 0) dv = true := hs v dv (open?_eq_some.mp hv).2.1
          obtain ⟨b', hb', hz, hdv, hb⟩ := nearer_leq hv hzero hbest
          rw [hb'] at h
          have hbest' : ∀ b, some b' = some b → leq (ofNat 0) b.2 = true := by
            intro b hbb
            obtain rfl := Option.some.inj hbb
            exact hz
          obtain ⟨hd, hl⟩ := ih (some b') hbest' h
          have hdb := hd b' rfl
          refine ⟨fun b hbb => OrderedQuantity.leq_trans hdb (hb b hbb), ?_⟩
          intro w hw d' hd'
          rcases List.mem_cons.mp hw with rfl | hw
          · rw [hv, Option.some.injEq] at hd'
            rw [← hd']
            exact OrderedQuantity.leq_trans hdb hdv
          · exact hl w hw d' hd'

/-- The nearest open node is no farther than any other. -/
theorem leq_of_nearest? {s : Search α} (hs : ∀ (v : NodeId) (d : α), s.dist[v]? = some d → leq (ofNat 0) d = true)
    {u : NodeId} {d : α} (h : s.nearest? ids = some (u, d)) :
    ∀ v ∈ ids, ∀ d', s.open? v = some d' → leq d d' = true :=
  (foldl_nearer_leq hs ids none (by simp) h).2

/-- Relaxing an edge brings no node farther away. -/
theorem Relaxed.relax {s : Search α} {d : α} {e : Edge α} (h : Relaxed s d e)
    (known : NodeId → Bool) (d' : α) (e' : Edge α) (u : NodeId) :
    Relaxed (relax known d' s e' u) d e := by
  rcases relax_cases known d' s e' u with ⟨heq, -⟩ | ⟨heq, -, -, himp⟩
  · rw [heq]
    exact h
  · obtain ⟨old, hold, hle⟩ := h
    rw [heq, Relaxed]
    simp only [getElem?_dist_reach]
    by_cases ht : e'.target = e.target
    · refine ⟨add d' e'.weight, by rw [if_pos ht], OrderedQuantity.leq_trans ?_ hle⟩
      rw [improves, ht, hold] at himp
      exact OrderedQuantity.leq_of_less himp
    · exact ⟨old, by rw [if_neg ht, hold], hle⟩

section Settle

variable {s : Search α} {known : NodeId → Bool} {u : NodeId} {d : α} {e : Edge α}

/-- An edge of the farthest settled node is relaxed, also where its target is settled already. -/
theorem Sound.relaxed_relax (h : Sound g ids source s) (hg : g.NonNegative)
    (hfin : g.FinitePaths source) (hu : u ∈ s.settled) (hd : s.dist[u]? = some d)
    (hfar : Farthest s d) (he : e ∈ g.out u) (hk : known e.target = true) :
    Relaxed (Search.relax known d s e u) d e := by
  have hzd : leq (ofNat 0) d = true := h.zero_leq hg hd
  have hzw : leq (ofNat 0) e.weight = true := hg u e he
  have hzs : leq (ofNat 0) (add d e.weight) = true := OrderedQuantity.zero_leq_add hzd hzw
  rcases relax_cases known d s e u with ⟨heq, hwhy⟩ | ⟨heq, -, -, -⟩
  · rw [heq]
    rcases hwhy with hwhy | hwhy | hwhy
    · rw [hk] at hwhy
      exact absurd hwhy (by simp)
    · obtain ⟨-, dx, hdx, -⟩ := h.settled_reached e.target hwhy
      exact ⟨dx, hdx, OrderedQuantity.leq_trans (hfar _ hwhy dx hdx)
        (OrderedQuantity.leq_add hzd hzw)⟩
    · rw [improves] at hwhy
      cases hold : s.dist[e.target]? with
      | some old =>
          rw [hold] at hwhy
          exact ⟨old, hold, OrderedQuantity.leq_of_not_less (h.zero_leq hg hold) hzs hwhy⟩
      | none =>
          -- The target is on no branch yet, so that the path over the edge is a simple one.
          rw [hold] at hwhy
          obtain ⟨-, es, hes⟩ := h.reached u d hd
          have hnew : e.target ∉ visited source es := by
            intro hc
            obtain ⟨-, dx, hdx, -⟩ := h.settled_reached _ (hes.mem_settled hu hc)
            rw [hold] at hdx
            exact absurd hdx (by simp)
          have hcost := hfin (es ++ [e]) e.target (hes.branch.isPath.concat he)
            (nodup_visited_concat hes.nodup hnew)
          rw [cost_concat, hes.cost_eq] at hcost
          rw [OrderedQuantity.belowTop_of_finite hcost] at hwhy
          exact absurd hwhy (by simp)
  · rw [heq]
    exact ⟨add d e.weight, by rw [getElem?_dist_reach, if_pos rfl], OrderedQuantity.leq_refl hzs⟩

theorem Frontier.relax (h : Frontier s) (hfar : Farthest s d) (hzd : leq (ofNat 0) d = true)
    (hzw : leq (ofNat 0) e.weight = true) (u : NodeId) : Frontier (relax known d s e u) := by
  intro x hx v hv dx dv hdx hdv
  rw [settled_relax] at hx hv
  rw [getElem?_dist_relax known d e u hx] at hdx
  rcases relax_cases known d s e u with ⟨heq, -⟩ | ⟨heq, -, -, -⟩
  · rw [heq] at hdv
    exact h x hx v hv dx dv hdx hdv
  · rw [heq, getElem?_dist_reach] at hdv
    split at hdv
    · rw [Option.some.injEq] at hdv
      rw [← hdv]
      exact OrderedQuantity.leq_trans (hfar x hx dx hdx) (OrderedQuantity.leq_add hzd hzw)
    · exact h x hx v hv dx dv hdx hdv

/-- Relaxing the edges of the farthest settled node keeps the order, and relaxes them all. -/
theorem Sound.relaxAll_ordered (hknown : ∀ v, known v = true ↔ v ∈ ids) (hg : g.NonNegative)
    (hfin : g.FinitePaths source) (hin : g.LeadsInto ids) :
    ∀ (es : List (Edge α)) {s : Search α}, (∀ e ∈ es, e ∈ g.out u) → Sound g ids source s →
      u ∈ s.settled → s.dist[u]? = some d → Farthest s d → Frontier s →
      Frontier (Search.relaxAll known u d s es) ∧
        (∀ d' e', Relaxed s d' e' → Relaxed (Search.relaxAll known u d s es) d' e') ∧
        ∀ e ∈ es, Relaxed (Search.relaxAll known u d s es) d e := by
  intro es
  induction es with
  | nil => intro s _ _ _ _ _ hfr; exact ⟨hfr, fun _ _ h => h, by simp⟩
  | cons e es ih =>
      intro s hes h hu hd hfar hfr
      have he : e ∈ g.out u := hes e (by simp)
      have hk : known e.target = true := (hknown _).mpr (hin u e he)
      obtain ⟨hfr', hkeep, hnew⟩ := ih (s := Search.relax known d s e u)
        (fun e' he' => hes e' (by simp [he']))
        (h.relax (fun v hv => (hknown v).mp hv) hu hd he)
        (by rw [settled_relax]; exact hu) (by rw [getElem?_dist_relax known d e u hu]; exact hd)
        (hfar.relax known e u) (hfr.relax hfar (h.zero_leq hg hd) (hg u e he) u)
      refine ⟨hfr', fun d' e' hr => hkeep d' e' (hr.relax known d e u), fun e' he' => ?_⟩
      rcases List.mem_cons.mp he' with rfl | he'
      · exact hkeep d e' (h.relaxed_relax hg hfin hu hd hfar he hk)
      · exact hnew e' he'

end Settle

/-- Settling the nearest open node keeps the order. -/
theorem Ordered.settle {s : Search α} (ho : Ordered g s) (h : Sound g ids source s)
    {known : NodeId → Bool} (hknown : ∀ v, known v = true ↔ v ∈ ids) (hg : g.NonNegative)
    (hfin : g.FinitePaths source) (hin : g.LeadsInto ids) (hsrc : source ∈ ids) {u : NodeId} {d : α}
    (hnear : s.nearest? ids = some (u, d)) : Ordered g (s.settle known u d (g.out u)) := by
  obtain ⟨hu, hopen⟩ := open?_of_nearest? hnear
  obtain ⟨huns, hd, hf⟩ := open?_eq_some.mp hopen
  have hleast := leq_of_nearest? (fun v d => h.zero_leq hg) hnear
  -- Of the settled nodes, `u` is the farthest now, and no open node is nearer.
  have hfar : Farthest (s.mark u) d := by
    intro x hx dx hdx
    rcases mem_settled_mark.mp hx with rfl | hx
    · rw [show (s.mark x).dist[x]? = some d from hd, Option.some.injEq] at hdx
      rw [← hdx]
      exact OrderedQuantity.leq_refl (h.zero_leq hg hd)
    · exact ho.frontier x hx u huns dx d hdx hd
  have hfr : Frontier (s.mark u) := by
    intro x hx v hv dx dv hdx hdv
    rw [mem_settled_mark, not_or] at hv
    refine OrderedQuantity.leq_trans (hfar x hx dx hdx) (hleast v ?_ dv ?_)
    · rcases (h.reached v dv hdv).1 with rfl | hvi
      · exact hsrc
      · exact hvi
    · exact open?_eq_some.mpr ⟨hv.2, hdv, h.finite hfin hdv⟩
  obtain ⟨hfr', hkeep, hnew⟩ := Sound.relaxAll_ordered hknown hg hfin hin (g.out u)
    (fun e he => he) (h.mark hu hd hf) (mem_settled_mark.mpr (Or.inl rfl)) hd hfar hfr
  rw [settle_eq]
  refine ⟨hfr', fun x hx dx hdx e he => ?_⟩
  rw [settled_relaxAll] at hx
  rw [getElem?_dist_relaxAll known u d _ hx] at hdx
  rcases mem_settled_mark.mp hx with rfl | hxs
  · rw [show (s.mark x).dist[x]? = some d from hd, Option.some.injEq] at hdx
    exact hdx ▸ hnew e he
  · exact hkeep dx e (ho.relaxed x hxs dx hdx e he)

theorem Ordered.run {known : NodeId → Bool} (hknown : ∀ v, known v = true ↔ v ∈ ids)
    (hg : g.NonNegative) (hfin : g.FinitePaths source) (hin : g.LeadsInto ids)
    (hsrc : source ∈ ids) :
    ∀ (n : Nat) {s : Search α}, Ordered g s → Sound g ids source s →
      Ordered g (run g ids known n s) := by
  intro n
  induction n with
  | zero => intro s ho _; exact ho
  | succ n ih =>
      intro s ho h
      rw [Search.run]
      split
      · exact ho
      · rename_i u d hnear
        exact ih (ho.settle h hknown hg hfin hin hsrc hnear)
          (h.settle (fun v hv => (hknown v).mp hv) hnear)

/-! ### Distances -/

section Distance

variable (hg : g.NonNegative) (hfin : g.FinitePaths source) (hin : g.LeadsInto ids)
  (hsrc : source ∈ ids)

include hg hfin hin hsrc

theorem relaxed_shortestPaths {u : NodeId} {d : α}
    (hd : (shortestPaths g ids source).dist[u]? = some d) {e : Edge α} (he : e ∈ g.out u) :
    Relaxed (shortestPaths g ids source) d e := by
  have h := sound_shortestPaths g ids source
  have ho : Ordered g (shortestPaths g ids source) :=
    Ordered.run (fun v => by simp) hg hfin hin hsrc _ (ordered_start g source)
      (sound_start g ids source)
  refine ho.relaxed u ?_ d hd e he
  -- A reached node is settled at the end, as it would be open else.
  by_contra hns
  have hui : u ∈ ids := by
    rcases (h.reached u d hd).1 with rfl | hui
    · exact hsrc
    · exact hui
  have hopen := open?_eq_some.mpr ⟨hns, hd, h.finite hfin hd⟩
  rw [open?_shortestPaths g source hui] at hopen
  exact absurd hopen (by simp)

theorem exists_dist_of_isPath {v : NodeId} {es : List (Edge α)} (h : g.IsPath source es v) :
    ∃ d, (shortestPaths g ids source).dist[v]? = some d ∧ leq d (cost es) = true := by
  induction es using List.reverseRecOn generalizing v with
  | nil =>
      have hv : source = v := h
      subst hv
      refine ⟨ofNat 0, ?_, OrderedQuantity.zero_leq_zero⟩
      exact (sound_shortestPaths g ids source).dist_source
  | append_singleton es e ih =>
      obtain ⟨u, hes, he, rfl⟩ := isPath_append.mp h
      obtain ⟨d, hd, hle⟩ := ih hes
      obtain ⟨d', hd', hle'⟩ := relaxed_shortestPaths hg hfin hin hsrc hd he
      refine ⟨d', hd', OrderedQuantity.leq_trans hle' ?_⟩
      rw [cost_concat]
      exact OrderedQuantity.add_leq_add
        ((sound_shortestPaths g ids source).zero_leq hg hd) (hg u e he) hle

/-- **The nodes reached are those that edges lead to.** -/
theorem mem_dist_iff_reaches {v : NodeId} :
    v ∈ (shortestPaths g ids source).dist ↔ g.Reaches source v := by
  constructor
  · intro hv
    obtain ⟨d, hd⟩ := Map.mem_iff_exists_getElem?.mp hv
    obtain ⟨-, es, hes⟩ := (sound_shortestPaths g ids source).reached v d hd
    exact ⟨es, hes.branch.isPath⟩
  · intro hx
    obtain ⟨es, hes⟩ := hx
    obtain ⟨d, hd, -⟩ := exists_dist_of_isPath hg hfin hin hsrc hes
    exact Map.mem_iff_exists_getElem?.mpr ⟨d, hd⟩

/-- **What a search gives a node is its distance.** -/
theorem isDistance_of_dist {v : NodeId} {d : α}
    (hd : (shortestPaths g ids source).dist[v]? = some d) : g.IsDistance source v d := by
  obtain ⟨-, es, hes⟩ := (sound_shortestPaths g ids source).reached v d hd
  refine ⟨⟨es, hes.branch.isPath, hes.cost_eq⟩, fun es' hes' => ?_⟩
  obtain ⟨d', hd', hle⟩ := exists_dist_of_isPath hg hfin hin hsrc hes'
  rw [hd, Option.some.injEq] at hd'
  rw [hd']
  exact hle

end Distance

end TunnelMesh.Search
