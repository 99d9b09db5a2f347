/-
The candidate graph, exactly.

Drawing gives the edge from one node to another as a value.  Here the graph is
described from outside, by when there is an edge of a kind and by what such an edge
says, and nothing is told of the order in which links and pairs are gone through.  A
link that joins no two fitting nodes stands in nobody's way: not in that of a later
link, and not in that of the implicit edge.
-/
import TunnelMesh.Proofs.Route.Isolation
import Mathlib

namespace TunnelMesh

variable {α : Type}

/-! ### Links that lead from one node to another -/

namespace Link

/-- An active link from one node to another. -/
def Leads (l : Link α) (a b : Node) : Prop := l.active = true ∧ l.source = a.id ∧ l.target = b.id

/-- The first of the active links from one node to another. -/
def LeadsFirst (links : List (Link α)) (a b : Node) (l : Link α) : Prop :=
  l.Leads a b ∧ ∃ before after, links = before ++ l :: after ∧ ∀ l' ∈ before, ¬l'.Leads a b

theorem leads_iff (l : Link α) (a b : Node) :
    (l.source == a.id && l.target == b.id && l.active) = true ↔ l.Leads a b := by
  rw [Leads, Bool.and_eq_true, Bool.and_eq_true, beq_iff_eq, beq_iff_eq, and_comm]

/-- The link that counts is the first active one. -/
theorem activeLink?_eq_some_iff {links : List (Link α)} {a b : Node} {l : Link α} :
    activeLink? links a.id b.id = some l ↔ LeadsFirst links a b l := by
  rw [activeLink?_eq, List.find?_eq_some_iff_append, leads_iff]
  simp only [Bool.not_eq_true', ← Bool.not_eq_true, leads_iff, LeadsFirst]

theorem activeLink?_eq_none_iff {links : List (Link α)} {a b : Node} :
    activeLink? links a.id b.id = none ↔ ¬∃ l ∈ links, l.Leads a b := by
  rw [activeLink?_eq, List.find?_eq_none]
  simp only [leads_iff, not_exists, not_and]

theorem LeadsFirst.mem {links : List (Link α)} {a b : Node} {l : Link α}
    (h : LeadsFirst links a b l) : l ∈ links := by
  obtain ⟨-, before, after, rfl, -⟩ := h
  exact List.mem_append_right _ List.mem_cons_self

theorem exists_leadsFirst {links : List (Link α)} {a b : Node} (h : ∃ l ∈ links, l.Leads a b) :
    ∃ l, LeadsFirst links a b l := by
  cases hlink : activeLink? links a.id b.id with
  | none => exact absurd h (activeLink?_eq_none_iff.mp hlink)
  | some l => exact ⟨l, activeLink?_eq_some_iff.mp hlink⟩

end Link

/-! ### What a candidate graph is -/

/-- There is an edge of a kind from one node to another. -/
def Adjacency.HasEdge (g : Adjacency α) (kind : EdgeKind) (a b : Node) : Prop :=
  ∃ e ∈ g.out a.id, e.target = b.id ∧ e.kind = kind

namespace Candidates

variable [Quantity α]

/-- A graph has the candidate edges of nodes and links, and no others. -/
structure Exact (c : GraphContext α) (nodes : List Node) (links : List (Link α))
    (g : Adjacency α) : Prop where
  mem_iff : ∀ v, v ∈ g ↔ v ∈ nodes.map Node.id
  sorted : ∀ v, (g.out v).Pairwise fun a b => compare a.target b.target = .lt
  others : ∀ v, ∀ e ∈ g.out v, e.target ≠ v
  /-- An edge is listed at its source and leads to a node. -/
  ends : ∀ v, ∀ e ∈ g.out v, e.source = v ∧ e.target ∈ nodes.map Node.id
  explicit_iff : ∀ a ∈ nodes, ∀ b ∈ nodes, g.HasEdge .explicit a b ↔
    a.id ≠ b.id ∧ (∃ l ∈ links, l.Leads a b) ∧ c.live a = true ∧ c.live b = true ∧
      a.networkId = b.networkId ∧ (a.advertises = true ∨ b.advertises = true)
  implicit_iff : ∀ a ∈ nodes, ∀ b ∈ nodes, g.HasEdge .implicit a b ↔
    ¬g.HasEdge .explicit a b ∧ b.advertises = true ∧ c.live a = true ∧ c.live b = true ∧
      a.networkId = b.networkId ∧ a.id ≠ b.id ∧ c.access.allows a b = true
  /-- An explicit edge says what the first active link says, as far as that says anything. -/
  explicit_edge : ∀ a ∈ nodes, ∀ b ∈ nodes, ∀ e ∈ g.out a.id, e.target = b.id →
    e.kind = .explicit → ∃ l, Link.LeadsFirst links a b l ∧
      e.latencyMs = (if Policy.isPositive l.latencyMs then l.latencyMs
        else (c.measured.latency? a.id b.id).getD c.policy.defaultLatencyMs) ∧
      e.upMbps = (if Policy.isPositive l.upMbps then l.upMbps else c.policy.defaultUpMbps) ∧
      e.endpoint = l.endpoint.or (b.preferred.map NodeEndpoint.dialText)
  /-- An implicit edge says what is known without a link. -/
  implicit_edge : ∀ a ∈ nodes, ∀ b ∈ nodes, ∀ e ∈ g.out a.id, e.target = b.id →
    e.kind = .implicit →
      e.latencyMs = (c.measured.latency? a.id b.id).getD c.policy.defaultLatencyMs ∧
      e.upMbps = c.policy.defaultUpMbps ∧ e.endpoint = b.preferred.map NodeEndpoint.dialText
  /-- An edge costs what the policy makes of it, and no subnet is routed over it yet. -/
  weighed : ∀ a ∈ nodes, ∀ b ∈ nodes, ∀ e ∈ g.out a.id, e.target = b.id →
    e.weight = c.policy.edgeWeight e.latencyMs e.upMbps (c.measured.handshakeAge a b c.now) ∧
      e.routes = []

/-! ### Edges between two nodes -/

section Build

variable (c : GraphContext α) {nodes : List Node} (h : (nodes.map Node.id).Nodup)
  (links : List (Link α)) {a b : Node} (ha : a ∈ nodes) (hb : b ∈ nodes)

include h ha hb

/-- The only edge between two nodes is their candidate edge. -/
theorem mem_between {e : Edge α} :
    e ∈ (build c nodes links).out a.id ∧ e.target = b.id ↔ c.candidate? links a b = some e := by
  rw [mem_out_build c h links]
  constructor
  · rintro ⟨⟨a', ha', hs, b', hb', he⟩, ht⟩
    obtain rfl := List.inj_on_of_nodup_map h ha' ha hs
    obtain rfl := List.inj_on_of_nodup_map h hb' hb
      ((GraphContext.ends_of_candidate? he).2.symm.trans ht)
    exact he
  · intro he
    exact ⟨⟨a, ha, rfl, b, hb, he⟩, (GraphContext.ends_of_candidate? he).2⟩

theorem hasEdge_iff {kind : EdgeKind} :
    (build c nodes links).HasEdge kind a b ↔
      ∃ e, c.candidate? links a b = some e ∧ e.kind = kind := by
  unfold Adjacency.HasEdge
  simp only [← and_assoc, mem_between c h links ha hb]

/-- **There is an explicit edge where an active link leads between fitting nodes.** -/
theorem hasEdge_explicit_iff :
    (build c nodes links).HasEdge .explicit a b ↔
      c.together a b = true ∧ (∃ l ∈ links, l.Leads a b) ∧
        (a.advertises || b.advertises) = true := by
  rw [hasEdge_iff c h links ha hb]
  constructor
  · rintro ⟨e, he, hkind⟩
    obtain ⟨htogether, ⟨l, hl, hreach, -⟩ | ⟨-, -, -, rfl⟩⟩ := GraphContext.candidate?_eq_some.mp he
    · have hfirst := Link.activeLink?_eq_some_iff.mp hl
      exact ⟨htogether, ⟨l, hfirst.mem, hfirst.1⟩, hreach⟩
    · cases hkind
  · rintro ⟨htogether, hlinks, hreach⟩
    obtain ⟨l, hfirst⟩ := Link.exists_leadsFirst hlinks
    have hl := Link.activeLink?_eq_some_iff.mpr hfirst
    exact ⟨_, GraphContext.candidate?_eq_some.mpr ⟨htogether, .inl ⟨l, hl, hreach, rfl⟩⟩, rfl⟩

/-- **There is an implicit edge where no link leads and the target may be reached.** -/
theorem hasEdge_implicit_iff :
    (build c nodes links).HasEdge .implicit a b ↔
      c.together a b = true ∧ (¬∃ l ∈ links, l.Leads a b) ∧ b.advertises = true ∧
        c.access.allows a b = true := by
  rw [hasEdge_iff c h links ha hb]
  constructor
  · rintro ⟨e, he, hkind⟩
    obtain ⟨htogether, ⟨l, -, -, rfl⟩ | ⟨hnone, hreach, hallow, -⟩⟩ :=
      GraphContext.candidate?_eq_some.mp he
    · cases hkind
    · exact ⟨htogether, Link.activeLink?_eq_none_iff.mp hnone, hreach, hallow⟩
  · rintro ⟨htogether, hlinks, hreach, hallow⟩
    have hnone := Link.activeLink?_eq_none_iff.mpr hlinks
    exact ⟨_, GraphContext.candidate?_eq_some.mpr
      ⟨htogether, .inr ⟨hnone, hreach, hallow, rfl⟩⟩, rfl⟩

/-- An edge between two nodes is that of the first active link, or the implicit one. -/
theorem eq_of_mem_between {e : Edge α} (he : e ∈ (build c nodes links).out a.id)
    (ht : e.target = b.id) :
    (∃ l, Link.LeadsFirst links a b l ∧ e = c.explicitEdge l a b) ∨ e = c.implicitEdge a b := by
  have hcand := (mem_between c h links ha hb).mp ⟨he, ht⟩
  obtain ⟨-, ⟨l, hl, -, rfl⟩ | ⟨-, -, -, rfl⟩⟩ := GraphContext.candidate?_eq_some.mp hcand
  · exact .inl ⟨l, Link.activeLink?_eq_some_iff.mp hl, rfl⟩
  · exact .inr rfl

end Build

/-- **The candidate graph of nodes with distinct ids is what it should be.** -/
theorem exact_build (c : GraphContext α) {nodes : List Node} (h : (nodes.map Node.id).Nodup)
    (links : List (Link α)) : Exact c nodes links (build c nodes links) := by
  have hshaped := shaped_build c nodes links
  constructor
  case mem_iff => exact hshaped.mem_iff
  case sorted => exact hshaped.sorted
  case others => exact fun v e he => (hshaped.ends v e he).1
  case ends => exact fun v e he => ⟨hshaped.sourced v e he, (hshaped.ends v e he).2⟩
  case explicit_iff =>
    intro a ha b hb
    rw [hasEdge_explicit_iff c h links ha hb, c.together_iff, Bool.or_eq_true]
    tauto
  case implicit_iff =>
    intro a ha b hb
    rw [hasEdge_explicit_iff c h links ha hb, hasEdge_implicit_iff c h links ha hb,
      c.together_iff, Bool.or_eq_true]
    constructor
    · rintro ⟨⟨hne, hnet, hla, hlb⟩, hlinks, hreach, hallow⟩
      exact ⟨fun hexplicit => hlinks hexplicit.2.1, hreach, hla, hlb, hnet, hne, hallow⟩
    · -- The target can be reached, so that only a missing link keeps the edge from being explicit.
      rintro ⟨hnot, hreach, hla, hlb, hnet, hne, hallow⟩
      have htogether : a.id ≠ b.id ∧ a.networkId = b.networkId ∧ c.live a = true ∧
          c.live b = true := ⟨hne, hnet, hla, hlb⟩
      exact ⟨htogether, fun hlinks => hnot ⟨htogether, hlinks, .inr hreach⟩, hreach, hallow⟩
  case explicit_edge =>
    intro a ha b hb e he ht hkind
    rcases eq_of_mem_between c h links ha hb he ht with ⟨l, hfirst, rfl⟩ | rfl
    · exact ⟨l, hfirst, rfl, rfl, rfl⟩
    · cases hkind
  case implicit_edge =>
    intro a ha b hb e he ht hkind
    rcases eq_of_mem_between c h links ha hb he ht with ⟨l, -, rfl⟩ | rfl
    · cases hkind
    · exact ⟨rfl, rfl, rfl⟩
  case weighed =>
    intro a ha b hb e he ht
    rcases eq_of_mem_between c h links ha hb he ht with ⟨l, -, rfl⟩ | rfl
    · exact ⟨rfl, rfl⟩
    · exact ⟨rfl, rfl⟩

end Candidates

/-! ### Links that do not all count -/

namespace Sample

/-- A link that is switched off, two from the first to the second node, and one to a stranger. -/
def wiring : List (Link ℚ) :=
  [{ (Link.new ⟨1⟩ ⟨2⟩).withHints 3 3 with active := false }, (Link.new ⟨1⟩ ⟨2⟩).withHints 0 20,
    (Link.new ⟨1⟩ ⟨2⟩).withHints 10 10, Link.new ⟨1⟩ ⟨5⟩]

end Sample

/-- The first node has a link to the second, which says nothing of the latency, and to the stranger,
who is in another network; the third node has none. -/
theorem Candidates.exact_build_wiring :
    (Sample.crowd.map Node.id).Nodup ∧
      Exact Sample.liveContext Sample.crowd Sample.wiring
        (build Sample.liveContext Sample.crowd Sample.wiring) ∧
      ((build Sample.liveContext Sample.crowd Sample.wiring).out ⟨1⟩).map
        (fun e => (e.target, e.kind, e.latencyMs, e.upMbps)) =
          [(⟨2⟩, .explicit, 50, 20), (⟨3⟩, .implicit, 50, 100)] := by
  have hnodup : (Sample.crowd.map Node.id).Nodup := by decide
  exact ⟨hnodup, exact_build Sample.liveContext hnodup Sample.wiring, by cbv⟩

end TunnelMesh
