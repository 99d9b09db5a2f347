/-
Who can be a peer.

Whatever the reason for an entry is, there are usable edges between a node and its peer
in both directions.  A usable edge is a candidate edge that both filters let pass: its
ends are live nodes of one network, and it was either configured as a link, or its
target can be reached, the access rules allow it, and a probe from the one end to the
other succeeded.
-/
import TunnelMesh.Proofs.Route.Drawing
import TunnelMesh.Proofs.Route.Return
import Mathlib

namespace TunnelMesh

variable {α : Type}

theorem Measurements.reached_iff (m : Measurements α) (observer dest : NodeId) :
    m.reached observer dest = true ↔
      ∃ ms, m.sample? .endpoint observer dest = some (.measured ms) := by
  rw [reached]
  cases m.sample? .endpoint observer dest with
  | none => simp
  | some s => cases s <;> simp

/-- Why an edge from one node to another is trusted. -/
inductive Trusted (c : GraphContext α) (links : List (Link α)) (a b : Node) (e : Edge α) : Prop
  /-- It was configured: there is an active link. -/
  | linked {l : Link α} (kind : e.kind = .explicit) (mem : l ∈ links) (active : l.active = true)
      (source : l.source = a.id) (target : l.target = b.id)
  /-- Nobody configured it, but the target can be reached, may be connected to, and was reached. -/
  | probed {ms : α} (kind : e.kind = .implicit) (advertises : b.advertises = true)
      (allowed : c.access.allows a b = true)
      (sample : c.measured.sample? .endpoint a.id b.id = some (.measured ms))

/-- What is true of a node and its peer in a plan. -/
structure Admitted (c : GraphContext α) (links : List (Link α)) (candidates : Adjacency α)
    (a b : Node) : Prop where
  live : c.live a = true
  peer_live : c.live b = true
  network : a.networkId = b.networkId
  /-- There is a trusted candidate edge to the peer. -/
  there : ∃ e ∈ candidates.out a.id, e.target = b.id ∧ Trusted c links a b e
  /-- There is one back. -/
  back : ∃ e ∈ candidates.out b.id, e.target = a.id ∧ Trusted c links b a e

/-! ### A mesh with an entry in return -/

namespace Sample

/-- Three nodes that can all be reached. -/
def triangle : List Node := [node 1 [], node 2 [], node 3 []]

/-- Links over the second node. The one from the second to the first node is slow. -/
def triangleLinks : List (Link ℚ) :=
  [(Link.new ⟨1⟩ ⟨2⟩).withHints 10 100, (Link.new ⟨2⟩ ⟨1⟩).withHints 500 100] ++
    Link.pair ⟨2⟩ ⟨3⟩ 10 100

/-- The first and the third node reached each other. -/
def probedContext : GraphContext ℚ :=
  { context with
    measured := (Measurements.empty.record ⟨1⟩ ⟨3⟩ .endpoint (.measured 10)).record ⟨3⟩ ⟨1⟩
      .endpoint (.measured 10) }

end Sample

/-! ### Peers -/

section Peers

variable [Quantity α] (c : GraphContext α) {nodes : List Node} (links : List (Link α))
  (h : (nodes.map Node.id).Nodup)

include h

/-- **A usable edge is a trusted candidate edge between live nodes of one network.** -/
theorem trusted_of_mem_usable {u : NodeId} {e : Edge α}
    (he : e ∈ (c.usableGraph nodes links).out u) :
    ∃ a ∈ nodes, a.id = u ∧ ∃ b ∈ nodes, b.id = e.target ∧ c.together a b = true ∧
      e ∈ (Candidates.build c nodes links).out u ∧ Trusted c links a b e := by
  obtain ⟨he, hkind⟩ := Candidates.mem_keepReached.mp
    ((Candidates.shaped_build c nodes links).mem_usable.mp he).1
  obtain ⟨a, ha, hu, b, hb, hab⟩ := (Candidates.mem_out_build c h links).mp he
  obtain ⟨hs, ht⟩ := GraphContext.ends_of_candidate? hab
  refine ⟨a, ha, hu, b, hb, ht.symm, ?_⟩
  obtain ⟨htogether, ⟨l, hl, -, rfl⟩ | ⟨-, hadv, hallow, rfl⟩⟩ :=
    GraphContext.candidate?_eq_some.mp hab
  · obtain ⟨hmem, hactive, hsource, htarget⟩ := activeLink?_eq_some hl
    exact ⟨htogether, he, .linked rfl hmem hactive hsource htarget⟩
  · obtain ⟨ms, hms⟩ := (c.measured.reached_iff _ _).mp (hkind.resolve_left nofun)
    exact ⟨htogether, he, .probed rfl hadv hallow hms⟩

/-- **Every peer is admitted, whether it takes subnets or not.** -/
theorem RoutingPlan.admitted_compute {v : NodeId} {p : PeerPlan}
    (hp : p ∈ (compute c nodes links).peersFor v) :
    ∃ a ∈ nodes, a.id = v ∧ ∃ b ∈ nodes, b.id = p.nodeId ∧
      Admitted c links (compute c nodes links).adjacency a b := by
  obtain ⟨e, he, ht⟩ := exists_usable_of_mem_peersFor c links h hp
  obtain ⟨e', he', ht'⟩ := c.mutual_usableGraph nodes links v e he
  obtain ⟨a, ha, hav, b, hb, hbt, htogether, hraw, htrusted⟩ := trusted_of_mem_usable c links h he
  obtain ⟨b', hb', hbt', a', ha', hat', -, hraw', htrusted'⟩ :=
    trusted_of_mem_usable c links h he'
  have haa : a' = a := List.inj_on_of_nodup_map h ha' ha (by rw [hat', ht', hav])
  have hbb : b' = b := List.inj_on_of_nodup_map h hb' hb (hbt'.trans hbt.symm)
  subst haa hbb
  obtain ⟨-, hnet, hla, hlb⟩ := (c.together_iff a' b').mp htogether
  exact ⟨a', ha, hav, b', hb, hbt.trans ht, hla, hlb, hnet,
    ⟨e, hav ▸ hraw, hbt.symm, htrusted⟩, ⟨e', hbt' ▸ hraw', hat'.symm, htrusted'⟩⟩

end Peers

/-- The second node goes over the third to the first one, which it lists in return only. -/
theorem RoutingPlan.admitted_compute_inReturn :
    (Sample.triangle.map Node.id).Nodup ∧
      ∃ p ∈ (compute Sample.probedContext Sample.triangle Sample.triangleLinks).peersFor ⟨2⟩,
        p.nodeId = ⟨1⟩ ∧ p.allowedIps = [] ∧
        ∃ a ∈ Sample.triangle, a.id = ⟨2⟩ ∧ ∃ b ∈ Sample.triangle, b.id = p.nodeId ∧
          Admitted Sample.probedContext Sample.triangleLinks
            (compute Sample.probedContext Sample.triangle Sample.triangleLinks).adjacency a b := by
  have hnodup : (Sample.triangle.map Node.id).Nodup := by decide
  have hany : ((compute Sample.probedContext Sample.triangle Sample.triangleLinks).peersFor
      ⟨2⟩).any (fun p => p.nodeId == ⟨1⟩ && p.allowedIps == []) = true := by cbv
  obtain ⟨p, hp, hid⟩ := List.any_eq_true.mp hany
  rw [Bool.and_eq_true, beq_iff_eq, beq_iff_eq] at hid
  exact ⟨hnodup, p, hp, hid.1, hid.2,
    admitted_compute Sample.probedContext Sample.triangleLinks hnodup hp⟩

end TunnelMesh
