/-
Entries in return, exactly.

The second pass goes over the pairs of an owner and a peer that takes subnets from it,
and a peer gets an entry for each owner that it does not list.  An entry that was added
is about an owner too, so that looking at the lists as they were before the pass tells
all that is added: `Returned` says so after any number of pairs, in any order.

So there are two reasons for an entry of a finished list, and for both of them there is
a usable edge from the node to its peer: the peer is a first hop, or it has the node as
one and edges are usable in pairs only.
-/
import TunnelMesh.Proofs.Route.Plan

namespace TunnelMesh

namespace RouteGraph

section Reciprocal

variable {α : Type} {g : RouteGraph α} (raw : Adjacency α) (keepalive : Option UInt16)
  {nodes : List Node} {start peers : PeerLists} {pairs : List (NodeId × NodeId)}

/-- What the lists hold after some pairs: what they started with, and an entry for each owner that
the peer did not list. -/
def Returned (nodes : List Node) (start : PeerLists) (pairs : List (NodeId × NodeId))
    (peers : PeerLists) : Prop :=
  ∀ v p, p ∈ peers.getD v [] ↔ p ∈ start.getD v [] ∨
    ∃ owner ∈ nodes, (owner.id, v) ∈ pairs ∧ (∀ q ∈ start.getD v [], q.nodeId ≠ owner.id) ∧
      p = inReturn raw keepalive v owner

/-- **One more pair adds its entry, if it is due.** -/
theorem Returned.reciprocate (h : Returned raw keepalive nodes start pairs peers)
    (hg : Indexed nodes g) {pair : NodeId × NodeId} (hp : pair.1 ∈ nodes.map Node.id) :
    Returned raw keepalive nodes start (pairs ++ [pair])
      (g.reciprocate raw keepalive peers pair) := by
  intro v p
  rcases reciprocate_cases raw keepalive hg peers hp with
    ⟨heq, q, hq, hqid⟩ | ⟨owner, howner, hid, hnew, heq⟩
  · -- The peer lists the owner, so that there was an entry at the start, or the pair came before.
    rw [heq, h v p]
    refine or_congr_right (exists_congr fun o => and_congr_right fun ho => ?_)
    rw [List.mem_append, List.mem_singleton]
    refine ⟨fun hx => ⟨Or.inl hx.1, hx.2⟩, fun hx => ⟨?_, hx.2⟩⟩
    obtain ⟨hmem | heq, hnone, -⟩ := hx
    · exact hmem
    · subst heq
      rcases (h v q).mp hq with hstart | ⟨o', -, hmem, -, rfl⟩
      · exact absurd hqid (hnone q hstart)
      · exact (show o'.id = o.id from hqid) ▸ hmem
  · rw [heq, mem_getD_insert_append, h v p, or_assoc]
    refine or_congr_right ⟨?_, ?_⟩
    · rintro (⟨o, ho, hmem, hrest⟩ | ⟨rfl, rfl⟩)
      · exact ⟨o, ho, List.mem_append_left _ hmem, hrest⟩
      · refine ⟨owner, howner, List.mem_append_right _ (by rw [hid]; simp), fun q hq => ?_, rfl⟩
        rw [hid]
        exact hnew q ((h pair.2 q).mpr (Or.inl hq))
    · rintro ⟨o, ho, hmem, hnone, rfl⟩
      rw [List.mem_append, List.mem_singleton] at hmem
      rcases hmem with hmem | hpair
      · exact Or.inl ⟨o, ho, hmem, hnone, rfl⟩
      · subst hpair
        exact Or.inr ⟨rfl, by rw [hg.eq_of_id ho howner hid.symm]⟩

theorem Returned.foldl (hg : Indexed nodes g) :
    ∀ (rest pairs : List (NodeId × NodeId)) {peers : PeerLists},
      (∀ pair ∈ rest, pair.1 ∈ nodes.map Node.id) → Returned raw keepalive nodes start pairs peers →
      Returned raw keepalive nodes start (pairs ++ rest)
        (rest.foldl (g.reciprocate raw keepalive) peers) := by
  intro rest
  induction rest with
  | nil => intro pairs peers _ h; rwa [List.append_nil]
  | cons pair rest ih =>
      intro pairs peers hrest h
      rw [List.append_cons]
      exact ih (pairs ++ [pair]) (fun q hq => hrest q (by simp [hq]))
        (h.reciprocate raw keepalive hg (hrest pair (by simp)))

/-- **The pass adds the entries that are due, and nothing else.** -/
theorem mem_enforceSymmetry (hg : Indexed nodes g) (hstart : Listed nodes start) {v : NodeId}
    {p : PeerPlan} :
    p ∈ (g.enforceSymmetry raw keepalive start).getD v [] ↔ p ∈ start.getD v [] ∨
      ∃ owner ∈ nodes, (owner.id, v) ∈ routedPairs start ∧
        (∀ q ∈ start.getD v [], q.nodeId ≠ owner.id) ∧ p = inReturn raw keepalive v owner :=
  Returned.foldl raw keepalive hg (routedPairs start) []
    (fun _ hp => (hstart.pair_mem hp).1) (fun _ _ => by simp) v p

end Reciprocal

end RouteGraph

namespace GraphContext

variable {α : Type} [Quantity α]

/-- The entries that a node has by its own claims. -/
def ownEntries (c : GraphContext α) (nodes : List Node) (links : List (Link α)) (v : NodeId) :
    List PeerPlan :=
  ((c.routeGraph nodes links).assembledLists c.policy.keepalive).getD v []

theorem mutual_usableGraph (c : GraphContext α) (nodes : List Node) (links : List (Link α)) :
    (c.usableGraph nodes links).Mutual :=
  (Candidates.shaped_usable (Candidates.shaped_build c nodes links) c.measured).2

end GraphContext

namespace RoutingPlan

open RouteGraph

variable {α : Type} [Quantity α] (c : GraphContext α) {nodes : List Node} (links : List (Link α))
  (h : (nodes.map Node.id).Nodup)

include h

theorem assembled_of_mem_ownEntries {v : NodeId} {p : PeerPlan}
    (hp : p ∈ c.ownEntries nodes links v) :
    ∃ source ∈ nodes, source.id = v ∧ Assembled nodes (c.routeGraph nodes links) source p :=
  assembled_of_mem_lists (c.indexed_routeGraph h links) hp

/-- **A peer is one by the node's own claims, or one that claims over the node and is not listed
otherwise.** -/
theorem mem_peersFor {v : NodeId} {p : PeerPlan} :
    p ∈ (compute c nodes links).peersFor v ↔ p ∈ c.ownEntries nodes links v ∨
      ∃ owner ∈ nodes, (∃ q ∈ c.ownEntries nodes links owner.id, q.nodeId = v) ∧
        (∀ q ∈ c.ownEntries nodes links v, q.nodeId ≠ owner.id) ∧
        p = inReturn (compute c nodes links).adjacency c.policy.keepalive v owner := by
  have hg := c.indexed_routeGraph h links
  rw [peersFor, peers_compute, PeerLists.getD_map _ List.mergeSort_nil, List.mem_mergeSort,
    mem_enforceSymmetry _ _ hg (listed_assembledLists hg _)]
  refine or_congr_right (exists_congr fun owner => and_congr_right fun _ =>
    and_congr_left fun _ => mem_routedPairs.trans (exists_congr fun q => ?_))
  refine and_congr_right fun hq => and_iff_right ?_
  obtain ⟨source, -, -, hassembled⟩ := assembled_of_mem_lists hg hq
  exact hassembled.routes

/-- **There is a usable edge from a node to each of its peers.** -/
theorem exists_usable_of_mem_peersFor {v : NodeId} {p : PeerPlan}
    (hp : p ∈ (compute c nodes links).peersFor v) :
    ∃ e ∈ (c.usableGraph nodes links).out v, e.target = p.nodeId := by
  rcases (mem_peersFor c links h).mp hp with hown | ⟨owner, -, ⟨q, hq, hv⟩, -, rfl⟩
  · obtain ⟨source, -, rfl, hassembled⟩ := assembled_of_mem_ownEntries c links h hown
    exact hassembled.exists_edge
  · obtain ⟨source, -, hid, hassembled⟩ := assembled_of_mem_ownEntries c links h hq
    obtain ⟨e, he, ht⟩ := hassembled.exists_edge
    obtain ⟨e', he', ht'⟩ := c.mutual_usableGraph nodes links source.id e he
    exact ⟨e', by rwa [ht, hv] at he', ht'.trans hid⟩

end RoutingPlan

end TunnelMesh
