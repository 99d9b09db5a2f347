/-
What a change does to a device's table.

The request for a change has one block for its peer, or two when the peer has to be
taken away first.  `Shows` says that a device has a peer as it is configured, a
keepalive of zero being none, and an endpoint being what a request can say of it: its
flow label stays behind.  When a table shows what its manager takes for the peers, then
the blocks of a change leave it showing the peers after the change.
-/
import TunnelMesh.Device.Change
import TunnelMesh.Proofs.Map
import TunnelMesh.Proofs.Tunnel.Draft
import TunnelMesh.Tunnel.Device

namespace TunnelMesh

open Request (Group)

/-! ### Requests of changes -/

namespace PeerChange

/-- The blocks of the request for a change. -/
def blocks (live : PeerMap) : PeerChange → List PeerBlock
  | set p =>
    match live[p.publicKey]? with
    | some previous =>
      if Request.Draft.dropsUnsettable previous p then [.removal p.publicKey, p.block false]
      else [p.block (previous.keepalive.isSome && p.keepalive.isNone)]
    | none => [p.block false]
  | remove k => [.removal k]

/-- **The request for a change is read back as its blocks.** -/
theorem ofText_request (live : PeerMap) (c : PeerChange) :
    Request.ofText (c.request live) = .ok { peers := c.blocks live } := by
  have hremoval : ∀ k, Request.Group.lines (k, [PeerLine.remove true]) =
      [.publicKey k, .peer (.remove true)] := fun _ => rfl
  cases c with
  | remove k =>
      have hbody : (Request.Draft.removePeer {} k).body =
          [(k, [PeerLine.remove true])].flatMap Group.lines := rfl
      exact Request.ofText_build hbody
  | set p =>
      have hset : ∀ clear, Request.ofText ({ body := p.requestLines clear } : Request.Draft).build =
          .ok { peers := [p.block clear] } := by
        intro clear
        have hbody : ({ body := p.requestLines clear } : Request.Draft).body =
            [p.group clear].flatMap Group.lines := by
          simp [PeerConfig.requestLines_eq]
        rw [Request.ofText_build hbody, List.map_singleton, PeerConfig.readBlock_group]
      rw [request, blocks]
      cases live[p.publicKey]? with
      | none => exact hset false
      | some previous =>
          dsimp only
          rw [Request.Draft.updatePeer]
          split
          · have hbody : ((Request.Draft.removePeer {} p.publicKey).peer p).body =
                [(p.publicKey, [PeerLine.remove true]), p.group false].flatMap Group.lines := by
              simp [Request.Draft.peer, Request.Draft.removePeer, PeerConfig.requestLines_eq, hremoval]
            rw [Request.ofText_build hbody, List.map_cons, List.map_singleton,
              PeerConfig.readBlock_group]
            rfl
          · exact hset _

theorem blocks_ne_nil (c : PeerChange) (live : PeerMap) : c.blocks live ≠ [] := by
  cases c with
  | remove k => exact List.cons_ne_nil _ _
  | set p =>
      rw [blocks]
      split
      · split <;> exact List.cons_ne_nil _ _
      · exact List.cons_ne_nil _ _

/-- Every block is about the peer of the change. -/
theorem publicKey_of_mem_blocks {live : PeerMap} {c : PeerChange} {b : PeerBlock}
    (h : b ∈ c.blocks live) : b.publicKey = c.key := by
  cases c with
  | remove k =>
      rw [blocks, List.mem_singleton] at h
      rw [h]
      rfl
  | set p =>
      rw [blocks] at h
      split at h
      · split at h
        · rcases List.mem_cons.mp h with rfl | h
          · rfl
          · rw [List.mem_singleton.mp h]
            rfl
        · rw [List.mem_singleton.mp h]
          rfl
      · rw [List.mem_singleton.mp h]
        rfl

end PeerChange

/-! ### Tables that show peers -/

/-- A device has a peer as it is configured; a keepalive of zero is none, and of an endpoint the flow
label is not told. -/
structure PeerStatus.Shows (s : PeerStatus) (p : PeerConfig) : Prop where
  publicKey : s.publicKey = p.publicKey
  endpoint : s.endpoint = p.endpoint.map Net.SocketAddress.unlabelled
  allowedIps : s.allowedIps = p.allowedIps
  keepalive : s.keepalive = p.keepalive.filter (· ≠ 0)

/-- A device has exactly the peers of a map, as they are configured there. -/
def PeerTable.Shows (t : PeerTable) (live : PeerMap) : Prop :=
  ∀ k : PublicKey, Option.Rel PeerStatus.Shows t[k]? live[k]?

/-- Peers are listed under their keys. -/
def PeerMap.Keyed (live : PeerMap) : Prop := ∀ (k : PublicKey) p, live[k]? = some p → p.publicKey = k

/-! ### Blocks and tables -/

namespace PeerTable

theorem getElem?_applyBlock_of_ne (t : PeerTable) {b : PeerBlock} {k : PublicKey}
    (h : b.publicKey ≠ k) : (t.applyBlock b)[k]? = t[k]? := by
  unfold applyBlock
  split
  · rw [Map.getElem?_erase, if_neg h]
  · split
    · rw [Map.getElem?_insert, if_neg h]
    · split
      · rfl
      · rw [Map.getElem?_insert, if_neg h]

theorem getElem?_foldl_applyBlock_of_ne {bs : List PeerBlock} {k : PublicKey} :
    ∀ (t : PeerTable), (∀ b ∈ bs, b.publicKey ≠ k) → (bs.foldl applyBlock t)[k]? = t[k]? := by
  induction bs with
  | nil => intro t _; rfl
  | cons b bs ih =>
      intro t h
      rw [List.foldl_cons, ih _ fun b' hb' => h b' (by simp [hb'])]
      exact t.getElem?_applyBlock_of_ne (h b (by simp))

theorem getElem?_applyBlock_removal (t : PeerTable) (k : PublicKey) :
    (t.applyBlock (.removal k))[k]? = none :=
  Std.ExtTreeMap.getElem?_erase_self

/-- Setting a peer starts from its entry, or from an empty one. -/
theorem getElem?_applyBlock_block (t : PeerTable) (p : PeerConfig) (clear : Bool) :
    (t.applyBlock (p.block clear))[p.publicKey]? =
      some ((t[p.publicKey]?.getD { publicKey := p.publicKey }).update (p.block clear)) := by
  have hkey : (p.block clear).publicKey = p.publicKey := rfl
  rw [applyBlock, if_neg (by simp [PeerConfig.block]), hkey]
  cases t[p.publicKey]? with
  | none => exact Map.getElem?_insert _ _ _ _ |>.trans (if_pos rfl)
  | some s => exact Map.getElem?_insert _ _ _ _ |>.trans (if_pos rfl)

end PeerTable

/-- A peer is shown after it is set, if nothing that it lacks is left over. -/
theorem PeerStatus.shows_update {s : PeerStatus} {p : PeerConfig} {clear : Bool}
    (hkey : s.publicKey = p.publicKey) (hend : p.endpoint = none → s.endpoint = none)
    (halive : p.keepalive = none → clear = false → s.keepalive = none) :
    (s.update (p.block clear)).Shows p := by
  refine ⟨hkey, ?_, by simp [update, PeerConfig.block], ?_⟩
  · show (p.endpoint.map Net.SocketAddress.unlabelled).or s.endpoint =
      p.endpoint.map Net.SocketAddress.unlabelled
    cases hp : p.endpoint with
    | none => exact hend hp
    | some a => rfl
  · unfold update PeerConfig.block
    dsimp only
    cases hp : p.keepalive with
    | some n =>
        rw [Option.filter_some]
        by_cases hn : n = 0 <;> simp [hn]
    | none =>
        cases clear with
        | true => simp
        | false => simpa using halive hp rfl

namespace PeerChange

/-- What a change leaves of its peer. -/
def outcome : PeerChange → Option PeerConfig
  | set p => some p
  | remove _ => none

theorem getElem?_apply (live : PeerMap) (c : PeerChange) (k : PublicKey) :
    (c.apply live)[k]? = if c.key = k then c.outcome else live[k]? := by
  cases c with
  | set p => exact Map.getElem?_insert live p.publicKey k p
  | remove k' => exact Map.getElem?_erase live k' k

theorem keyed_apply {live : PeerMap} (h : live.Keyed) (c : PeerChange) : (c.apply live).Keyed := by
  intro k p hp
  rw [getElem?_apply] at hp
  split at hp
  · rename_i hk
    cases c with
    | set q =>
        obtain rfl := Option.some.inj hp
        exact hk
    | remove k' => exact absurd hp.symm (Option.some_ne_none p)
  · exact h k p hp

end PeerChange

/-! ### Tables after changes -/

namespace PeerTable.Shows

variable {t : PeerTable} {live : PeerMap} {p previous : PeerConfig}

theorem getElem?_eq_none (h : t.Shows live) {k : PublicKey} (hk : live[k]? = none) :
    t[k]? = none := by
  have hrel := h k
  rw [hk] at hrel
  cases ht : t[k]? with
  | none => rfl
  | some s =>
      rw [ht] at hrel
      cases hrel

theorem exists_getElem?_eq_some (h : t.Shows live) {k : PublicKey} (hk : live[k]? = some p) :
    ∃ s, t[k]? = some s ∧ s.Shows p := by
  have hrel := h k
  rw [hk] at hrel
  cases ht : t[k]? with
  | none =>
      rw [ht] at hrel
      cases hrel
  | some s =>
      rw [ht] at hrel
      cases hrel with
      | some hs => exact ⟨s, rfl, hs⟩

theorem set_new (h : t.Shows live) (hnew : live[p.publicKey]? = none) :
    ∃ s, (t.applyBlock (p.block false))[p.publicKey]? = some s ∧ s.Shows p := by
  rw [getElem?_applyBlock_block, h.getElem?_eq_none hnew]
  exact ⟨_, rfl, PeerStatus.shows_update rfl (fun _ => rfl) fun _ _ => rfl⟩

/-- A peer that is taken away first leaves nothing over. -/
theorem set_again (t : PeerTable) (p : PeerConfig) :
    ∃ s, ((t.applyBlock (.removal p.publicKey)).applyBlock (p.block false))[p.publicKey]? = some s ∧
      s.Shows p := by
  rw [getElem?_applyBlock_block, getElem?_applyBlock_removal]
  exact ⟨_, rfl, PeerStatus.shows_update rfl (fun _ => rfl) fun _ _ => rfl⟩

/-- A peer is set over what it was if it drops nothing that cannot be unset. -/
theorem set_over (h : t.Shows live) (hkey : previous.publicKey = p.publicKey)
    (hprev : live[p.publicKey]? = some previous)
    (hkeeps : ¬Request.Draft.dropsUnsettable previous p = true) :
    ∃ s, (t.applyBlock (p.block (previous.keepalive.isSome && p.keepalive.isNone)))[p.publicKey]? =
      some s ∧ s.Shows p := by
  obtain ⟨s, ht, hs⟩ := h.exists_getElem?_eq_some hprev
  rw [getElem?_applyBlock_block, ht]
  refine ⟨_, rfl, PeerStatus.shows_update (hs.publicKey.trans hkey) ?_ ?_⟩
  · intro hnone
    show s.endpoint = none
    rw [hs.endpoint]
    simp only [Request.Draft.dropsUnsettable, hnone, Option.isNone_none, Bool.and_true,
      Bool.or_eq_true, not_or, Option.not_isSome_iff_eq_none] at hkeeps
    rw [hkeeps.1, Option.map_none]
  · intro hnone hclear
    show s.keepalive = none
    rw [hs.keepalive]
    simp only [hnone, Option.isNone_none, Bool.and_true] at hclear
    rw [Option.isSome_eq_false_iff, Option.isNone_iff_eq_none] at hclear
    rw [hclear]
    rfl

/-- The blocks that set a peer leave it as it is configured. -/
theorem exists_blocks_set (h : t.Shows live) (hlive : live.Keyed) (p : PeerConfig) :
    ∃ s, (((PeerChange.set p).blocks live).foldl applyBlock t)[p.publicKey]? = some s ∧
      s.Shows p := by
  rw [PeerChange.blocks]
  cases hprev : live[p.publicKey]? with
  | none => exact h.set_new hprev
  | some previous =>
      dsimp only
      split
      · exact set_again t p
      · rename_i hkeeps
        exact h.set_over (hlive _ _ hprev) hprev hkeeps

/-- **The blocks of a change leave a table showing the peers after it.** -/
theorem blocks (h : t.Shows live) (hlive : live.Keyed) (c : PeerChange) :
    ((c.blocks live).foldl applyBlock t).Shows (c.apply live) := by
  intro k
  rw [PeerChange.getElem?_apply]
  by_cases hk : c.key = k
  · rw [if_pos hk]
    subst hk
    cases c with
    | remove k =>
        rw [PeerChange.blocks, List.foldl_cons, List.foldl_nil, PeerChange.key,
          getElem?_applyBlock_removal]
        exact .none
    | set p =>
        obtain ⟨s, hs, hshows⟩ := h.exists_blocks_set hlive p
        rw [PeerChange.key, hs]
        exact .some hshows
  · rw [if_neg hk, getElem?_foldl_applyBlock_of_ne t]
    · exact h k
    · intro b hb hc
      exact hk ((PeerChange.publicKey_of_mem_blocks hb).symm.trans hc)

/-- A table shows new peers after they are set. -/
theorem foldl_block {ps : List PeerConfig} :
    ∀ {t : PeerTable} {live : PeerMap}, t.Shows live → live.Keyed →
      (∀ p ∈ ps, live[p.publicKey]? = none) → (ps.map PeerConfig.publicKey).Nodup →
        ((ps.map fun p => p.block false).foldl PeerTable.applyBlock t).Shows
          (ps.foldl (fun m p => m.insert p.publicKey p) live) := by
  induction ps with
  | nil => exact fun h _ _ _ => h
  | cons p ps ih =>
      intro t live h hkeyed hnew hnodup
      rw [List.map_cons, List.nodup_cons] at hnodup
      have hstep := h.blocks hkeyed (.set p)
      rw [PeerChange.blocks, hnew p List.mem_cons_self] at hstep
      refine ih hstep (PeerChange.keyed_apply hkeyed (.set p)) ?_ hnodup.2
      intro q hq
      dsimp only
      rw [Map.getElem?_insert, if_neg]
      · exact hnew q (List.mem_cons_of_mem _ hq)
      · intro hc
        exact hnodup.1 (List.mem_map.mpr ⟨q, hq, hc.symm⟩)

end PeerTable.Shows

end TunnelMesh
