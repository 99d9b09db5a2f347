/-
One request or many.

A device reads a request as blocks and goes through them one after the other, and what
it does with a block depends on nothing but its table.  So calls may be cut into pieces
anywhere, and as long as no block names a key that fails, the requests for the pieces
leave the device where the one request for all of them does, except that each request
is noted by itself.  The calls may be about the interface too, only not replace the
peers, since that would be done first in every piece.

A device checks a request as a whole before it goes through the blocks: whatever is
wrong with it, and be it the last block, a request that is refused changes nothing.
-/
import TunnelMesh.Proofs.Device.Manager

namespace TunnelMesh

open Request.Draft (Call)

/-! ### Requests of calls -/

namespace Request.Draft

/-- The text that calls build. -/
def textOf (calls : List Call) : String := (calls.foldl after {}).build

/-- The keys of the peers that a call names. -/
def Call.keys : Call → List PublicKey
  | peer p => [p.publicKey]
  | peers ps => ps.map PeerConfig.publicKey
  | updatePeer _ next => [next.publicKey]
  | removePeer k => [k]
  | _ => []

theorem Call.mem_keys {c : Call} {b : PeerBlock} (h : b ∈ c.blocks) : b.publicKey ∈ c.keys := by
  cases c with
  | peer p =>
      rw [blocks, List.mem_singleton] at h
      rw [h]
      exact List.mem_singleton.mpr rfl
  | peers ps =>
      obtain ⟨p, hp, rfl⟩ := List.mem_map.mp h
      exact List.mem_map.mpr ⟨p, hp, rfl⟩
  | removePeer k =>
      rw [blocks, List.mem_singleton] at h
      rw [h]
      exact List.mem_singleton.mpr rfl
  | updatePeer previous next =>
      rw [keys, List.mem_singleton]
      dsimp only [blocks] at h
      split at h
      · rcases List.mem_cons.mp h with rfl | h
        · rfl
        · rw [List.mem_singleton.mp h]
          rfl
      · rw [List.mem_singleton.mp h]
        rfl
  | privateKey _ | listenPort _ | fwmark _ | replacePeers => cases h

/-- Calls that do not replace the peers are read as what they say about the interface, and their
blocks in order. -/
theorem ofText_textOf {calls : List Call} (h : Call.replacePeers ∉ calls) :
    Request.ofText (textOf calls) = .ok {
      privateKey := calls.reverse.findSome? (·.privateKey?)
      listenPort := calls.reverse.findSome? (·.listenPort?)
      fwmark := calls.reverse.findSome? (·.fwmark?)
      peers := calls.flatMap (·.blocks) } := by
  have hdraft := foldl_after calls {}
  have hbody : (calls.foldl after {}).body =
      (calls.flatMap (·.groups)).flatMap Request.Group.lines := by
    rw [hdraft]
    rfl
  have hblocks : (calls.flatMap (·.groups)).map Request.Group.readBlock = calls.flatMap (·.blocks) := by
    rw [List.map_flatMap]
    simp only [readBlock_groups]
  rw [textOf, Request.ofText_build hbody, hblocks, hdraft]
  simp [h]

end Request.Draft

namespace MemoryDevice

open Request Request.Draft

variable {d : MemoryDevice}

/-! ### Requests that are refused -/

/-- **A request that is refused changes nothing.** -/
theorem apply_eq_error {text : String} {e : TunnelError} {d' : MemoryDevice}
    (h : d.apply text = (.error e, d')) : d' = d := by
  cases htext : Request.ofText text with
  | error _ =>
      simp only [apply, htext] at h
      exact (Prod.mk.inj h).2.symm
  | ok r =>
      cases hrefusal : d.refusal r with
      | some _ =>
          rw [apply_of_refusal htext hrefusal] at h
          exact (Prod.mk.inj h).2.symm
      | none =>
          rw [apply_of_no_refusal htext hrefusal] at h
          cases h

/-! ### Requests in pieces -/

/-- The device after texts, one after the other. -/
def applyAll (d : MemoryDevice) (texts : List String) : MemoryDevice :=
  texts.foldl (fun d text => (d.apply text).2) d

/-- The device after calls that it took as requests of its own. -/
def served (d : MemoryDevice) (calls : List Call) (texts : List String) : MemoryDevice :=
  { d with
    applied := d.applied ++ texts
    privateKey := (calls.reverse.findSome? (·.privateKey?)).or d.privateKey
    listenPort := (calls.reverse.findSome? (·.listenPort?)).or d.listenPort
    fwmark := (calls.reverse.findSome? (·.fwmark?)).or d.fwmark
    peers := (calls.flatMap (·.blocks)).foldl PeerTable.applyBlock d.peers }

/-- Nothing stands in the way of a call: it does not replace the peers, and names no failing key. -/
def Welcomes (d : MemoryDevice) (c : Call) : Prop :=
  c ≠ .replacePeers ∧ ∀ k ∈ c.keys, k ∉ d.failing

theorem served_nil (d : MemoryDevice) : d.served [] [] = d := by
  simp [served]

/-- **Calls may be served in two goes.** -/
theorem served_append (d : MemoryDevice) (calls calls' : List Call) (texts texts' : List String) :
    (d.served calls texts).served calls' texts' = d.served (calls ++ calls') (texts ++ texts') := by
  simp [served, Option.or_assoc, List.findSome?_append]

/-- **A device that welcomes calls serves them as one request.** -/
theorem apply_textOf (hcreated : d.created = true) {calls : List Call}
    (h : ∀ c ∈ calls, d.Welcomes c) :
    d.apply (textOf calls) = (.ok (), d.served calls [textOf calls]) := by
  have htext := ofText_textOf fun hmem => (h _ hmem).1 rfl
  have hnames : ∀ b ∈ calls.flatMap (·.blocks), b.publicKey ∉ d.failing := by
    intro b hb
    obtain ⟨c, hc, hbc⟩ := List.mem_flatMap.mp hb
    exact (h c hc).2 _ (Call.mem_keys hbc)
  exact apply_of_no_refusal htext ((d.refusal_eq_none_iff _).mpr ⟨hcreated, hnames⟩)

/-- **Pieces are served one after the other.** -/
theorem applyAll_textOf (pieces : List (List Call)) :
    ∀ {d : MemoryDevice}, d.created = true → (∀ c ∈ pieces.flatten, d.Welcomes c) →
      d.applyAll (pieces.map textOf) = d.served pieces.flatten (pieces.map textOf) := by
  induction pieces with
  | nil => exact fun {d} _ _ => d.served_nil.symm
  | cons piece pieces ih =>
      intro d hcreated h
      rw [List.flatten_cons] at h ⊢
      have hpiece := apply_textOf hcreated fun c hc => h c (List.mem_append_left _ hc)
      -- Serving a piece changes neither that the device exists nor the keys that fail.
      have hrest : (d.served piece [textOf piece]).applyAll (pieces.map textOf) = _ :=
        ih hcreated fun c hc => h c (List.mem_append_right _ hc)
      rw [List.map_cons, applyAll, List.foldl_cons, hpiece]
      exact hrest.trans (served_append d piece pieces.flatten [textOf piece] (pieces.map textOf))

/-- What a device makes of requests: calls can be cut into requests anywhere, but a request is
taken as a whole or not at all. -/
structure Divisible (d : MemoryDevice) : Prop where
  /-- Calls that the device welcomes lead to the same peers in one request as in pieces; only the
  requests are noted as they came. -/
  pieces : d.created = true → ∀ pieces : List (List Call),
    (∀ c ∈ pieces.flatten, d.Welcomes c) →
      (d.apply (textOf pieces.flatten)).1 = .ok () ∧
      (d.applyAll (pieces.map textOf)).peers = (d.apply (textOf pieces.flatten)).2.peers ∧
      d.applyAll (pieces.map textOf) =
        { (d.apply (textOf pieces.flatten)).2 with applied := d.applied ++ pieces.map textOf }
  /-- A request that is refused changes nothing. -/
  refused : ∀ text e d', d.apply text = (.error e, d') → d' = d
  /-- A request is refused for its text, for want of the device, or for a key that fails, in
  whichever block that is. -/
  taken : ∀ text, (d.apply text).1 = .ok () ↔
    ∃ r, Request.ofText text = .ok r ∧ d.created = true ∧ ∀ b ∈ r.peers, b.publicKey ∉ d.failing

/-- **One request or many, the peers are the same, and no request is taken in part.** -/
theorem divisible (d : MemoryDevice) : d.Divisible where
  pieces hcreated pieces h := by
    have hone := apply_textOf hcreated h
    have hmany := applyAll_textOf pieces hcreated h
    rw [hone, hmany]
    exact ⟨rfl, rfl, rfl⟩
  refused _ _ _ := apply_eq_error
  taken _ := apply_ok_iff

namespace Sample

open DeviceManager.Sample (key peer)

/-- A device with one peer, whose tunnel is up, that refuses another peer. -/
def device : MemoryDevice where
  name := "wg0"
  created := true
  peers := (∅ : PeerTable).insert (key 1)
    { publicKey := key 1, lastHandshake := some 1700000000, keepalive := some 25 }
  failing := [key 3]

/-- Calls in pieces: a peer is changed, removed and added again, each in a piece of its own. -/
def cut : List (List Call) :=
  [[.updatePeer { peer 1 with keepalive := some 25 } (peer 1), .peer (peer 2)], [],
    [.removePeer (key 1)], [.peer (peer 1)]]

/-- Calls of which only the last is about the peer that is refused. -/
def refused : List Call := [.removePeer (key 1), .peer (peer 3)]

end Sample

/-- The pieces lead where the whole does, and a request whose last peer fails changes nothing. -/
theorem divisible_cut :
    (Sample.device.applyAll (Sample.cut.map textOf)).peers =
        (Sample.device.apply (textOf Sample.cut.flatten)).2.peers ∧
      ∃ e, Sample.device.apply (textOf Sample.refused) = (.error e, Sample.device) := by
  have hwelcome : ∀ c ∈ Sample.cut.flatten, Sample.device.Welcomes c := by
    simp only [Welcomes]
    decide
  refine ⟨((divisible Sample.device).pieces rfl Sample.cut hwelcome).2.1, ?_⟩
  cases happ : Sample.device.apply (textOf Sample.refused) with
  | mk answer d' =>
      cases answer with
      | error e =>
          obtain rfl := (divisible Sample.device).refused _ e d' happ
          exact ⟨e, rfl⟩
      | ok _ =>
          obtain ⟨r, htext, -, hnames⟩ :=
            ((divisible Sample.device).taken _).mp (congrArg Prod.fst happ)
          rw [ofText_textOf (by decide)] at htext
          obtain rfl := Except.ok.inj htext
          exact absurd (hnames _ (List.mem_of_getLast? rfl)) (by decide)

end MemoryDevice

end TunnelMesh
