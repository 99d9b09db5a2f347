/-
Requests come back from the calls that build them.

A draft may be given any calls in any order.  Its text puts the interface first and
the peers after it, and reading ends a peer where the next one starts.  Neither loses
anything: of the interface the last values count, and the peers are read as the blocks
that the calls stand for, in the order of the calls.
-/
import TunnelMesh.Proofs.Tunnel.Request

namespace TunnelMesh

open Request (Group)

/-! ### Blocks of peers -/

namespace PeerConfig

/-- The block that sets a peer. With `clear`, a missing keepalive is set to zero. An endpoint is set
without its flow label, if it has one. -/
def block (p : PeerConfig) (clear : Bool) : PeerBlock where
  publicKey := p.publicKey
  presharedKey := p.presharedKey
  endpoint := p.endpoint.map Net.SocketAddress.unlabelled
  keepalive := p.keepalive.or (if clear then some 0 else none)
  replaceAllowedIps := true
  allowedIps := p.allowedIps

/-- The lines of a peer, as a group. -/
def group (p : PeerConfig) (clear : Bool) : Group :=
  (p.publicKey,
    (p.presharedKey.map PeerLine.presharedKey).toList ++ (p.endpoint.map .endpoint).toList ++
      ((p.keepalive.or (if clear then some 0 else none)).map .keepalive).toList ++
      [.replaceAllowedIps true] ++ p.allowedIps.map .allowedIp)

theorem requestLines_eq (p : PeerConfig) (clear : Bool) :
    p.requestLines clear = (p.group clear).lines := by
  have hips : (p.allowedIps.map PeerLine.allowedIp).map RequestLine.peer =
      p.allowedIps.map fun n => RequestLine.peer (.allowedIp n) := by
    rw [List.map_map]
    rfl
  rw [requestLines, group, Request.Group.lines]
  dsimp only
  rw [List.map_append, hips]
  cases p.presharedKey <;> cases p.endpoint <;> cases p.keepalive <;> cases clear <;> rfl

theorem foldl_allowedIps (ns : List Net.Subnet) (b : PeerBlock) :
    (ns.map PeerLine.allowedIp).foldl PeerBlock.set b =
      { b with allowedIps := b.allowedIps ++ ns } := by
  induction ns generalizing b with
  | nil => simp
  | cons n ns ih =>
      rw [List.map_cons, List.foldl_cons, ih]
      simp [PeerBlock.set]

theorem readBlock_group (p : PeerConfig) (clear : Bool) :
    (p.group clear).readBlock = p.block clear := by
  have hips : (p.allowedIps.map PeerLine.allowedIp).map PeerLine.readBack =
      p.allowedIps.map .allowedIp := by
    rw [List.map_map]
    rfl
  rw [group, Request.Group.readBlock, Request.Group.readBack, Request.Group.block]
  dsimp only
  rw [List.map_append, hips, List.foldl_append, foldl_allowedIps, block]
  cases p.presharedKey <;> cases p.endpoint <;> cases p.keepalive <;> cases clear <;> rfl

end PeerConfig

/-- The block that takes a peer away. -/
def PeerBlock.removal (key : PublicKey) : PeerBlock := { publicKey := key, remove := true }

/-! ### Calls -/

/-- Whether something that was there is gone. -/
def Gone {α : Type} (previous next : Option α) : Prop := previous ≠ none ∧ next = none

instance {α : Type} [DecidableEq α] (previous next : Option α) : Decidable (Gone previous next) :=
  inferInstanceAs (Decidable (_ ∧ _))

namespace Request.Draft

/-- A call on a draft. -/
inductive Call where
  | privateKey (key : PrivateKey)
  | listenPort (port : UInt16)
  | fwmark (mark : UInt32)
  | replacePeers
  | peer (peer : PeerConfig)
  | peers (peers : List PeerConfig)
  | updatePeer (previous next : PeerConfig)
  | removePeer (key : PublicKey)
deriving DecidableEq

/-- The draft after a call. -/
def after (d : Draft) : Call → Draft
  | .privateKey k => { d with privateKey := some k }
  | .listenPort p => { d with listenPort := some p }
  | .fwmark m => { d with fwmark := some m }
  | .replacePeers => { d with replacePeers := true }
  | .peer p => d.peer p
  | .peers ps => d.addPeers ps
  | .updatePeer previous next => d.updatePeer previous next
  | .removePeer k => d.removePeer k

namespace Call

def privateKey? : Call → Option PrivateKey
  | privateKey k => some k
  | _ => none

def listenPort? : Call → Option UInt16
  | listenPort p => some p
  | _ => none

def fwmark? : Call → Option UInt32
  | fwmark m => some m
  | _ => none

/-- What a call says about peers. An endpoint or a preshared key that is gone takes the peer away
first; a keepalive that is gone is set to zero. -/
def blocks : Call → List PeerBlock
  | peer p => [p.block false]
  | peers ps => ps.map fun p => p.block false
  | updatePeer previous next =>
    if Gone previous.endpoint next.endpoint ∨ Gone previous.presharedKey next.presharedKey then
      [.removal next.publicKey, next.block false]
    else [next.block (Gone previous.keepalive next.keepalive)]
  | removePeer k => [.removal k]
  | _ => []

/-- The lines of a call, in groups. -/
def groups : Call → List Group
  | peer p => [p.group false]
  | peers ps => ps.map fun p => p.group false
  | updatePeer previous next =>
    if Gone previous.endpoint next.endpoint ∨ Gone previous.presharedKey next.presharedKey then
      [(next.publicKey, [.remove true]), next.group false]
    else [next.group (Gone previous.keepalive next.keepalive)]
  | removePeer k => [(k, [.remove true])]
  | _ => []

end Call

end Request.Draft

/-- The request that calls describe: the last value of each field of the interface, and the blocks
of the peers in the order of the calls. -/
def Request.described (calls : List Request.Draft.Call) : Request where
  privateKey := calls.reverse.findSome? (·.privateKey?)
  listenPort := calls.reverse.findSome? (·.listenPort?)
  fwmark := calls.reverse.findSome? (·.fwmark?)
  replacePeers := decide (.replacePeers ∈ calls)
  peers := calls.flatMap (·.blocks)

namespace Request.Draft

theorem dropsUnsettable_iff (previous next : PeerConfig) :
    dropsUnsettable previous next = true ↔
      Gone previous.endpoint next.endpoint ∨ Gone previous.presharedKey next.presharedKey := by
  simp [dropsUnsettable, Gone, Option.isSome_iff_ne_none]

theorem clears_eq (previous next : PeerConfig) :
    (previous.keepalive.isSome && next.keepalive.isNone) =
      decide (Gone previous.keepalive next.keepalive) := by
  cases previous.keepalive <;> cases next.keepalive <;> simp [Gone]

theorem addPeers_eq (d : Draft) (ps : List PeerConfig) :
    d.addPeers ps = { d with body := d.body ++ ps.flatMap fun p => p.requestLines false } := by
  rw [addPeers]
  induction ps generalizing d with
  | nil => simp
  | cons p ps ih =>
      rw [List.foldl_cons, ih]
      simp [peer]

theorem readBlock_groups (c : Call) : c.groups.map Group.readBlock = c.blocks := by
  have hremoval : ∀ k, Group.readBlock (k, [PeerLine.remove true]) = .removal k := fun _ => rfl
  cases c with
  | peer p => simp [Call.groups, Call.blocks, PeerConfig.readBlock_group]
  | peers ps => simp [Call.groups, Call.blocks, PeerConfig.readBlock_group]
  | removePeer k => simp [Call.groups, Call.blocks, hremoval]
  | updatePeer previous next =>
      dsimp only [Call.groups, Call.blocks]
      split
      · simp [PeerConfig.readBlock_group, hremoval]
      · simp [PeerConfig.readBlock_group]
  | privateKey _ | listenPort _ | fwmark _ | replacePeers => rfl

/-- **A call sets a field, or appends its groups of lines.** -/
theorem after_eq (d : Draft) (c : Call) :
    d.after c = {
      privateKey := c.privateKey?.or d.privateKey
      listenPort := c.listenPort?.or d.listenPort
      fwmark := c.fwmark?.or d.fwmark
      replacePeers := decide (c = .replacePeers) || d.replacePeers
      body := d.body ++ c.groups.flatMap Group.lines } := by
  have hremoval : ∀ k, Group.lines (k, [PeerLine.remove true]) =
      [.publicKey k, .peer (.remove true)] := fun _ => rfl
  cases c with
  | privateKey _ | listenPort _ | fwmark _ | replacePeers =>
      simp [after, Call.privateKey?, Call.listenPort?, Call.fwmark?, Call.groups]
  | peer p =>
      simp [after, peer, Call.privateKey?, Call.listenPort?, Call.fwmark?, Call.groups,
        PeerConfig.requestLines_eq]
  | peers ps =>
      simp [after, addPeers_eq, Call.privateKey?, Call.listenPort?, Call.fwmark?, Call.groups,
        PeerConfig.requestLines_eq, List.flatMap_map]
  | removePeer k =>
      simp [after, removePeer, Call.privateKey?, Call.listenPort?, Call.fwmark?, Call.groups,
        hremoval]
  | updatePeer previous next =>
      dsimp only [after, updatePeer, Call.groups]
      rw [clears_eq]
      by_cases hdrops : dropsUnsettable previous next = true
      · rw [if_pos hdrops, if_pos ((dropsUnsettable_iff previous next).mp hdrops)]
        simp [peer, removePeer, Call.privateKey?, Call.listenPort?, Call.fwmark?,
          PeerConfig.requestLines_eq, hremoval]
      · rw [if_neg hdrops, if_neg (mt (dropsUnsettable_iff previous next).mpr hdrops)]
        simp [Call.privateKey?, Call.listenPort?, Call.fwmark?, PeerConfig.requestLines_eq]

/-- **Calls set the fields to their last values, and append their groups in order.** -/
theorem foldl_after (calls : List Call) (d : Draft) :
    calls.foldl after d = {
      privateKey := (calls.reverse.findSome? (·.privateKey?)).or d.privateKey
      listenPort := (calls.reverse.findSome? (·.listenPort?)).or d.listenPort
      fwmark := (calls.reverse.findSome? (·.fwmark?)).or d.fwmark
      replacePeers := decide (.replacePeers ∈ calls) || d.replacePeers
      body := d.body ++ (calls.flatMap (·.groups)).flatMap Group.lines } := by
  induction calls generalizing d with
  | nil => simp
  | cons c calls ih =>
      have hlast : ∀ {β : Type} (f : Call → Option β), (c :: calls).reverse.findSome? f =
          (calls.reverse.findSome? f).or (f c) := by
        intro β f
        simp
      have hreplace : decide (Call.replacePeers ∈ c :: calls) =
          (decide (Call.replacePeers ∈ calls) || decide (c = .replacePeers)) := by
        rw [← Bool.decide_or]
        exact decide_eq_decide.mpr (List.mem_cons.trans (or_comm.trans (or_congr_right eq_comm)))
      rw [List.foldl_cons, ih, after_eq, hlast, hlast, hlast, hreplace]
      simp only [Option.or_assoc, Bool.or_assoc, List.flatMap_cons, List.flatMap_append,
        List.append_assoc]

/-- **What calls build is read back as the request that they describe.** -/
theorem ofText_build_foldl_after (calls : List Call) :
    ofText (calls.foldl after {}).build = .ok (described calls) := by
  have hbody : (calls.foldl after {}).body = (calls.flatMap (·.groups)).flatMap Group.lines := by
    rw [foldl_after]
    simp
  rw [ofText_build hbody, List.map_flatMap, foldl_after]
  simp [described, readBlock_groups]

end Request.Draft

end TunnelMesh
