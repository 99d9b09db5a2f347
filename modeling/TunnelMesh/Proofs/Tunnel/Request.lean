/-
Requests come back from the texts of drafts.

The lines about peers come in groups: a `public_key` line and what belongs to it.
Every call on a draft appends whole groups, so that each line of a draft stands where
it may, and the request that is read has one block for each group, as its lines are
read back.
-/
import TunnelMesh.Proofs.Tunnel.Line
import TunnelMesh.Tunnel.Request

namespace TunnelMesh

open Text

namespace Request

/-! ### Reading placed lines -/

/-- Whether a line starts a peer. -/
def startsPeer : RequestLine → Bool
  | .publicKey _ => true
  | _ => false

/-- Each line stands where it may. -/
def Placed : Bool → List RequestLine → Prop
  | _, [] => True
  | inPeer, l :: ls => l.Fits inPeer ∧ Placed (inPeer || startsPeer l) ls

theorem placed_append {inPeer : Bool} {ls ls' : List RequestLine} (h : Placed inPeer ls)
    (h' : Placed (inPeer || ls.any startsPeer) ls') : Placed inPeer (ls ++ ls') := by
  induction ls generalizing inPeer with
  | nil => simpa using h'
  | cons l ls ih =>
      refine ⟨h.1, ih h.2 ?_⟩
      rwa [Bool.or_assoc, ← List.any_cons]

theorem isSome_push (r : Reading) (l : RequestLine) :
    (r.push l).current.isSome = (r.current.isSome || startsPeer l) := by
  cases l with
  | publicKey k => simp [Reading.push, startsPeer]
  | interface l => simp [Reading.push, startsPeer]
  | peer l => simp [Reading.push, startsPeer]

theorem startsPeer_readBack (l : RequestLine) : startsPeer l.readBack = startsPeer l := by
  cases l <;> rfl

theorem isEmpty_toText (l : RequestLine) : l.toText.isEmpty = false := by
  have hne : l.toText ≠ "" := by
    intro hc
    have hlen := congrArg (fun s => s.toList.length) hc
    rw [l.toText_eq] at hlen
    simp at hlen
  rw [← Bool.not_eq_true, String.isEmpty_iff]
  exact hne

theorem run_toText (ls : List RequestLine) :
    ∀ (r : Reading) (number : Nat), Placed r.current.isSome ls →
      r.run number (ls.map RequestLine.toText ++ [""]) =
        .ok ((ls.map RequestLine.readBack).foldl Reading.push r).finish := by
  induction ls with
  | nil => intro r number _; rfl
  | cons l ls ih =>
      intro r number h
      rw [List.map_cons, List.cons_append, Reading.run, isEmpty_toText, if_neg (by simp),
        RequestLine.read_toText h.1]
      refine ih (r.push l.readBack) (number + 1) ?_
      rw [isSome_push, startsPeer_readBack]
      exact h.2

/-- The lines of a draft's text are those of the draft, and an empty one. -/
theorem lines_build (d : Draft) : Text.lines d.build = d.lines.map RequestLine.toText ++ [""] := by
  have htext : d.lines.map (fun l => l.toText ++ "\n") =
      (d.lines.map RequestLine.toText).map fun l => l ++ "\n" := by
    rw [List.map_map]
    rfl
  have hgraphic : ∀ s ∈ d.lines.map RequestLine.toText, Graphic s.toList := by
    intro s hs
    obtain ⟨l, -, rfl⟩ := List.mem_map.mp hs
    exact l.graphic_toText
  rw [Draft.build, htext, lines_join hgraphic]

/-- **The text of a draft is read line by line.** -/
theorem ofText_build_of_placed (d : Draft) (h : Placed false d.lines) :
    ofText d.build = .ok ((d.lines.map RequestLine.readBack).foldl Reading.push {}).finish := by
  rw [ofText, lines_build]
  exact run_toText d.lines {} 1 h

/-! ### Groups -/

/-- A peer's key and the lines that belong to it. -/
abbrev Group := PublicKey × List PeerLine

namespace Group

/-- All lines of a group. -/
def lines (g : Group) : List RequestLine := .publicKey g.1 :: g.2.map .peer

/-- What a group says about its peer. -/
def block (g : Group) : PeerBlock := g.2.foldl PeerBlock.set { publicKey := g.1 }

/-- The group that the texts of its lines are read as. -/
def readBack (g : Group) : Group := (g.1, g.2.map PeerLine.readBack)

theorem map_readBack_lines (g : Group) : g.lines.map RequestLine.readBack = g.readBack.lines := by
  rw [lines, readBack, lines, List.map_cons, List.map_map, List.map_map]
  rfl

/-- The block that the text of a group is read as. -/
def readBlock (g : Group) : PeerBlock := g.readBack.block

end Group

theorem placed_peers (ls : List PeerLine) : Placed true (ls.map .peer) := by
  induction ls with
  | nil => trivial
  | cons l ls ih => exact ⟨rfl, ih⟩

theorem placed_groups (gs : List Group) (inPeer : Bool) : Placed inPeer (gs.flatMap Group.lines) := by
  induction gs generalizing inPeer with
  | nil => trivial
  | cons g gs ih =>
      rw [List.flatMap_cons]
      refine placed_append ⟨trivial, ?_⟩ (ih _)
      rw [startsPeer, Bool.or_true]
      exact placed_peers g.2

theorem foldl_peers (ls : List PeerLine) (r : Request) (b : PeerBlock) :
    (ls.map RequestLine.peer).foldl Reading.push ⟨r, some b⟩ = ⟨r, some (ls.foldl PeerBlock.set b)⟩ := by
  induction ls generalizing b with
  | nil => rfl
  | cons l ls ih => exact ih (b.set l)

/-- Reading groups appends their blocks. -/
theorem finish_foldl_groups (gs : List Group) (r : Reading) :
    ((gs.flatMap Group.lines).foldl Reading.push r).finish =
      { r.finish with peers := r.finish.peers ++ gs.map Group.block } := by
  induction gs generalizing r with
  | nil => simp
  | cons g gs ih =>
      have hgroup : (Group.lines g).foldl Reading.push r = ⟨r.finish, some (Group.block g)⟩ :=
        foldl_peers g.2 r.finish { publicKey := g.1 }
      rw [List.flatMap_cons, List.foldl_append, hgroup, ih]
      simp [Reading.finish]

/-! ### Interface lines -/

theorem placed_interface (ls : List InterfaceLine) : Placed false (ls.map .interface) := by
  induction ls with
  | nil => trivial
  | cons l ls ih => exact ⟨rfl, ih⟩

theorem map_readBack_interface (ls : List InterfaceLine) :
    (ls.map RequestLine.interface).map RequestLine.readBack = ls.map .interface := by
  rw [List.map_map]
  rfl

theorem foldl_interface (ls : List InterfaceLine) (r : Request) :
    (ls.map RequestLine.interface).foldl Reading.push ⟨r, none⟩ =
      ⟨ls.foldl setInterface r, none⟩ := by
  induction ls generalizing r with
  | nil => rfl
  | cons l ls ih => exact ih (r.setInterface l)

/-- **A draft of groups is read back as the request that it describes.** -/
theorem ofText_build {d : Draft} {gs : List Group} (h : d.body = gs.flatMap Group.lines) :
    ofText d.build =
      .ok ⟨d.privateKey, d.listenPort, d.fwmark, d.replacePeers, gs.map Group.readBlock⟩ := by
  obtain ⟨ls, hls, hset⟩ : ∃ ls : List InterfaceLine, d.interfaceLines = ls.map .interface ∧
      ls.foldl setInterface {} = ⟨d.privateKey, d.listenPort, d.fwmark, d.replacePeers, []⟩ := by
    refine ⟨(d.privateKey.map .privateKey).toList ++ (d.listenPort.map .listenPort).toList ++
      (d.fwmark.map .fwmark).toList ++ (if d.replacePeers then [.replacePeers true] else []), ?_, ?_⟩
    · rw [Draft.interfaceLines]
      cases d.privateKey <;> cases d.listenPort <;> cases d.fwmark <;> cases d.replacePeers <;> rfl
    · cases d.privateKey <;> cases d.listenPort <;> cases d.fwmark <;> cases d.replacePeers <;> rfl
  have hlines : d.lines = ls.map .interface ++ gs.flatMap Group.lines := by
    rw [Draft.lines, hls, h]
  have hgroups : (gs.flatMap Group.lines).map RequestLine.readBack =
      (gs.map Group.readBack).flatMap Group.lines := by
    rw [List.map_flatMap, List.flatMap_map]
    exact congrArg (gs.flatMap ·) (funext Group.map_readBack_lines)
  rw [ofText_build_of_placed d, hlines, List.map_append, map_readBack_interface, hgroups,
    List.foldl_append, foldl_interface, finish_foldl_groups, hset, List.map_map]
  · rfl
  · rw [hlines]
    exact placed_append (placed_interface ls) (placed_groups gs _)

end Request

end TunnelMesh
