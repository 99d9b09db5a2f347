/-
The grammar of requests.

A request is lines about the interface, then for each peer its `public_key` line and
the lines that belong to it, then an empty line.  The grammar says this of the lines of
a text without going through the reader: which keys there are and what a value must be,
where a line may stand, and what the lines say taken together.  The reader accepts just
these texts, and gives what they say.  Where it refuses one, the line that it names is
the first that cannot be part of any request.
-/
import TunnelMesh.Proofs.Text.Opening
import TunnelMesh.Proofs.Tunnel.Request
import TunnelMesh.Proofs.Tunnel.Value

namespace TunnelMesh

open Net Text

/-! ### Lines -/

/-- Key and value of a line about the interface. -/
inductive InterfaceLine.Spelled : String → String → InterfaceLine → Prop
  | privateKey {value : String} {k : PrivateKey} (h : PrivateKey.ofHex value = .ok k) :
      Spelled "private_key" value (.privateKey k)
  | listenPort {value : String} {p : UInt16} (h : u16? value = some p) :
      Spelled "listen_port" value (.listenPort p)
  | fwmark {value : String} {m : UInt32} (h : u32? value = some m) :
      Spelled "fwmark" value (.fwmark m)
  | replacePeers (b : Bool) : Spelled "replace_peers" (boolText b) (.replacePeers b)

/-- Key and value of a line that belongs to a peer. -/
inductive PeerLine.Spelled : String → String → PeerLine → Prop
  | remove (b : Bool) : Spelled "remove" (boolText b) (.remove b)
  | updateOnly (b : Bool) : Spelled "update_only" (boolText b) (.updateOnly b)
  | presharedKey {value : String} {k : PresharedKey} (h : PresharedKey.ofHex value = .ok k) :
      Spelled "preshared_key" value (.presharedKey k)
  | endpoint {value : String} {a : SocketAddress} (h : SocketAddress.ofText? value = some a) :
      Spelled "endpoint" value (.endpoint a)
  | keepalive {value : String} {n : UInt16} (h : u16? value = some n) :
      Spelled "persistent_keepalive_interval" value (.keepalive n)
  | replaceAllowedIps (b : Bool) :
      Spelled "replace_allowed_ips" (boolText b) (.replaceAllowedIps b)
  | allowedIp {value : String} {n : Subnet} (h : readAllowedIp value = .ok n) :
      Spelled "allowed_ip" value (.allowedIp n)

/-- Key and value of a line of a request. -/
inductive RequestLine.Spelled : String → String → RequestLine → Prop
  | publicKey {value : String} {k : PublicKey} (h : PublicKey.ofHex value = .ok k) :
      Spelled "public_key" value (.publicKey k)
  | interface {key value : String} {l : InterfaceLine} (h : l.Spelled key value) :
      Spelled key value (.interface l)
  | peer {key value : String} {l : PeerLine} (h : l.Spelled key value) :
      Spelled key value (.peer l)

/-- What a line says, split at its first equals sign. -/
def RequestLine.States (line : String) (l : RequestLine) : Prop :=
  ∃ key value, line = key ++ "=" ++ value ∧ '=' ∉ key.toList ∧ Spelled key value l

theorem InterfaceLine.read_eq_ok_iff {key value : String} {l : InterfaceLine} :
    read key value = .ok l ↔ Spelled key value l := by
  constructor
  · intro h
    unfold read at h
    split_ifs at h with hprivate hport hmark hreplace
    · obtain ⟨k, hk, rfl⟩ := map_eq_ok_iff.mp (mapError_eq_ok_iff.mp h)
      exact hprivate ▸ .privateKey hk
    · obtain ⟨p, hp, rfl⟩ := map_eq_ok_iff.mp h
      exact hport ▸ .listenPort (readValue_eq_ok_iff.mp hp)
    · obtain ⟨m, hm, rfl⟩ := map_eq_ok_iff.mp h
      exact hmark ▸ .fwmark (readValue_eq_ok_iff.mp hm)
    · obtain ⟨b, hb, rfl⟩ := map_eq_ok_iff.mp h
      rw [hreplace, readBool_eq_ok_iff.mp hb]
      exact .replacePeers b
  · intro h
    cases h with
    | privateKey h => simp [read, h, Except.map, Except.mapError]
    | listenPort h => simp [read, readValue_eq_ok_iff.mpr h, Except.map]
    | fwmark h => simp [read, readValue_eq_ok_iff.mpr h, Except.map]
    | replacePeers b => simp [read, readBool_boolText, Except.map]

theorem PeerLine.read_eq_ok_iff {key value : String} {l : PeerLine} :
    read key value = .ok l ↔ Spelled key value l := by
  constructor
  · intro h
    unfold read at h
    split_ifs at h with hremove hupdate hpsk hendpoint hkeepalive hreplace hallowed
    · obtain ⟨b, hb, rfl⟩ := map_eq_ok_iff.mp h
      rw [hremove, readBool_eq_ok_iff.mp hb]
      exact .remove b
    · obtain ⟨b, hb, rfl⟩ := map_eq_ok_iff.mp h
      rw [hupdate, readBool_eq_ok_iff.mp hb]
      exact .updateOnly b
    · obtain ⟨k, hk, rfl⟩ := map_eq_ok_iff.mp (mapError_eq_ok_iff.mp h)
      exact hpsk ▸ .presharedKey hk
    · obtain ⟨a, ha, rfl⟩ := map_eq_ok_iff.mp h
      exact hendpoint ▸ .endpoint (readValue_eq_ok_iff.mp ha)
    · obtain ⟨n, hn, rfl⟩ := map_eq_ok_iff.mp h
      exact hkeepalive ▸ .keepalive (readValue_eq_ok_iff.mp hn)
    · obtain ⟨b, hb, rfl⟩ := map_eq_ok_iff.mp h
      rw [hreplace, readBool_eq_ok_iff.mp hb]
      exact .replaceAllowedIps b
    · obtain ⟨n, hn, rfl⟩ := map_eq_ok_iff.mp h
      exact hallowed ▸ .allowedIp (readSubnet_eq_ok_iff.mp hn)
  · intro h
    cases h with
    | remove b => simp [read, readBool_boolText, Except.map]
    | updateOnly b => simp [read, readBool_boolText, Except.map]
    | presharedKey h => simp [read, h, Except.map, Except.mapError]
    | endpoint h => simp [read, readValue_eq_ok_iff.mpr h, Except.map]
    | keepalive h => simp [read, readValue_eq_ok_iff.mpr h, Except.map]
    | replaceAllowedIps b => simp [read, readBool_boolText, Except.map]
    | allowedIp h => simp [read, readSubnet_eq_ok_iff.mpr h, Except.map]

/-- **A line is read as what it says, where it may stand.** -/
theorem RequestLine.read_eq_ok_iff {inPeer : Bool} {line : String} {l : RequestLine} :
    read inPeer line = .ok l ↔ States line l ∧ l.Fits inPeer := by
  constructor
  · intro h
    unfold read at h
    split at h
    · simp at h
    · rename_i key value hsplit
      obtain ⟨hline, hkey⟩ := splitLine_eq_ok_iff.mp hsplit
      split_ifs at h with hpublic hin
      · obtain ⟨k, hk, rfl⟩ := map_eq_ok_iff.mp (mapError_eq_ok_iff.mp h)
        exact ⟨⟨key, value, hline, hkey, hpublic ▸ .publicKey hk⟩, trivial⟩
      · obtain ⟨l, hl, rfl⟩ := map_eq_ok_iff.mp h
        exact ⟨⟨key, value, hline, hkey, .peer (PeerLine.read_eq_ok_iff.mp hl)⟩, hin⟩
      · obtain ⟨l, hl, rfl⟩ := map_eq_ok_iff.mp h
        have hout : inPeer = false := by simpa using hin
        exact ⟨⟨key, value, hline, hkey, .interface (InterfaceLine.read_eq_ok_iff.mp hl)⟩, hout⟩
  · rintro ⟨⟨key, value, hline, hkey, hspelled⟩, hfits⟩
    have hsplit : splitLine line = .ok (key, value) := splitLine_eq_ok_iff.mpr ⟨hline, hkey⟩
    unfold read
    rw [hsplit]
    cases hspelled with
    | publicKey h => simp [h, Except.map, Except.mapError]
    | interface h =>
        have hne : key ≠ "public_key" := by cases h <;> decide
        have hout : inPeer = false := hfits
        simp [hne, hout, InterfaceLine.read_eq_ok_iff.mpr h, Except.map]
    | peer h =>
        have hne : key ≠ "public_key" := by cases h <;> decide
        have hin : inPeer = true := hfits
        simp [hne, hin, PeerLine.read_eq_ok_iff.mpr h, Except.map]

theorem RequestLine.States.ne_empty {line : String} {l : RequestLine} (h : States line l) :
    line ≠ "" := by
  obtain ⟨key, value, rfl, -, -⟩ := h
  intro hempty
  have hlength := congrArg (fun s => s.toList.length) hempty
  simp at hlength

/-! ### What lines say together -/

/-- The last answer that the elements of a list give. -/
def lastSome {α β : Type} (f : α → Option β) (l : List α) : Option β := l.reverse.findSome? f

theorem lastSome_cons {α β : Type} (f : α → Option β) (a : α) (l : List α) :
    lastSome f (a :: l) = (lastSome f l).or (f a) := by
  simp [lastSome]

namespace InterfaceLine

def privateKey? : InterfaceLine → Option PrivateKey
  | privateKey k => some k
  | _ => none

def listenPort? : InterfaceLine → Option UInt16
  | listenPort p => some p
  | _ => none

def fwmark? : InterfaceLine → Option UInt32
  | fwmark m => some m
  | _ => none

def replacePeers? : InterfaceLine → Option Bool
  | replacePeers b => some b
  | _ => none

end InterfaceLine

namespace PeerLine

def remove? : PeerLine → Option Bool
  | remove b => some b
  | _ => none

def updateOnly? : PeerLine → Option Bool
  | updateOnly b => some b
  | _ => none

def presharedKey? : PeerLine → Option PresharedKey
  | presharedKey k => some k
  | _ => none

def endpoint? : PeerLine → Option SocketAddress
  | endpoint a => some a
  | _ => none

def keepalive? : PeerLine → Option UInt16
  | keepalive n => some n
  | _ => none

def replaceAllowedIps? : PeerLine → Option Bool
  | replaceAllowedIps b => some b
  | _ => none

def allowedIp? : PeerLine → Option Subnet
  | allowedIp n => some n
  | _ => none

end PeerLine

namespace Request

/-- What a peer's lines say: the last value of each key, and all allowed IPs. -/
def Group.stated (g : Group) : PeerBlock where
  publicKey := g.1
  remove := (lastSome (·.remove?) g.2).getD false
  updateOnly := (lastSome (·.updateOnly?) g.2).getD false
  presharedKey := lastSome (·.presharedKey?) g.2
  endpoint := lastSome (·.endpoint?) g.2
  keepalive := lastSome (·.keepalive?) g.2
  replaceAllowedIps := (lastSome (·.replaceAllowedIps?) g.2).getD false
  allowedIps := g.2.filterMap (·.allowedIp?)

/-- The lines of a request in their parts. -/
structure Outline where
  interface : List InterfaceLine
  groups : List Group

namespace Outline

/-- All lines in order. -/
def lines (o : Outline) : List RequestLine :=
  o.interface.map .interface ++ o.groups.flatMap Group.lines

/-- What the lines say: the last value of each key, and the peers in order. -/
def request (o : Outline) : Request where
  privateKey := lastSome (·.privateKey?) o.interface
  listenPort := lastSome (·.listenPort?) o.interface
  fwmark := lastSome (·.fwmark?) o.interface
  replacePeers := (lastSome (·.replacePeers?) o.interface).getD false
  peers := o.groups.map Group.stated

end Outline

theorem foldl_setInterface (ls : List InterfaceLine) (r : Request) :
    ls.foldl setInterface r = {
      privateKey := (lastSome (·.privateKey?) ls).or r.privateKey
      listenPort := (lastSome (·.listenPort?) ls).or r.listenPort
      fwmark := (lastSome (·.fwmark?) ls).or r.fwmark
      replacePeers := (lastSome (·.replacePeers?) ls).getD r.replacePeers
      peers := r.peers } := by
  induction ls generalizing r with
  | nil => rfl
  | cons l ls ih =>
      rw [List.foldl_cons, ih]
      cases l <;> simp [setInterface, lastSome_cons, InterfaceLine.privateKey?,
        InterfaceLine.listenPort?, InterfaceLine.fwmark?, InterfaceLine.replacePeers?]

theorem foldl_set (ls : List PeerLine) (b : PeerBlock) :
    ls.foldl PeerBlock.set b = {
      publicKey := b.publicKey
      remove := (lastSome (·.remove?) ls).getD b.remove
      updateOnly := (lastSome (·.updateOnly?) ls).getD b.updateOnly
      presharedKey := (lastSome (·.presharedKey?) ls).or b.presharedKey
      endpoint := (lastSome (·.endpoint?) ls).or b.endpoint
      keepalive := (lastSome (·.keepalive?) ls).or b.keepalive
      replaceAllowedIps := (lastSome (·.replaceAllowedIps?) ls).getD b.replaceAllowedIps
      allowedIps := b.allowedIps ++ ls.filterMap (·.allowedIp?) } := by
  induction ls generalizing b with
  | nil => simp [lastSome]
  | cons l ls ih =>
      rw [List.foldl_cons, ih]
      cases l <;> simp [PeerBlock.set, lastSome_cons, PeerLine.remove?, PeerLine.updateOnly?,
        PeerLine.presharedKey?, PeerLine.endpoint?, PeerLine.keepalive?,
        PeerLine.replaceAllowedIps?, PeerLine.allowedIp?]

theorem Group.block_eq_stated (g : Group) : g.block = g.stated := by
  rw [Group.block, foldl_set, Group.stated]
  simp

/-- **Reading the lines of an outline gives what they say.** -/
theorem Outline.finish_foldl_push (o : Outline) :
    (o.lines.foldl Reading.push {}).finish = o.request := by
  have hblocks : o.groups.map Group.block = o.groups.map Group.stated :=
    List.map_congr_left fun g _ => g.block_eq_stated
  rw [lines, List.foldl_append, foldl_interface, finish_foldl_groups, hblocks, foldl_setInterface]
  simp [Reading.finish, request]

theorem Outline.placed_lines (o : Outline) : Placed false o.lines :=
  placed_append (placed_interface o.interface) (placed_groups o.groups _)

/-- Behind a `public_key` line stand the other lines of its peer, and the next peers. -/
theorem exists_groups {ls : List RequestLine} (h : Placed true ls) :
    ∃ (ps : List PeerLine) (gs : List Group), ls = ps.map .peer ++ gs.flatMap Group.lines := by
  induction ls with
  | nil => exact ⟨[], [], rfl⟩
  | cons l ls ih =>
      obtain ⟨hfits, hrest⟩ := h
      obtain ⟨ps, gs, rfl⟩ := ih (by simpa using hrest)
      cases l with
      | publicKey k => exact ⟨[], (k, ps) :: gs, by simp [Group.lines]⟩
      | interface l => exact absurd hfits (by simp [RequestLine.Fits])
      | peer l => exact ⟨l :: ps, gs, rfl⟩

/-- **Lines of which each stands where it may are those of an outline.** -/
theorem exists_outline {ls : List RequestLine} (h : Placed false ls) :
    ∃ o : Outline, o.lines = ls := by
  induction ls with
  | nil => exact ⟨⟨[], []⟩, rfl⟩
  | cons l ls ih =>
      obtain ⟨hfits, hrest⟩ := h
      cases l with
      | publicKey k =>
          obtain ⟨ps, gs, rfl⟩ := exists_groups (by simpa [startsPeer] using hrest)
          exact ⟨⟨[], (k, ps) :: gs⟩, by simp [Outline.lines, Group.lines]⟩
      | interface l =>
          obtain ⟨o, rfl⟩ := ih (by simpa [startsPeer] using hrest)
          exact ⟨⟨l :: o.interface, o.groups⟩, rfl⟩
      | peer l => exact absurd hfits (by simp [RequestLine.Fits])

/-! ### How far lines can be read -/

/-- Why reading goes no further. -/
inductive Stop (inPeer : Bool) : List String → Prop
  /-- There is no line left. -/
  | ended : Stop inPeer []
  /-- The next line is empty. -/
  | closed (rest : List String) : Stop inPeer ("" :: rest)
  /-- The next line is refused. -/
  | refused {line : String} {f : LineFault} (hne : line ≠ "")
      (h : RequestLine.read inPeer line = .error f) (rest : List String) :
      Stop inPeer (line :: rest)

theorem isSome_foldl_push (ls : List RequestLine) (r : Reading) :
    (ls.foldl Reading.push r).current.isSome = (r.current.isSome || ls.any startsPeer) := by
  induction ls generalizing r with
  | nil => simp
  | cons l ls ih => rw [List.foldl_cons, ih, isSome_push, List.any_cons, Bool.or_assoc]

/-- **Lines that say something where they may stand are read one after the other.** -/
theorem run_append {front : List String} {ls : List RequestLine}
    (h : List.Forall₂ RequestLine.States front ls) (rest : List String) :
    ∀ (r : Reading) (number : Nat), Placed r.current.isSome ls →
      r.run number (front ++ rest) =
        (ls.foldl Reading.push r).run (number + front.length) rest := by
  induction h with
  | nil => intro r number _; rfl
  | @cons line l front ls hstates _ ih =>
      intro r number hplaced
      have hempty : line.isEmpty = false := by simpa using hstates.ne_empty
      have hread : RequestLine.read r.current.isSome line = .ok l :=
        RequestLine.read_eq_ok_iff.mpr ⟨hstates, hplaced.1⟩
      have hrest : Placed (r.push l).current.isSome ls := by
        rw [isSome_push]
        exact hplaced.2
      rw [List.cons_append, Reading.run, hempty, if_neg (by simp), hread]
      dsimp only
      rw [ih (r.push l) (number + 1) hrest, List.foldl_cons, List.length_cons]
      congr 1
      omega

/-- **Lines are read up to one of the three ends.** -/
theorem exists_stop (ss : List String) :
    ∀ inPeer, ∃ front ls rest, ss = front ++ rest ∧ List.Forall₂ RequestLine.States front ls ∧
      Placed inPeer ls ∧ Stop (inPeer || ls.any startsPeer) rest := by
  induction ss with
  | nil => exact fun inPeer => ⟨[], [], [], rfl, .nil, trivial, .ended⟩
  | cons line ss ih =>
      intro inPeer
      by_cases hempty : line = ""
      · exact ⟨[], [], line :: ss, rfl, .nil, trivial, hempty ▸ .closed ss⟩
      · cases hread : RequestLine.read inPeer line with
        | error f =>
            have hread' : RequestLine.read (inPeer || [].any startsPeer) line = .error f := by
              simpa using hread
            exact ⟨[], [], line :: ss, rfl, .nil, trivial, .refused hempty hread' ss⟩
        | ok l =>
            obtain ⟨hstates, hfits⟩ := RequestLine.read_eq_ok_iff.mp hread
            obtain ⟨front, ls, rest, hss, hall, hplaced, hstop⟩ := ih (inPeer || startsPeer l)
            refine ⟨line :: front, l :: ls, rest, by rw [hss]; rfl, .cons hstates hall,
              ⟨hfits, hplaced⟩, ?_⟩
            rwa [List.any_cons, ← Bool.or_assoc]

/-! ### Verdicts -/

/-- Lines that are a request once an empty line follows them. -/
def Closes (ls : List String) : Prop := ∃ r, ofText (unlines (ls ++ [""])) = .ok r

theorem lines_unlines_closed {ls : List String} (h : ∀ l ∈ ls, '\n' ∉ l.toList) :
    lines (unlines (ls ++ [""])) = ls ++ [""] := by
  refine lines_unlines ?_
  intro l hl
  rcases List.mem_append.mp hl with hl | hl
  · exact h l hl
  · rw [List.mem_singleton.mp hl]
    decide

section Front

variable {front : List String} {ls : List RequestLine}

theorem empty_notMem_of_states (h : List.Forall₂ RequestLine.States front ls) : "" ∉ front := by
  induction h with
  | nil => simp
  | cons hstates _ ih => simpa [ih] using hstates.ne_empty.symm

theorem closes_of_states (h : List.Forall₂ RequestLine.States front ls) (hplaced : Placed false ls)
    (hfront : ∀ l ∈ front, '\n' ∉ l.toList) : Closes front := by
  refine ⟨(ls.foldl Reading.push {}).finish, ?_⟩
  rw [ofText, lines_unlines_closed hfront, run_append h _ {} 1 hplaced]
  rfl

/-- A refused line ends a reading with a fault. -/
theorem run_refused (h : List.Forall₂ RequestLine.States front ls) (hplaced : Placed false ls)
    {line : String} {f : LineFault} (hne : line ≠ "")
    (hread : RequestLine.read (ls.any startsPeer) line = .error f) (rest : List String) :
    Reading.run {} 1 (front ++ line :: rest) = .error (.line (front.length + 1) f) := by
  have hempty : line.isEmpty = false := by simpa using hne
  have hread' : RequestLine.read (ls.foldl Reading.push {}).current.isSome line = .error f := by
    simpa [isSome_foldl_push] using hread
  rw [run_append h _ {} 1 hplaced, Reading.run, hempty, if_neg (by simp), hread', Nat.add_comm]

end Front

/-- What is behind an empty line is not read. -/
theorem run_closed (ls rest : List String) (r : Reading) (number : Nat) :
    r.run number (ls ++ "" :: rest) = r.run number (ls ++ [""]) := by
  induction ls generalizing r number with
  | nil => rfl
  | cons l ls ih =>
      rw [List.cons_append, List.cons_append, Reading.run, Reading.run]
      split
      · rfl
      · split
        · rfl
        · exact ih _ _

/-- **A text is read up to its first empty line.** -/
theorem ofText_of_mem {s : String} (h : "" ∈ Text.lines s) :
    ofText s = Reading.run {} 1 (opening s ++ [""]) := by
  obtain ⟨rest, hrest⟩ := exists_first h
  have hlines : Text.lines s = opening s ++ "" :: rest := hrest
  rw [ofText, hlines, run_closed]

/-- The line that a text is refused for. -/
structure Blamed (s : String) (k : Nat) (f : LineFault) : Prop where
  pos : 1 ≤ k
  /-- The lines in front of it are a request once an empty line follows. -/
  closes : Closes ((Text.lines s).take (k - 1))
  /-- With the line they are none. -/
  not_closes : k ≤ (Text.lines s).length → ¬ Closes ((Text.lines s).take k)
  /-- It is behind the text only for want of an empty line. -/
  unterminated : (Text.lines s).length < k →
    k = (Text.lines s).length + 1 ∧ "" ∉ Text.lines s ∧ f = .unterminated

/-- What comes of a text. -/
structure Decided (s : String) : Prop where
  /-- It is a request if the lines before its first empty one are those of an outline, and then the
  one that the outline states. -/
  reads : ∀ r, ofText s = .ok r ↔ "" ∈ Text.lines s ∧
    ∃ o : Outline, List.Forall₂ RequestLine.States (opening s) o.lines ∧ o.request = r
  /-- Nothing behind its first empty line counts. -/
  stops : "" ∈ Text.lines s → ∀ t, ofText (s ++ t) = ofText s
  /-- If it is refused, then for a line. -/
  blames : ∀ e, ofText s = .error e → ∃ k f, e = .line k f ∧ Blamed s k f
  /-- If all that it lacks is an empty line, it is refused for the line behind its last one. -/
  unterminated : "" ∉ Text.lines s → Closes (Text.lines s) →
    ofText s = .error (.line ((Text.lines s).length + 1) .unterminated)

section Verdicts

variable {s : String}

theorem exists_outline_of_ofText {r : Request} (h : ofText s = .ok r) :
    "" ∈ Text.lines s ∧
      ∃ o : Outline, List.Forall₂ RequestLine.States (opening s) o.lines ∧ o.request = r := by
  obtain ⟨front, ls, rest, hss, hall, hplaced, hstop⟩ := exists_stop (Text.lines s) false
  rw [ofText, hss] at h
  cases hstop with
  | ended =>
      rw [run_append hall _ {} 1 hplaced] at h
      simp [Reading.run] at h
  | refused hne hread rest =>
      rw [Bool.false_or] at hread
      simp [run_refused hall hplaced hne hread] at h
  | closed rest =>
      obtain ⟨o, rfl⟩ := exists_outline hplaced
      rw [run_append hall _ {} 1 hplaced, Reading.run, if_pos (by simp), o.finish_foldl_push] at h
      rw [opening_of_lines_eq hss (empty_notMem_of_states hall), hss]
      exact ⟨by simp, o, hall, Except.ok.inj h⟩

theorem ofText_of_outline {o : Outline} (h : "" ∈ Text.lines s)
    (hall : List.Forall₂ RequestLine.States (opening s) o.lines) : ofText s = .ok o.request := by
  rw [ofText_of_mem h, run_append hall _ {} 1 o.placed_lines, Reading.run, if_pos (by simp),
    o.finish_foldl_push]

theorem blamed_of_ofText {e : TunnelError} (h : ofText s = .error e) :
    ∃ k f, e = .line k f ∧ Blamed s k f := by
  have hnewline : ∀ l ∈ Text.lines s, '\n' ∉ l.toList := fun l hl => newline_notMem_of_mem_lines hl
  obtain ⟨front, ls, rest, hss, hall, hplaced, hstop⟩ := exists_stop (Text.lines s) false
  have hcloses : Closes front := by
    refine closes_of_states hall hplaced fun l hl => hnewline l ?_
    rw [hss]
    exact List.mem_append_left _ hl
  rw [ofText, hss] at h
  cases hstop with
  | closed rest => simp [run_append hall _ {} 1 hplaced, Reading.run] at h
  | ended =>
      rw [List.append_nil] at hss
      refine ⟨front.length + 1, .unterminated, ?_, ?_⟩
      · rw [run_append hall _ {} 1 hplaced, Reading.run, Nat.add_comm] at h
        exact (Except.error.inj h).symm
      · refine ⟨by omega, ?_, ?_, ?_⟩
        · rwa [hss, Nat.add_sub_cancel, List.take_length]
        · rw [hss]
          omega
        · intro _
          rw [hss]
          exact ⟨rfl, empty_notMem_of_states hall, rfl⟩
  | @refused line f hne hread rest =>
      rw [Bool.false_or] at hread
      rw [run_refused hall hplaced hne hread] at h
      refine ⟨front.length + 1, f, (Except.error.inj h).symm, by omega, ?_, ?_, ?_⟩
      · rwa [hss, Nat.add_sub_cancel, List.take_left]
      · rintro - ⟨r, hr⟩
        have htake : (Text.lines s).take (front.length + 1) = front ++ [line] := by
          rw [hss, List.take_length_add_append]
          rfl
        have hsub : ∀ l ∈ front ++ [line], '\n' ∉ l.toList := fun l hl =>
          hnewline l (List.mem_of_mem_take (htake ▸ hl))
        rw [htake, ofText, lines_unlines_closed hsub, List.append_assoc, List.singleton_append,
          run_refused hall hplaced hne hread] at hr
        simp at hr
      · intro hlt
        rw [hss] at hlt
        simp at hlt

theorem ofText_unterminated (h : "" ∉ Text.lines s) (hcloses : Closes (Text.lines s)) :
    ofText s = .error (.line ((Text.lines s).length + 1) .unterminated) := by
  obtain ⟨r, hr⟩ := hcloses
  obtain ⟨-, o, hall, -⟩ := exists_outline_of_ofText hr
  have hlines := lines_unlines_closed fun l hl => newline_notMem_of_mem_lines (s := s) hl
  rw [opening_of_lines_eq hlines h] at hall
  have hrun := run_append hall [] {} 1 o.placed_lines
  rw [List.append_nil] at hrun
  rw [ofText, hrun, Reading.run, Nat.add_comm]

/-- **A text is a request if the grammar says so, and is refused for its first wrong line else.** -/
theorem decided_ofText (s : String) : Decided s where
  reads r := by
    constructor
    · exact exists_outline_of_ofText
    · rintro ⟨hmem, o, hall, rfl⟩
      exact ofText_of_outline hmem hall
  stops h t := by
    obtain ⟨hmem, hopening⟩ := opening_append h t
    rw [ofText_of_mem hmem, ofText_of_mem h, hopening]
  blames e h := blamed_of_ofText h
  unterminated h hcloses := ofText_unterminated h hcloses

/-- The last value counts, and what is behind the empty line does not. -/
example : ofText "listen_port=1\nlisten_port=+2\r\n\nrest" = .ok { listenPort := some 2 } := rfl

end Verdicts

end Request

end TunnelMesh
