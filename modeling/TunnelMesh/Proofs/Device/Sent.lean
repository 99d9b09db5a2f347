/-
What an update sends.

A recorder is a device that passes everything on to another one and keeps the requests
and whether they were taken.  A device that is moved towards a goal behaves the same
with a recorder around it, so that the record tells what the manager sends.

No two changes of an update are about the same peer, and whether a change is taken, what
it says and what it does depend on nothing but its own peer.  So each change finds its
peer as it was before the update, and what it does to it lasts.  The request for it names
this peer and no other, and says nothing about the interface.
-/
import TunnelMesh.Proofs.Device.Manager

namespace TunnelMesh

open Request (Group)
open Request.Draft (Call)

/-! ### Recorders -/

/-- A device with a record of its requests, oldest first, and of whether it took them. -/
structure Recorder (δ : Type) where
  device : δ
  sent : List (String × Bool)

namespace Recorder

variable {δ α : Type} [TunnelDevice δ]

/-- The device with what came of an operation. -/
def put (r : Recorder δ) (result : α × δ) : α × Recorder δ :=
  (result.1, { r with device := result.2 })

/-- Passes a request on and records it. -/
def apply (r : Recorder δ) (text : String) : Except TunnelError Unit × Recorder δ :=
  let result := TunnelDevice.apply r.device text
  (result.1, ⟨result.2, r.sent ++ [(text, result.1.isOk)]⟩)

instance : TunnelDevice (Recorder δ) where
  name r := TunnelDevice.name r.device
  create r c := r.put (TunnelDevice.create r.device c)
  apply := apply
  up r := r.put (TunnelDevice.up r.device)
  status r := r.put (TunnelDevice.status r.device)
  close r := r.put (TunnelDevice.close r.device)

end Recorder

namespace ManagedDevice

section Recorded

variable {δ : Type} [TunnelDevice δ]

/-- The device with a recorder around it. -/
def recorded (d : ManagedDevice δ) (sent : List (String × Bool)) : ManagedDevice (Recorder δ) :=
  ⟨⟨d.device, sent⟩, d.state, d.live, d.preconnect, d.targets, d.probeDue⟩

/-- The requests for changes that are sent one after the other, and whether they are taken. -/
def requests (d : ManagedDevice δ) : List PeerChange → List (String × Bool)
  | [] => []
  | c :: cs => (c.request d.live, d.takes c) :: (d.send c).requests cs

theorem send_recorded (d : ManagedDevice δ) (sent : List (String × Bool)) (c : PeerChange) :
    (d.recorded sent).send c = (d.send c).recorded (sent ++ [(c.request d.live, d.takes c)]) :=
  rfl

/-- **A recorder records the requests, and nothing else is different.** -/
theorem foldl_change_recorded (cs : List PeerChange) (s : ChangeSummary) (d : ManagedDevice δ)
    (sent : List (String × Bool)) :
    cs.foldl change (s, d.recorded sent) =
      ((cs.foldl change (s, d)).1, (cs.foldl change (s, d)).2.recorded (sent ++ d.requests cs)) := by
  induction cs generalizing s d sent with
  | nil => simp [requests]
  | cons c cs ih =>
      have htakes : (d.recorded sent).takes c = d.takes c := rfl
      have hlive : (d.recorded sent).live = d.live := rfl
      rw [List.foldl_cons, List.foldl_cons, change_eq, change_eq, htakes, hlive, send_recorded, ih,
        requests, List.append_assoc, List.singleton_append]

theorem reach_recorded (d : ManagedDevice δ) (g : PeerGoal) (sent : List (String × Bool)) :
    (d.recorded sent).reach g =
      ((d.reach g).1, (d.reach g).2.recorded (sent ++ d.requests (g.changes d.live))) := by
  have hlive : (d.recorded sent).live = d.live := rfl
  unfold reach
  rw [hlive, foldl_change_recorded]
  rfl

theorem update_recorded {d : ManagedDevice δ} (hd : d.state = .running)
    (desired reachable : List PeerConfig) (sent : List (String × Bool)) :
    (d.recorded sent).update desired reachable =
      (.ok (d.reach (.ofLists desired reachable)).1,
        (d.reach (.ofLists desired reachable)).2.recorded
          (sent ++ d.requests ((PeerGoal.ofLists desired reachable).changes d.live))) := by
  have hrunning : (d.recorded sent).state = .running := hd
  unfold update ifRunning
  rw [if_pos hrunning]
  dsimp only
  rw [reach_recorded]

end Recorded

/-! ### Single peers -/

/-- Nothing about a peer is different, nor about what is refused. -/
structure SameAt (k : PublicKey) (d d' : ManagedDevice MemoryDevice) : Prop where
  peers : d'.device.peers[k]? = d.device.peers[k]?
  live : d'.live[k]? = d.live[k]?
  created : d'.device.created = d.device.created
  failing : d'.device.failing = d.device.failing

namespace SameAt

variable {d d' d'' : ManagedDevice MemoryDevice} {c : PeerChange} {k : PublicKey}

theorem refl (k : PublicKey) (d : ManagedDevice MemoryDevice) : SameAt k d d := ⟨rfl, rfl, rfl, rfl⟩

theorem trans (h : SameAt k d d') (h' : SameAt k d' d'') : SameAt k d d'' where
  peers := h'.peers.trans h.peers
  live := h'.live.trans h.live
  created := h'.created.trans h.created
  failing := h'.failing.trans h.failing

theorem takes_eq (h : SameAt c.key d d') : d'.takes c = d.takes c := by
  rw [Bool.eq_iff_iff, takes_iff, takes_iff, h.created, h.failing]

theorem request_eq (h : SameAt c.key d d') : c.request d'.live = c.request d.live := by
  cases c with
  | remove k => rfl
  | set p =>
      have hlive : d'.live[p.publicKey]? = d.live[p.publicKey]? := h.live
      rw [PeerChange.request, PeerChange.request, hlive]

/-- **A change makes no difference to other peers.** -/
theorem send (d : ManagedDevice MemoryDevice) (hk : c.key ≠ k) : SameAt k d (d.send c) := by
  rcases send_cases d c with ⟨-, -, hc⟩ | ⟨-, hc⟩
  · rw [hc]
    exact refl k d
  · rw [hc]
    refine ⟨?_, ?_, rfl, rfl⟩
    · refine PeerTable.getElem?_foldl_applyBlock_of_ne d.device.peers ?_
      intro b hb
      rwa [PeerChange.publicKey_of_mem_blocks hb]
    · exact (PeerChange.getElem?_apply d.live c k).trans (if_neg hk)

theorem foldl_send {cs : List PeerChange} :
    ∀ {d : ManagedDevice MemoryDevice}, (∀ c ∈ cs, c.key ≠ k) →
      SameAt k d (cs.foldl ManagedDevice.send d) := by
  induction cs with
  | nil => exact fun _ => refl k _
  | cons c cs ih =>
      intro d h
      exact (send d (h c List.mem_cons_self)).trans
        (ih fun c' hc' => h c' (List.mem_cons_of_mem _ hc'))

end SameAt

/-- **Changes of different peers are taken each for itself.** -/
theorem requests_eq {cs : List PeerChange} :
    ∀ {d : ManagedDevice MemoryDevice}, (cs.map PeerChange.key).Nodup →
      d.requests cs = cs.map fun c => (c.request d.live, d.takes c) := by
  induction cs with
  | nil => exact fun _ => rfl
  | cons c cs ih =>
      intro d h
      rw [List.map_cons, List.nodup_cons] at h
      rw [requests, ih h.2, List.map_cons]
      congr 1
      refine List.map_congr_left ?_
      intro c' hc'
      have hne : c.key ≠ c'.key := fun hkey => h.1 (hkey ▸ List.mem_map_of_mem hc')
      have hsame := SameAt.send d hne
      rw [hsame.request_eq, hsame.takes_eq]

/-- **Each change finds its peer as it was, and what it does to it lasts.** -/
theorem exists_sent {cs : List PeerChange} {c : PeerChange} (hc : c ∈ cs) :
    ∀ {d : ManagedDevice MemoryDevice}, (cs.map PeerChange.key).Nodup →
      ∃ d₁, SameAt c.key d d₁ ∧ SameAt c.key (d₁.send c) (cs.foldl ManagedDevice.send d) := by
  induction cs with
  | nil => cases hc
  | cons c' cs ih =>
      intro d h
      rw [List.map_cons, List.nodup_cons] at h
      rcases List.mem_cons.mp hc with rfl | hmem
      · refine ⟨d, .refl _ d, .foldl_send ?_⟩
        intro c' hc' hkey
        exact h.1 (hkey ▸ List.mem_map_of_mem hc')
      · have hne : c'.key ≠ c.key := fun hkey => h.1 (hkey ▸ List.mem_map_of_mem hmem)
        obtain ⟨d₁, hbefore, hafter⟩ := ih hmem (d := d.send c') h.2
        exact ⟨d₁, (SameAt.send d hne).trans hbefore, hafter⟩

end ManagedDevice

/-! ### Requests of changes -/

namespace Request

/-- A text asks for something about a peer. -/
def Names (text : String) (k : PublicKey) : Prop :=
  ∃ r, ofText text = .ok r ∧ ∃ b ∈ r.peers, b.publicKey = k

theorem key_notMem_interfaceKeys {g : Group} {l : RequestLine} (h : l ∈ g.lines) :
    l.key ∉ interfaceKeys := by
  rcases List.mem_cons.mp h with rfl | h
  · simp [RequestLine.key, interfaceKeys]
  · obtain ⟨l, -, rfl⟩ := List.mem_map.mp h
    cases l <;> simp [RequestLine.key, PeerLine.key, interfaceKeys]

end Request

namespace PeerChange

/-- The call that a change makes. -/
def call (live : PeerMap) : PeerChange → Call
  | set p =>
    match live[p.publicKey]? with
    | some previous => .updatePeer previous p
    | none => .peer p
  | remove k => .removePeer k

theorem request_eq (live : PeerMap) (c : PeerChange) :
    c.request live = (({} : Request.Draft).after (c.call live)).build := by
  cases c with
  | remove k => rfl
  | set p =>
      rw [request, call]
      cases live[p.publicKey]? <;> rfl

/-- The lines of a change's request are groups of lines about its peer. -/
theorem lines_request (live : PeerMap) (c : PeerChange) :
    Text.lines (c.request live) =
      ((c.call live).groups.flatMap Group.lines).map RequestLine.toText ++ [""] := by
  have hlines : (({} : Request.Draft).after (c.call live)).lines =
      (c.call live).groups.flatMap Group.lines := by
    rw [Request.Draft.after_eq, Request.Draft.lines, Request.Draft.interfaceLines]
    cases c with
    | remove k => rfl
    | set p =>
        rw [call]
        cases live[p.publicKey]? <;> rfl
  rw [request_eq, Request.lines_build, hlines]

/-- **The request for a change has no line about the interface.** -/
theorem key_of_mem_lines_request {live : PeerMap} {c : PeerChange} {line key value : String}
    (hline : line ∈ Text.lines (c.request live)) (hsplit : splitLine line = .ok (key, value)) :
    key ∉ interfaceKeys := by
  rw [lines_request, List.mem_append, List.mem_singleton] at hline
  rcases hline with hline | rfl
  · obtain ⟨l, hl, rfl⟩ := List.mem_map.mp hline
    obtain ⟨g, -, hlg⟩ := List.mem_flatMap.mp hl
    rw [RequestLine.splitLine_toText] at hsplit
    cases hsplit
    exact Request.key_notMem_interfaceKeys hlg
  · cases hsplit

/-- **The request for a change names its peer alone.** -/
theorem names_request (live : PeerMap) (c : PeerChange) (k : PublicKey) :
    Request.Names (c.request live) k ↔ k = c.key := by
  constructor
  · rintro ⟨r, htext, b, hb, rfl⟩
    rw [c.ofText_request] at htext
    obtain rfl := Except.ok.inj htext
    exact publicKey_of_mem_blocks hb
  · rintro rfl
    obtain ⟨b, hb⟩ := List.exists_mem_of_ne_nil _ (c.blocks_ne_nil live)
    exact ⟨_, c.ofText_request live, b, hb, publicKey_of_mem_blocks hb⟩

end PeerChange

end TunnelMesh
