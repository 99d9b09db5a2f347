/-
A manager that never loses track of its device.

Changes are sent one after the other, and those that the device refuses are counted
as failed and leave what the manager knows as it was.  `Tracked` says that a device
runs and that its table shows the peers that the manager takes it to have.  Starting
a device establishes it, and every change keeps it: the device takes the request, or
it is left as it was.  Changes that are all taken lead to the goal, and from there an
update does nothing.
-/
import TunnelMesh.Device.Managed
import TunnelMesh.Proofs.Device.Goal

namespace TunnelMesh

namespace MemoryDevice

/-- Nothing is refused: the device exists and no key fails. -/
structure Willing (d : MemoryDevice) : Prop where
  created : d.created = true
  failing : d.failing = []

theorem Willing.refusal_eq_none {d : MemoryDevice} (h : d.Willing) (r : Request) :
    d.refusal r = none := by
  rw [refusal, h.created, h.failing]
  simp

theorem refusal_eq_none_iff (d : MemoryDevice) (r : Request) :
    d.refusal r = none ↔ d.created = true ∧ ∀ b ∈ r.peers, b.publicKey ∉ d.failing := by
  rw [refusal]
  cases d.created with
  | false => simp
  | true => simp [List.find?_eq_none]

theorem apply_of_refusal {d : MemoryDevice} {text : String} {r : Request} {e : TunnelError}
    (h : Request.ofText text = .ok r) (hr : d.refusal r = some e) :
    d.apply text = (.error e, d) := by
  simp only [apply, h, hr]

theorem apply_of_no_refusal {d : MemoryDevice} {text : String} {r : Request}
    (h : Request.ofText text = .ok r) (hr : d.refusal r = none) :
    d.apply text = (.ok (), d.accept text r) := by
  simp only [apply, h, hr]

/-- **A device takes a text that it can read, if it exists and no block names a failing key.** -/
theorem apply_ok_iff {d : MemoryDevice} {text : String} :
    (d.apply text).1 = .ok () ↔ ∃ r, Request.ofText text = .ok r ∧ d.created = true ∧
      ∀ b ∈ r.peers, b.publicKey ∉ d.failing := by
  cases htext : Request.ofText text with
  | error _ => simp [apply, htext]
  | ok r =>
      cases hrefusal : d.refusal r with
      | none =>
          obtain ⟨hcreated, hnames⟩ := (d.refusal_eq_none_iff r).mp hrefusal
          rw [apply_of_no_refusal htext hrefusal]
          simpa [hcreated] using hnames
      | some e =>
          have hrefused : ¬(d.created = true ∧ ∀ b ∈ r.peers, b.publicKey ∉ d.failing) := by
            rw [← refusal_eq_none_iff, hrefusal]
            exact Option.some_ne_none e
          rw [apply_of_refusal htext hrefusal]
          simp [hrefused]

/-- A device takes a request that can be read, or it stays as it was. -/
theorem apply_cases (d : MemoryDevice) {text : String} {r : Request}
    (h : Request.ofText text = .ok r) :
    (¬d.Willing ∧ ∃ e, d.apply text = (.error e, d)) ∨
      d.apply text = (.ok (), d.accept text r) := by
  cases hrefusal : d.refusal r with
  | some e =>
      refine .inl ⟨?_, e, apply_of_refusal h hrefusal⟩
      intro hw
      rw [hw.refusal_eq_none] at hrefusal
      cases hrefusal
  | none => exact .inr (apply_of_no_refusal h hrefusal)

end MemoryDevice

namespace ManagedDevice

/-! ### Changes that are sent -/

section Sent

variable {δ : Type} [TunnelDevice δ]

/-- Whether a device takes a change. -/
def takes (d : ManagedDevice δ) (c : PeerChange) : Bool :=
  (TunnelDevice.apply d.device (c.request d.live)).1.isOk

/-- A device after a change was sent to it. -/
def send (d : ManagedDevice δ) (c : PeerChange) : ManagedDevice δ :=
  { d with
    device := (TunnelDevice.apply d.device (c.request d.live)).2
    live := if d.takes c then c.apply d.live else d.live }

/-- The changes that a device refuses when they are sent one after the other. -/
def refused (d : ManagedDevice δ) : List PeerChange → List PeerChange
  | [] => []
  | c :: cs => (if d.takes c then [] else [c]) ++ (d.send c).refused cs

theorem change_eq (s : ChangeSummary) (d : ManagedDevice δ) (c : PeerChange) :
    change (s, d) c =
      (if d.takes c then s.count d.live c else { s with failed := s.failed + 1 }, d.send c) := by
  unfold change send takes
  dsimp only
  cases TunnelDevice.apply d.device (c.request d.live) with
  | mk r device => cases r <;> rfl

theorem foldl_change_snd (cs : List PeerChange) (s : ChangeSummary) (d : ManagedDevice δ) :
    (cs.foldl change (s, d)).2 = cs.foldl send d := by
  induction cs generalizing s d with
  | nil => rfl
  | cons c cs ih => rw [List.foldl_cons, List.foldl_cons, change_eq, ih]

/-- Changes that are sent touch nothing but the device and its peers. -/
theorem foldl_send_eq (cs : List PeerChange) (d : ManagedDevice δ) :
    cs.foldl send d =
      { d with device := (cs.foldl send d).device, live := (cs.foldl send d).live } := by
  induction cs generalizing d with
  | nil => rfl
  | cons c cs ih =>
      rw [List.foldl_cons]
      exact ih (d.send c)

theorem reach_snd (d : ManagedDevice δ) (g : PeerGoal) :
    (d.reach g).2 =
      { (g.changes d.live).foldl send d with
        preconnect := ((g.changes d.live).foldl send d).keptWarm g } := by
  rw [← foldl_change_snd _ {} d]
  rfl

theorem live_reach (d : ManagedDevice δ) (g : PeerGoal) :
    (d.reach g).2.live = ((g.changes d.live).foldl send d).live := by
  rw [reach_snd]

theorem state_reach (d : ManagedDevice δ) (g : PeerGoal) : (d.reach g).2.state = d.state := by
  rw [reach_snd, foldl_send_eq]

/-- A device that started was brought up, and runs with the peers of its interface. -/
theorem start_eq_ok {d d' : ManagedDevice δ} {c : InterfaceConfig} (h : d.start c = (.ok (), d')) :
    bringUp d.device c = (.ok (), d'.device) ∧ d' = { d with
      device := d'.device, state := .running, live := .ofList c.peers, probeDue := true } := by
  unfold start at h
  split at h
  · cases h
  · rename_i hup
    cases h
    exact ⟨hup, rfl⟩

/-- A device that did not start is stopped. -/
theorem state_of_start_eq_error {d d' : ManagedDevice δ} {c : InterfaceConfig} {e : AgentError}
    (h : d.start c = (.error e, d')) : d'.state = .stopped := by
  unfold start at h
  split at h
  · cases h
    rfl
  · cases h

end Sent

/-! ### Tracked devices -/

/-- A device that runs with the peers that its manager takes it to have. -/
structure Tracked (d : ManagedDevice MemoryDevice) : Prop where
  running : d.state = .running
  created : d.device.created = true
  keyed : d.live.Keyed
  shows : d.device.peers.Shows d.live

variable {d : ManagedDevice MemoryDevice}

/-! ### Single changes -/

/-- The device after a change that it takes. -/
def taken (d : ManagedDevice MemoryDevice) (c : PeerChange) : ManagedDevice MemoryDevice :=
  { d with
    device := d.device.accept (c.request d.live) { peers := c.blocks d.live }
    live := c.apply d.live }

/-- A change is refused and leaves the device as it was, or it is taken. -/
theorem send_cases (d : ManagedDevice MemoryDevice) (c : PeerChange) :
    (¬d.device.Willing ∧ d.takes c = false ∧ d.send c = d) ∨
      (d.takes c = true ∧ d.send c = d.taken c) := by
  have happ : TunnelDevice.apply d.device (c.request d.live) =
      d.device.apply (c.request d.live) := rfl
  unfold send takes
  rw [happ]
  rcases d.device.apply_cases (c.ofText_request d.live) with ⟨hw, e, h⟩ | h
  · rw [h]
    exact .inl ⟨hw, rfl, rfl⟩
  · rw [h]
    exact .inr ⟨rfl, rfl⟩

/-- **Whether a change is taken depends on its peer's key alone.** -/
theorem takes_iff {c : PeerChange} :
    d.takes c = true ↔ d.device.created = true ∧ c.key ∉ d.device.failing := by
  have htakes : d.takes c = true ↔ (d.device.apply (c.request d.live)).1 = .ok () := by
    show (d.device.apply (c.request d.live)).1.isOk = true ↔ _
    cases (d.device.apply (c.request d.live)).1 <;> simp [Except.isOk, Except.toBool]
  rw [htakes, MemoryDevice.apply_ok_iff]
  constructor
  · rintro ⟨r, htext, hcreated, hnames⟩
    rw [c.ofText_request] at htext
    obtain rfl := Except.ok.inj htext
    obtain ⟨b, hb⟩ := List.exists_mem_of_ne_nil _ (c.blocks_ne_nil d.live)
    rw [← PeerChange.publicKey_of_mem_blocks hb]
    exact ⟨hcreated, hnames b hb⟩
  · rintro ⟨hcreated, hkey⟩
    refine ⟨_, c.ofText_request d.live, hcreated, ?_⟩
    intro b hb
    rwa [PeerChange.publicKey_of_mem_blocks hb]

theorem Tracked.taken (h : d.Tracked) (c : PeerChange) : (d.taken c).Tracked where
  running := h.running
  created := h.created
  keyed := PeerChange.keyed_apply h.keyed c
  shows := h.shows.blocks h.keyed c

theorem Tracked.send (h : d.Tracked) (c : PeerChange) : (d.send c).Tracked := by
  rcases send_cases d c with ⟨-, -, hc⟩ | ⟨-, hc⟩
  · rw [hc]
    exact h
  · rw [hc]
    exact h.taken c

/-- The device when it refuses requests that name one of the keys. -/
def refusing (d : ManagedDevice MemoryDevice) (keys : List PublicKey) : ManagedDevice MemoryDevice :=
  { d with device := { d.device with failing := keys } }

theorem Tracked.refusing (h : d.Tracked) (keys : List PublicKey) : (d.refusing keys).Tracked where
  running := h.running
  created := h.created
  keyed := h.keyed
  shows := h.shows

/-! ### Lists of changes -/

theorem Tracked.foldl_send (cs : List PeerChange) :
    ∀ {d : ManagedDevice MemoryDevice}, d.Tracked → (cs.foldl ManagedDevice.send d).Tracked := by
  induction cs with
  | nil => exact fun h => h
  | cons c cs ih => exact fun h => ih (h.send c)

theorem refused_of_willing (cs : List PeerChange) :
    ∀ {d : ManagedDevice MemoryDevice}, d.device.Willing → d.refused cs = [] := by
  induction cs with
  | nil => exact fun _ => rfl
  | cons c cs ih =>
      intro d hw
      rcases send_cases d c with ⟨hnot, -⟩ | ⟨htakes, hc⟩
      · exact absurd hw hnot
      · rw [refused, if_pos htakes, hc]
        exact ih ⟨hw.created, hw.failing⟩

/-! ### Updates -/

theorem Tracked.reach (h : d.Tracked) (g : PeerGoal) : (d.reach g).2.Tracked := by
  have hfold := Tracked.foldl_send (g.changes d.live) h
  rw [reach_snd]
  exact ⟨hfold.running, hfold.created, hfold.keyed, hfold.shows⟩

theorem mem_keptWarm {δ : Type} {d : ManagedDevice δ} {g : PeerGoal} {k : PublicKey} :
    k ∈ d.keptWarm g ↔
      k ∈ d.live ∧ k ∉ g.desired ∧ (k ∈ d.preconnect ∨ k ∈ g.warm) := by
  have hdesired : g.desired.contains k = false ↔ k ∉ g.desired := by
    rw [← Bool.not_eq_true, Std.ExtTreeMap.contains_iff_mem]
  simp [keptWarm, Std.ExtTreeSet.mem_ofList, hdesired]

end ManagedDevice

/-! ### Starting -/

theorem InterfaceConfig.firstRepeated_eq_none {ps : List PeerConfig} :
    ∀ {seen : List PublicKey}, firstRepeated seen ps = none →
      (∀ p ∈ ps, p.publicKey ∉ seen) ∧ (ps.map PeerConfig.publicKey).Nodup := by
  induction ps with
  | nil => exact fun _ => ⟨by simp, List.nodup_nil⟩
  | cons p ps ih =>
      intro seen h
      rw [firstRepeated] at h
      split at h
      · cases h
      · rename_i hseen
        obtain ⟨hfresh, hnodup⟩ := ih h
        rw [List.contains_iff_mem] at hseen
        refine ⟨?_, ?_⟩
        · intro q hq
          rcases List.mem_cons.mp hq with rfl | hq
          · exact hseen
          · exact fun hc => hfresh q hq (List.mem_cons_of_mem _ hc)
        · rw [List.map_cons, List.nodup_cons]
          refine ⟨?_, hnodup⟩
          intro hmem
          obtain ⟨q, hq, hkey⟩ := List.mem_map.mp hmem
          exact hfresh q hq (hkey ▸ List.mem_cons_self)

/-- The peers of a valid interface have different keys. -/
theorem InterfaceConfig.nodup_of_validate {c : InterfaceConfig} (h : c.validate = .ok ()) :
    (c.peers.map PeerConfig.publicKey).Nodup := by
  rw [validate] at h
  split at h
  · cases h
  · split at h
    · cases h
    · split at h
      · cases h
      · rename_i hnone
        exact (firstRepeated_eq_none hnone).2

namespace ManagedDevice

theorem ofText_setupRequest (c : InterfaceConfig) :
    Request.ofText (setupRequest c) =
      .ok {
        privateKey := some c.privateKey
        listenPort := c.listenPort
        replacePeers := true
        peers := c.peers.map fun p => p.block false } := by
  have hbody : (c.peers.flatMap fun p => p.requestLines false) =
      (c.peers.map fun p => p.group false).flatMap Request.Group.lines := by
    rw [List.flatMap_map]
    simp only [PeerConfig.requestLines_eq]
  have hblocks : (c.peers.map fun p => p.group false).map Request.Group.readBlock =
      c.peers.map fun p => p.block false := by
    rw [List.map_map]
    exact List.map_congr_left fun p _ => p.readBlock_group false
  rw [setupRequest, Request.Draft.addPeers_eq, Request.ofText_build hbody, hblocks]

/-- A device that was brought up exists, with the peers of its interface. -/
theorem created_peers_of_bringUp {device device' : MemoryDevice} {c : InterfaceConfig}
    (h : bringUp device c = (.ok (), device')) :
    device'.created = true ∧
      device'.peers = (c.peers.map fun p => p.block false).foldl PeerTable.applyBlock ∅ := by
  unfold bringUp at h
  split at h
  · cases h
  · rename_i created hcreate
    split at h
    · rename_i up hup
      cases h
      unfold setUp at hup
      split at hup
      · cases hup
      · rename_i applied happ
        have happ' : created.apply (setupRequest c) = (.ok (), applied) := happ
        have hup' : applied.up = (.ok (), device') := hup
        unfold MemoryDevice.up at hup'
        split at hup'
        · rename_i hcreated
          cases hup'
          refine ⟨hcreated, ?_⟩
          rcases created.apply_cases (ofText_setupRequest c) with ⟨-, e, hrefused⟩ | htaken
          · rw [hrefused] at happ'
            cases happ'
          · rw [htaken] at happ'
            cases happ'
            rfl
        · cases hup'
    · cases h

/-- A new device is brought up with every valid interface. -/
theorem bringUp_named (name : String) {c : InterfaceConfig} (hvalid : c.validate = .ok ()) :
    ∃ device, bringUp (MemoryDevice.named name) c = (.ok (), device) := by
  have hcreate : TunnelDevice.create (MemoryDevice.named name) c =
      (.ok (), { MemoryDevice.named name with created := true }) := by
    show (MemoryDevice.named name).create c = _
    unfold MemoryDevice.create
    rw [hvalid]
    rfl
  have hwilling : ({ MemoryDevice.named name with created := true } : MemoryDevice).Willing :=
    ⟨rfl, rfl⟩
  rcases MemoryDevice.apply_cases _ (ofText_setupRequest c) with ⟨hc, -⟩ | happ
  · exact absurd hwilling hc
  · have happ' : TunnelDevice.apply { MemoryDevice.named name with created := true }
        (setupRequest c) = _ := happ
    unfold bringUp setUp
    rw [hcreate]
    dsimp only
    rw [happ']
    exact ⟨_, rfl⟩

theorem start_named (name : String) {c : InterfaceConfig} (hvalid : c.validate = .ok ()) :
    ∃ d, (fresh (MemoryDevice.named name)).start c = (.ok (), d) := by
  obtain ⟨device, hup⟩ := bringUp_named name hvalid
  unfold start fresh
  dsimp only
  rw [hup]
  exact ⟨_, rfl⟩

/-- **A device that started is tracked.** -/
theorem tracked_start {device : MemoryDevice} {c : InterfaceConfig}
    {d : ManagedDevice MemoryDevice} (hvalid : c.validate = .ok ())
    (h : (fresh device).start c = (.ok (), d)) : d.Tracked := by
  obtain ⟨hup, hd⟩ := start_eq_ok h
  obtain ⟨hcreated, hpeers⟩ := created_peers_of_bringUp hup
  rw [hd]
  refine ⟨rfl, hcreated, PeerMap.keyed_ofList _, ?_⟩
  dsimp only
  rw [hpeers]
  refine PeerTable.Shows.foldl_block ?_ ?_ ?_ (InterfaceConfig.nodup_of_validate hvalid)
  · intro k
    rw [Std.ExtTreeMap.getElem?_empty, Std.ExtTreeMap.getElem?_empty]
    exact .none
  · intro k p hp
    rw [Std.ExtTreeMap.getElem?_empty] at hp
    cases hp
  · intro p _
    exact Std.ExtTreeMap.getElem?_empty

end ManagedDevice

end TunnelMesh
