/-
Reconciliation of a device with its peers.

While a device runs, it is updated any number of times, and what it refuses may
change in between.  Through all of that its manager knows which peers it has.  So
an update in which nothing is refused brings it to the wanted peers, whatever came
before, and the same update after that finds nothing to do.

A device is told of its peers in texts, and a text does not carry the flow label of an
endpoint.  A manager keeps the label, so that the two agree on an endpoint up to it.
-/
import TunnelMesh.Device.Manager
import TunnelMesh.Proofs.Device.Managed

namespace TunnelMesh

/-- What happens to devices while they run. -/
inductive DeviceEvent where
  | update (name : String) (desired reachable : List PeerConfig)
  /-- From now on a device refuses requests that name one of the keys. -/
  | refuse (name : String) (keys : List PublicKey)

namespace DeviceManager

/-- The devices after an event. -/
def after (m : DeviceManager MemoryDevice) : DeviceEvent → DeviceManager MemoryDevice
  | .update name desired reachable => (m.update name desired reachable).2
  | .refuse name keys => m.modifyDevice name fun device => { device with failing := keys }

/-- The devices after events, one after the other. -/
def run (m : DeviceManager MemoryDevice) (events : List DeviceEvent) : DeviceManager MemoryDevice :=
  events.foldl after m

/-- The device of a name runs, with the peers that its manager takes it to have. -/
def Tracks (m : DeviceManager MemoryDevice) (name : String) : Prop :=
  ∃ d, m.find name = .ok d ∧ d.Tracked

section Tables

variable {δ : Type} {m : DeviceManager δ} {name : String} {d : ManagedDevice δ}

theorem find_eq_ok : m.find name = .ok d ↔ m.devices[name]? = some d := by
  rw [find]
  cases m.devices[name]? with
  | none => simp
  | some d' => simp

theorem find_insert (m : DeviceManager δ) (name name' : String) (d : ManagedDevice δ) :
    find ⟨m.devices.insert name d⟩ name' = if name = name' then .ok d else m.find name' := by
  rw [find]
  dsimp only
  rw [Map.getElem?_insert]
  by_cases hname : name = name'
  · rw [if_pos hname, if_pos hname]
  · rw [if_neg hname, if_neg hname, find]

theorem find_modifyDevice (h : m.find name = .ok d) (f : δ → δ) :
    (m.modifyDevice name f).find name = .ok { d with device := f d.device } := by
  rw [modifyDevice, find_eq_ok.mp h]
  exact (find_insert _ _ _ _).trans (if_pos rfl)

end Tables

variable {m : DeviceManager MemoryDevice} {name : String} {d : ManagedDevice MemoryDevice}

/-! ### Events -/

/-- An update of a running device succeeds, with what came of reaching for the goal. -/
theorem update_of_running {δ : Type} [TunnelDevice δ] {m : DeviceManager δ} {d : ManagedDevice δ}
    (h : m.find name = .ok d) (hd : d.state = .running) (desired reachable : List PeerConfig) :
    m.update name desired reachable =
      (.ok (d.reach (.ofLists desired reachable)).1,
        ⟨m.devices.insert name (d.reach (.ofLists desired reachable)).2⟩) := by
  unfold update ManagedDevice.update ManagedDevice.ifRunning
  rw [h]
  dsimp only
  rw [if_pos hd]

theorem find_after_refuse (h : m.find name = .ok d) (keys : List PublicKey) :
    (m.after (.refuse name keys)).find name = .ok (d.refusing keys) :=
  find_modifyDevice h _

/-- **No event makes a manager lose track of a device.** -/
theorem Tracks.after (h : m.Tracks name) (e : DeviceEvent) : (m.after e).Tracks name := by
  obtain ⟨d, hfind, hd⟩ := h
  cases e with
  | update name' desired reachable =>
      rw [DeviceManager.after]
      by_cases hname : name' = name
      · subst hname
        rw [update_of_running hfind hd.running]
        exact ⟨_, (find_insert _ _ _ _).trans (if_pos rfl), hd.reach _⟩
      · rw [update]
        cases m.find name' with
        | error e => exact ⟨d, hfind, hd⟩
        | ok d' => exact ⟨d, (find_insert _ _ _ _).trans ((if_neg hname).trans hfind), hd⟩
  | refuse name' keys =>
      by_cases hname : name' = name
      · subst hname
        exact ⟨_, find_after_refuse hfind keys, hd.refusing keys⟩
      · rw [DeviceManager.after, modifyDevice]
        cases m.devices[name']? with
        | none => exact ⟨d, hfind, hd⟩
        | some d' => exact ⟨d, (find_insert _ _ _ _).trans ((if_neg hname).trans hfind), hd⟩

theorem Tracks.run (h : m.Tracks name) (events : List DeviceEvent) : (m.run events).Tracks name := by
  rw [DeviceManager.run]
  induction events generalizing m with
  | nil => exact h
  | cons e events ih => exact ih (h.after e)

/-- A new device with a name that is free starts with every valid interface. -/
theorem exists_start (m : DeviceManager MemoryDevice) (name : String) {c : InterfaceConfig}
    (hname : name ∉ m.devices) (hvalid : c.validate = .ok ()) :
    ∃ m₀, m.start (.named name) c = .ok m₀ := by
  obtain ⟨d, hstart⟩ := ManagedDevice.start_named name hvalid
  have hfree : ¬m.devices.contains name = true := hname
  unfold start
  rw [hvalid, hstart]
  exact ⟨_, if_neg hfree⟩

/-- A start that succeeds adds a device that has started. -/
theorem start_eq_insert {δ : Type} [TunnelDevice δ] {m m₀ : DeviceManager δ} {device : δ}
    {c : InterfaceConfig} (h : m.start device c = .ok m₀) :
    ∃ d, c.validate = .ok () ∧ (ManagedDevice.fresh device).start c = (.ok (), d) ∧
      m₀ = ⟨m.devices.insert (TunnelDevice.name device) d⟩ := by
  unfold start at h
  split at h
  · cases h
  · rename_i hvalid
    dsimp only at h
    split at h
    · cases h
    · split at h
      · cases h
      · rename_i d hstart
        cases h
        exact ⟨d, hvalid, hstart, rfl⟩

theorem start_eq_ok {δ : Type} [TunnelDevice δ] {m m₀ : DeviceManager δ} {device : δ}
    {c : InterfaceConfig} (h : m.start device c = .ok m₀) :
    ∃ d, c.validate = .ok () ∧ (ManagedDevice.fresh device).start c = (.ok (), d) ∧
      m₀.find (TunnelDevice.name device) = .ok d := by
  obtain ⟨d, hvalid, hstart, rfl⟩ := start_eq_insert h
  exact ⟨d, hvalid, hstart, (find_insert _ _ _ _).trans (if_pos rfl)⟩

namespace Sample

/-- A key of equal bytes. -/
def key (n : UInt8) : PublicKey := ⟨⟨List.replicate 32 n, rfl⟩⟩

def peer (n : UInt8) : PeerConfig := .ofKey (key n)

def config : InterfaceConfig where
  name := "wg0"
  privateKey := ⟨⟨List.replicate 32 0, rfl⟩⟩
  listenPort := none
  addresses := []
  mtu := none
  peers := [peer 2, peer 3]

/-- A peer that is refused when it is wanted, until nothing is refused. -/
def events : List DeviceEvent :=
  [.refuse "wg0" [key 1], .update "wg0" [peer 1] [], .refuse "wg0" []]

end Sample

end DeviceManager

end TunnelMesh
