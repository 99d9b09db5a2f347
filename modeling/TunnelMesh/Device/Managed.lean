/-
A device under management.

A device is set up with all of its peers in one request; after that only changes
of single peers are sent.  What the manager takes for the device's peers changes
with each request that the device takes.
-/
import TunnelMesh.Agent.Error
import TunnelMesh.Device.Change
import TunnelMesh.Json.Basic
import TunnelMesh.Probe.Target
import TunnelMesh.Tunnel.Device

namespace TunnelMesh

/-- A device with what its manager knows about it. -/
structure ManagedDevice (δ : Type) where
  device : δ
  state : DeviceState
  /-- The peers that the device has. -/
  live : PeerMap
  /-- Of these, the peers that are only kept warm. -/
  preconnect : Std.ExtTreeSet PublicKey
  /-- What is probed while the device runs. -/
  targets : List ProbeTarget
  /-- Whether a probe cycle is due. -/
  probeDue : Bool

/-- A view of a device. -/
structure DeviceView where
  state : DeviceState
  livePeers : Nat
  preconnectPeers : Nat
deriving DecidableEq

namespace ManagedDevice

variable {δ : Type} [TunnelDevice δ]

/-- A device that is about to be set up. -/
def fresh (device : δ) : ManagedDevice δ := ⟨device, .starting, ∅, ∅, [], false⟩

/-- The request that sets an interface up. -/
def setupRequest (c : InterfaceConfig) : String :=
  let d : Request.Draft :=
    { privateKey := some c.privateKey, listenPort := c.listenPort, replacePeers := true }
  (d.addPeers c.peers).build

/-- Sends the first request and brings a created device up. -/
def setUp (device : δ) (c : InterfaceConfig) : Except TunnelError Unit × δ :=
  match TunnelDevice.apply device (setupRequest c) with
  | (.error e, device) => (.error e, device)
  | (.ok (), device) => TunnelDevice.up device

/-- Creates a device and sets it up; if setting up fails it is closed again. -/
def bringUp (device : δ) (c : InterfaceConfig) : Except TunnelError Unit × δ :=
  match TunnelDevice.create device c with
  | (.error e, device) => (.error e, device)
  | (.ok (), device) =>
    match setUp device c with
    | (.ok (), device) => (.ok (), device)
    | (.error e, device) => (.error e, (TunnelDevice.close device).2)

/-- Starts a device: it runs, or it is stopped again. -/
def start (d : ManagedDevice δ) (c : InterfaceConfig) : Except AgentError Unit × ManagedDevice δ :=
  match bringUp d.device c with
  | (.error e, device) => (.error (.tunnel e), { d with device, state := .stopped })
  | (.ok (), device) =>
    (.ok (), { d with device, state := .running, live := .ofList c.peers, probeDue := true })

/-- Goes on only if the device runs. -/
def ifRunning {α : Type} (d : ManagedDevice δ) (operation : String)
    (act : ManagedDevice δ → Except AgentError α × ManagedDevice δ) :
    Except AgentError α × ManagedDevice δ :=
  if d.state = .running then act d
  else (.error (.invalidState (TunnelDevice.name d.device) d.state operation), d)

/-- Sends one change and counts what came of it. -/
def change (s : ChangeSummary × ManagedDevice δ) (c : PeerChange) :
    ChangeSummary × ManagedDevice δ :=
  let (summary, d) := s
  match TunnelDevice.apply d.device (c.request d.live) with
  | (.error _, device) => ({ summary with failed := summary.failed + 1 }, { d with device })
  | (.ok (), device) => (summary.count d.live c, { d with device, live := c.apply d.live })

/-- The peers kept warm after an update: those that were and still are, and those that are now. -/
def keptWarm (d : ManagedDevice δ) (g : PeerGoal) : Std.ExtTreeSet PublicKey :=
  .ofList (d.live.keys.filter fun k =>
    !g.desired.contains k && (d.preconnect.contains k || g.warm.contains k))

/-- Moves the device's peers towards a goal. -/
def reach (d : ManagedDevice δ) (g : PeerGoal) : ChangeSummary × ManagedDevice δ :=
  let (summary, d) := (g.changes d.live).foldl change ({}, d)
  (summary, { d with preconnect := d.keptWarm g })

/-- Moves a running device's peers to those desired, and keeps reachable ones warm. -/
def update (d : ManagedDevice δ) (desired reachable : List PeerConfig) :
    Except AgentError ChangeSummary × ManagedDevice δ :=
  d.ifRunning "update" fun d =>
    let (summary, d) := d.reach (.ofLists desired reachable)
    (.ok summary, d)

/-- Closes a device and forgets what is known of its peers. -/
def takeDown (d : ManagedDevice δ) : Except AgentError Unit × ManagedDevice δ :=
  let (r, device) := TunnelDevice.close d.device
  (r.mapError .tunnel,
    { d with device, state := .stopped, live := ∅, preconnect := ∅, probeDue := false })

/-- Stops a running device. -/
def stop (d : ManagedDevice δ) : Except AgentError Unit × ManagedDevice δ :=
  d.ifRunning "stop" takeDown

/-- What can be seen of a device. -/
def view (d : ManagedDevice δ) : DeviceView := ⟨d.state, d.live.size, d.preconnect.size⟩

end ManagedDevice

/-- What was changed, as JSON. -/
def ChangeSummary.toJson (s : ChangeSummary) : Json :=
  .obj [("added", .nat s.added), ("updated", .nat s.updated), ("removed", .nat s.removed),
    ("failed", .nat s.failed), ("noop", .bool s.isNoop)]

/-- The state of a device as JSON. -/
def DeviceView.toJson (s : DeviceView) : Json :=
  .obj [("state", .str s.state.name), ("live_peers", .nat s.livePeers),
    ("preconnect_peers", .nat s.preconnectPeers)]

end TunnelMesh
