/-
The devices of a node, by name.

A name belongs to one device from the start of setting it up until it is stopped or
has failed to start.  While devices run, their targets are probed in cycles, and
after each cycle the device's status becomes the node's own snapshot.  A cycle that
breaks off leaves everything as it was.
-/
import TunnelMesh.Device.Managed
import TunnelMesh.Probe.Cycle

namespace TunnelMesh

/-- The devices of a node. -/
structure DeviceManager (δ : Type) where
  devices : Std.ExtTreeMap String (ManagedDevice δ)

namespace DeviceManager

variable {δ : Type} [TunnelDevice δ]

/-- No devices. -/
def empty : DeviceManager δ := ⟨∅⟩

/-- Starts a device; one that does not start, or whose name is taken, is given back. -/
def start (m : DeviceManager δ) (device : δ) (c : InterfaceConfig) :
    Except (AgentError × δ) (DeviceManager δ) :=
  match c.validate with
  | .error e => .error (.tunnel e, device)
  | .ok () =>
    let name := TunnelDevice.name device
    if m.devices.contains name then .error (.deviceExists name, device)
    else
      match (ManagedDevice.fresh device).start c with
      | (.error e, d) => .error (e, d.device)
      | (.ok (), d) => .ok ⟨m.devices.insert name d⟩

/-- The device of a name. -/
def find (m : DeviceManager δ) (name : String) : Except AgentError (ManagedDevice δ) :=
  match m.devices[name]? with
  | some d => .ok d
  | none => .error (.deviceNotFound name)

/-- Moves a device's peers to those desired, and keeps reachable ones warm. -/
def update (m : DeviceManager δ) (name : String) (desired reachable : List PeerConfig) :
    Except AgentError ChangeSummary × DeviceManager δ :=
  match m.find name with
  | .error e => (.error e, m)
  | .ok d =>
    let (r, d) := d.update desired reachable
    (r, ⟨m.devices.insert name d⟩)

/-- Sets what is probed from the next cycle on. -/
def setTargets (m : DeviceManager δ) (name : String) (targets : List ProbeTarget) :
    Except AgentError (DeviceManager δ) :=
  (m.find name).map fun d => ⟨m.devices.insert name { d with targets }⟩

/-- Changes a device itself. -/
def modifyDevice (m : DeviceManager δ) (name : String) (f : δ → δ) : DeviceManager δ :=
  match m.devices[name]? with
  | some d => ⟨m.devices.insert name { d with device := f d.device }⟩
  | none => m

/-- Stops a device and forgets it; it is given back. -/
def stop (m : DeviceManager δ) (name : String) :
    Except AgentError Unit × Option δ × DeviceManager δ :=
  match m.find name with
  | .error e => (.error e, none, m)
  | .ok d =>
    if d.state = .running then
      let (r, d) := d.stop
      (r, some d.device, ⟨m.devices.erase name⟩)
    else (d.stop.1, none, m)

/-- Stops the devices of the given names; they are given back. -/
def stopAll (m : DeviceManager δ) : List String → List δ × DeviceManager δ
  | [] => ([], m)
  | name :: rest =>
    let (_, device, m) := m.stop name
    let (devices, m) := stopAll m rest
    (device.toList ++ devices, m)

/-- Stops every device; they are given back. -/
def shutdown (m : DeviceManager δ) : List δ × DeviceManager δ := m.stopAll m.devices.keys

/-- What can be seen of a device. -/
def view (m : DeviceManager δ) (name : String) : Except AgentError DeviceView :=
  (m.find name).map ManagedDevice.view

/-- The keys of the peers that a device only keeps warm, in order. -/
def preconnect (m : DeviceManager δ) (name : String) : Except AgentError (List PublicKey) :=
  (m.find name).map fun d => d.preconnect.toList

/-! ### Probing -/

variable {π : Type} [ProbeSource π]

/-- What probe cycles read and write. -/
structure Probing (π : Type) where
  nodeId : NodeId
  settings : ProbeSettings
  source : π
  measured : Measurements Float

/-- Runs a cycle for a device if one is due, and takes its status as the node's snapshot. -/
def cycle (p : Probing π) (now : Instant) (d : ManagedDevice δ) : Probing π × ManagedDevice δ :=
  if !d.probeDue then (p, d)
  else
    match Prober.cycle p.settings p.source p.measured p.nodeId d.targets false with
    | none => (p, { d with probeDue := false })
    | some (_, source, measured) =>
      let (status, device) := TunnelDevice.status d.device
      let measured := match status with
        | .ok s => measured.setSnapshot p.nodeId (Snapshot.ofStatus s now)
        | .error _ => measured
      ({ p with source, measured }, { d with device, probeDue := false })

/-- Runs the cycles that are due for devices one after the other. -/
def runDue (m : DeviceManager δ) (p : Probing π) (now : Instant) :
    List String → Probing π × DeviceManager δ
  | [] => (p, m)
  | name :: rest =>
    match m.devices[name]? with
    | some d =>
      let (p, d) := cycle p now d
      runDue ⟨m.devices.insert name d⟩ p now rest
    | none => runDue m p now rest

/-- Runs the cycles that are due. -/
def settle (m : DeviceManager δ) (p : Probing π) (now : Instant) : Probing π × DeviceManager δ :=
  m.runDue p now m.devices.keys

/-- Lets the time between cycles go by: a cycle is due for every running device. -/
def elapse (m : DeviceManager δ) : DeviceManager δ :=
  ⟨m.devices.map fun _ d => { d with probeDue := d.state = .running }⟩

end DeviceManager

end TunnelMesh
