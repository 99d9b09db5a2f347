/-
Calls on the devices of a node that run at the same time.

The table of names and each device have a lock.  A start registers its device under
its name with the device locked, and sets it up before others can have it.  Other
calls look the device up, wait for it, and then have it for themselves.  A start
that fails and a stop take the name out of the table once they have let go of the
device.  A call goes from one lock to the next in one step, and steps of different
calls come in any order.
-/
import TunnelMesh.Device.Managed

namespace TunnelMesh

/-- What a call asks for. -/
inductive DeviceCall (δ : Type) where
  | start (device : δ) (config : InterfaceConfig)
  | stop (name : String)
  | update (name : String) (desired reachable : List PeerConfig)
  | status (name : String)

/-- What a call that succeeded gives. -/
inductive CallValue where
  | done
  | summary (changes : ChangeSummary)
  | view (device : DeviceView)
deriving DecidableEq

/-- How far a call has come; devices are known by their numbers. -/
inductive CallStage where
  /-- It has not taken a lock yet. -/
  | called
  /-- It has registered a device, holds its lock and sets it up. -/
  | settingUp (device : Nat)
  /-- It has looked a device up and waits for its lock. -/
  | waiting (device : Nat)
  /-- It holds the lock of a device that it takes down. -/
  | takingDown (device : Nat)
  /-- It has let go of a device that does not run any more, whose name it takes out next. -/
  | leaving (device : Nat) (result : Except AgentError CallValue)
  | returned (result : Except AgentError CallValue)

/-- Whether a call keeps others from a device. -/
def CallStage.holds (n : Nat) : CallStage → Bool
  | settingUp m | takingDown m => n == m
  | _ => false

/-- A call and how far it has come. -/
structure PendingCall (δ : Type) where
  call : DeviceCall δ
  stage : CallStage

/-- The devices of a node and the calls on them. -/
structure DeviceCalls (δ : Type) where
  /-- Every device that was registered, in order. -/
  devices : List (ManagedDevice δ)
  /-- The number of each name's device. -/
  names : Std.ExtTreeMap String Nat
  /-- Every call, in order. -/
  calls : List (PendingCall δ)

variable {δ : Type} [TunnelDevice δ]

/-- The name of the device that a call is about. -/
def DeviceCall.name : DeviceCall δ → String
  | start device _ => TunnelDevice.name device
  | stop name | update name _ _ | status name => name

namespace DeviceCalls

/-- No devices and no calls. -/
def empty : DeviceCalls δ := ⟨[], ∅, []⟩

/-- Whether some call holds the lock of a device. -/
def isLocked (s : DeviceCalls δ) (n : Nat) : Bool := s.calls.any fun c => c.stage.holds n

/-- Moves a call on. -/
def moveOn (s : DeviceCalls δ) (i : Nat) (stage : CallStage) : DeviceCalls δ :=
  { s with calls := s.calls.modify i fun c => { c with stage } }

/-- Changes a device. -/
def put (s : DeviceCalls δ) (n : Nat) (d : ManagedDevice δ) : DeviceCalls δ :=
  { s with devices := s.devices.set n d }

/-- A call is made. -/
def call (s : DeviceCalls δ) (c : DeviceCall δ) : DeviceCalls δ :=
  { s with calls := s.calls ++ [⟨c, .called⟩] }

/-- A call registers a device under its name, unless another has it. -/
def enroll (s : DeviceCalls δ) (i : Nat) (device : δ) (config : InterfaceConfig) : DeviceCalls δ :=
  match config.validate with
  | .error e => s.moveOn i (.returned (.error (.tunnel e)))
  | .ok () =>
    let name := TunnelDevice.name device
    if s.names.contains name then s.moveOn i (.returned (.error (.deviceExists name)))
    else
      { s with
        devices := s.devices ++ [ManagedDevice.fresh device]
        names := s.names.insert name s.devices.length }.moveOn i (.settingUp s.devices.length)

/-- A call looks a device up. -/
def lookUp (s : DeviceCalls δ) (i : Nat) (name : String) : DeviceCalls δ :=
  match s.names[name]? with
  | some n => s.moveOn i (.waiting n)
  | none => s.moveOn i (.returned (.error (.deviceNotFound name)))

/-- A start sets its device up. -/
def setUp (s : DeviceCalls δ) (i n : Nat) (d : ManagedDevice δ) (config : InterfaceConfig) :
    DeviceCalls δ :=
  match d.start config with
  | (.ok (), d) => (s.put n d).moveOn i (.returned (.ok .done))
  | (.error e, d) => (s.put n d).moveOn i (.leaving n (.error e))

/-- A call that waited for a device has it. -/
def attend (s : DeviceCalls δ) (i n : Nat) (d : ManagedDevice δ) : DeviceCall δ → DeviceCalls δ
  | .start .. => s
  | .stop _ =>
    if d.state = .running then (s.put n { d with state := .stopping }).moveOn i (.takingDown n)
    else s.moveOn i (.returned (d.stop.1.map fun _ => .done))
  | .update _ desired reachable =>
    let (r, d) := d.update desired reachable
    (s.put n d).moveOn i (.returned (r.map .summary))
  | .status _ => s.moveOn i (.returned (.ok (.view d.view)))

/-- A stop takes its device down. -/
def takeDown (s : DeviceCalls δ) (i n : Nat) (d : ManagedDevice δ) : DeviceCalls δ :=
  let (r, d) := d.takeDown
  (s.put n d).moveOn i (.leaving n (r.map fun _ => .done))

/-- A call takes its device's name out of the table and returns. -/
def leave (s : DeviceCalls δ) (i : Nat) (name : String) (result : Except AgentError CallValue) :
    DeviceCalls δ :=
  { s with names := s.names.erase name }.moveOn i (.returned result)

/-- A call goes on to its next lock; one that has to wait for it, or has returned, stays. -/
def advance (s : DeviceCalls δ) (i : Nat) : DeviceCalls δ :=
  match s.calls[i]? with
  | none => s
  | some ⟨call, stage⟩ =>
    match stage, call with
    | .called, .start device config => s.enroll i device config
    | .called, call => s.lookUp i call.name
    | .settingUp n, .start _ config =>
      match s.devices[n]? with
      | some d => s.setUp i n d config
      | none => s
    | .waiting n, call =>
      if s.isLocked n then s
      else
        match s.devices[n]? with
        | some d => s.attend i n d call
        | none => s
    | .takingDown n, _ =>
      match s.devices[n]? with
      | some d => s.takeDown i n d
      | none => s
    | .leaving _ result, call => s.leave i call.name result
    | _, _ => s

/-- What happens to calls. -/
inductive Event (δ : Type) where
  | call (c : DeviceCall δ)
  | advance (i : Nat)

/-- The state after an event. -/
def step (s : DeviceCalls δ) : Event δ → DeviceCalls δ
  | .call c => s.call c
  | .advance i => s.advance i

end DeviceCalls

end TunnelMesh
