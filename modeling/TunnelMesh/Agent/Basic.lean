/-
The agent of a node: it plans, and brings device, firewall and probes into line
with the plan.

Peers whose endpoint is a relay are reached through the bridge, if there is one;
peers whose endpoint is not known are set up without one.
-/
import TunnelMesh.Agent.Config
import TunnelMesh.Agent.Network
import TunnelMesh.Device.Manager
import TunnelMesh.Host.Firewall
import TunnelMesh.Relay.Bridge

namespace TunnelMesh

open Host Net Transport

/-- The agent of a node, on a host that runs commands and has sockets. -/
structure Agent (δ π ρ σ : Type) where
  interface : String
  mtu : Option UInt16
  network : Network
  devices : DeviceManager δ
  settings : ProbeSettings
  source : π
  firewall : Firewall
  host : ρ
  relay : Option RelayBridge
  sockets : σ

namespace Agent

variable {δ π ρ σ : Type} [TunnelDevice δ] [ProbeSource π] [Runner ρ] [Sockets σ]

/-- The address of an endpoint that is written as host and port. -/
def directEndpoint (text : String) : Option SocketAddress :=
  (SocketAddress.ofText? text).or <|
    match (text.splitOn ":").reverse with
    | port :: host@(_ :: _) =>
      (Text.u16? port).bind (Network.resolve (":".intercalate host.reverse))
    | _ => none

/-- Whether an endpoint is reached through a relay. -/
def isRelayed (text : String) : Bool := text.startsWith "ws://" || text.startsWith "wss://"

/-- The address under which the device reaches an endpoint. -/
def resolveEndpoint (a : Agent δ π ρ σ) (text : String) : Option SocketAddress × Agent δ π ρ σ :=
  if isRelayed text then
    match a.relay with
    | none => (none, a)
    | some bridge =>
      let (r, bridge, sockets) := bridge.endpointFor RelayUrl.ofText? a.sockets text
      (r.toOption, { a with relay := some bridge, sockets })
  else (directEndpoint text, a)

/-- The settings of a planned peer. -/
def peerConfig (a : Agent δ π ρ σ) (p : PeerPlan) : PeerConfig × Agent δ π ρ σ :=
  let (endpoint, a) := match p.endpoint with
    | some text => a.resolveEndpoint text
    | none => (none, a)
  (⟨p.publicKey, none, p.allowedIps, endpoint, p.keepalive⟩, a)

/-- The settings of planned peers. -/
def peerConfigs (a : Agent δ π ρ σ) : List PeerPlan → List PeerConfig × Agent δ π ρ σ
  | [] => ([], a)
  | p :: rest =>
    let (c, a) := a.peerConfig p
    let (cs, a) := peerConfigs a rest
    (c :: cs, a)

/-- Places the forwarding rules of the node's network. -/
def ensureRules (a : Agent δ π ρ σ) (node : Node) : Except AgentError Unit × Agent δ π ρ σ :=
  let (r, firewall, host) := a.firewall.ensure a.host a.interface node.address.trunc
  (r.mapError .command, { a with firewall, host })

/-- Sets what is probed of the mesh. -/
def aimProbes (a : Agent δ π ρ σ) : Except AgentError Unit × Agent δ π ρ σ :=
  match a.devices.setTargets a.interface a.network.probeTargets with
  | .error e => (.error e, a)
  | .ok devices => (.ok (), { a with devices })

/-- Opens the bridge, if there is one. -/
def openRelay (a : Agent δ π ρ σ) : Except (Fault AgentError) Unit × Agent δ π ρ σ :=
  match a.relay with
  | none => (.ok (), a)
  | some bridge =>
    let (r, bridge, sockets) := bridge.openOn a.sockets
    (r.mapError (·.map .transport), { a with relay := some bridge, sockets })

/-- The settings of the interface with its planned peers. -/
def interfaceConfig (a : Agent δ π ρ σ) (node : Node) (key : PrivateKey) (now : Instant) :
    InterfaceConfig × Agent δ π ρ σ :=
  let (peers, a) := a.peerConfigs (a.network.localPeers (a.network.plan now)).desired
  (⟨a.interface, key, some node.listenPort, [node.address], a.mtu, peers⟩, a)

/-- Starts the device with the planned peers, places the rules and aims the probes. A device that
does not start is given back; where starting breaks off, it is lost. -/
def start (a : Agent δ π ρ σ) (device : δ) (key : PrivateKey) (now : Instant) :
    Except (Fault AgentError) Unit × Option δ × Agent δ π ρ σ :=
  if TunnelDevice.name device ≠ a.interface then
    (.error (.failed (.config (.wrongDevice (TunnelDevice.name device) a.interface))), some device, a)
  else
    match a.network.localNode with
    | .error e => (.error (.failed e), some device, a)
    | .ok node =>
      match a.openRelay with
      | (.error .broken, a) => (.error .broken, none, a)
      | (.error (.failed e), a) => (.error (.failed e), some device, a)
      | (.ok (), a) =>
        let (c, a) := a.interfaceConfig node key now
        match a.devices.start device c with
        | .error (e, device) => (.error (.failed e), some device, a)
        | .ok devices =>
          match { a with devices }.ensureRules node with
          | (.error e, a) => (.error (.failed e), none, a)
          | (.ok (), a) =>
            let (r, a) := a.aimProbes
            (r.mapError .failed, none, a)

/-- Plans anew and sends the differences to the device. -/
def reconcile (a : Agent δ π ρ σ) (now : Instant) :
    Except AgentError ChangeSummary × Agent δ π ρ σ :=
  match a.network.localNode with
  | .error e => (.error e, a)
  | .ok node =>
    let peers := a.network.localPeers (a.network.plan now)
    let (desired, a) := a.peerConfigs peers.desired
    let (reachable, a) := a.peerConfigs peers.reachable
    match a.devices.update a.interface desired reachable with
    | (.error e, devices) => (.error e, { a with devices })
    | (.ok summary, devices) =>
      match { a with devices }.aimProbes with
      | (.error e, a) => (.error e, a)
      | (.ok (), a) =>
        match a.ensureRules node with
        | (.error e, a) => (.error e, a)
        | (.ok (), a) => (.ok summary, { a with relay := a.relay.map fun b => b.prune.2 })

/-- Stops every device, takes the rules away and closes the bridge; the devices are given back. -/
def shutdown (a : Agent δ π ρ σ) : List δ × Agent δ π ρ σ :=
  let (stopped, devices) := a.devices.shutdown
  let (firewall, host) := a.firewall.cleanup a.host a.interface
  (stopped, { a with devices, firewall, host, relay := a.relay.map RelayBridge.close })

/-- Runs the probe cycles that are due. -/
def settle (a : Agent δ π ρ σ) (now : Instant) : Agent δ π ρ σ :=
  let (p, devices) :=
    a.devices.settle ⟨a.network.nodeId, a.settings, a.source, a.network.measured⟩ now
  { a with devices, source := p.source, network := { a.network with measured := p.measured } }

/-- The agent of a configuration, not started yet. -/
def ofConfig (c : Config) (network : Network) (source : π) (host : ρ) (sockets : σ) :
    Agent δ π ρ σ where
  interface := c.device.name
  mtu := some c.device.mtu
  network
  devices := .empty
  settings := c.probeSettings
  source
  firewall := .empty c.firewallEnabled
  host
  relay := if c.relay.relay then some (.toPort c.relaySettings c.device.listenPort) else none
  sockets

end Agent

end TunnelMesh
