/-
The configuration of a node.

Six sections say who the node is, what its tunnel interface is like, whether peers
behind relays are reached, what routes cost, how round trips are measured, and
whether forwarding rules are placed.
-/
import TunnelMesh.Agent.Error
import TunnelMesh.Probe.Prober
import TunnelMesh.Transport.WebSocket
import TunnelMesh.Tunnel.Interface

namespace TunnelMesh.Agent

open Net Transport

/-- Who a node is and how it plans. -/
structure NodeSection where
  id : UInt64
  /-- The file with the topology. -/
  topologyPath : String
  privateKey : Option String := none
  /-- The file with the private key. -/
  privateKeyPath : Option String := none
  /-- The directory in which nodes exchange reports. -/
  reportsDir : Option String := none
  planIntervalSecs : UInt64 := 30
  /-- Without privileges there are no forwarding rules, and tunnel addresses are not probed. -/
  unprivileged : Bool := false
deriving DecidableEq

/-- The tunnel interface. -/
structure DeviceSection where
  name : String := "wm0"
  listenPort : UInt16 := 51820
  mtu : UInt16 := 1420
  /-- The directory of control sockets. -/
  socketDir : String := "/var/run/wireguard"
  /-- How long to wait for a control socket. -/
  readyTimeoutSecs : UInt64 := 5
deriving DecidableEq

/-- Peers behind relays. -/
structure RelaySection where
  relay : Bool := true
  /-- Where to accept relay connections, if anywhere. -/
  listen : Option SocketAddress := none
  path : String := "/wiremesh"
deriving DecidableEq

/-- Measuring round trips. -/
structure ProbeSection where
  intervalSecs : UInt64 := 30
  timeoutMs : UInt64 := 2000
  concurrency : UInt64 := 16
  innerPort : UInt16 := 22
deriving DecidableEq

/-- The configuration of a node. -/
structure Config where
  node : NodeSection
  device : DeviceSection := {}
  relay : RelaySection := {}
  routing : Policy Float := Policy.standard
  probe : ProbeSection := {}
  /-- Whether forwarding rules are placed. -/
  firewall : Bool := true

namespace Config

/-- The most bytes of an interface name. -/
def nameLimit : Nat := 15

/-- The least size of packets. -/
def leastMtu : UInt16 := 576

/-- Reads a key that may have blanks around it. -/
def readKey (text : String) : Except AgentError PrivateKey :=
  (PrivateKey.ofBase64 (Text.trim text)).mapError fun e => .tunnel (.key e)

/-- Checks that there is one source for the key, and the key if it stands in the text. -/
def checkKey (n : NodeSection) : Except AgentError Unit :=
  match n.privateKey, n.privateKeyPath with
  | none, none => .error (.config .noKey)
  | some _, some _ => .error (.config .twoKeys)
  | some key, none => (readKey key).map fun _ => ()
  | none, some _ => .ok ()

/-- What is wrong with the plain settings; the first fault counts. -/
def fault? (c : Config) : Option ConfigFault :=
  if c.node.planIntervalSecs = 0 then some .planInterval
  else if c.device.name.isEmpty ∨ nameLimit < c.device.name.utf8ByteSize then some .nameLength
  else if !c.device.name.toList.all InterfaceConfig.isNameChar then some .nameCharacters
  else if c.device.listenPort = 0 then some .listenPort
  else if c.device.mtu < leastMtu then some .mtu
  else if c.relay.path.toList.head? ≠ some '/' then some .relayPath
  else if c.probe.intervalSecs = 0 ∨ c.probe.timeoutMs = 0 then some .probeTimes
  else if c.probe.concurrency = 0 then some .probeConcurrency
  else none

/-- Checks a configuration; the first fault counts. -/
def validate (c : Config) : Except AgentError Unit := do
  checkKey c.node
  match c.fault? with
  | some f => .error (.config f)
  | none => c.routing.validate.mapError fun f => .mesh (.policy f)

/-- A configuration to start from. -/
def sample (key : PrivateKey) : Config where
  node := {
    id := 1
    topologyPath := "/etc/wiremesh/topology.json"
    privateKey := some key.toBase64
    reportsDir := some "/var/lib/wiremesh/reports" }

/-- The node's number. -/
def nodeId (c : Config) : NodeId := ⟨c.node.id⟩

/-- The file that the private key has to be read from, if it does not stand in the text. -/
def keyFile? (c : Config) : Option String :=
  if c.node.privateKey.isSome then none else c.node.privateKeyPath

/-- The private key, given the text of the key file if there is one to be read. -/
def privateKey (c : Config) (file : Option String) : Except AgentError PrivateKey :=
  match c.node.privateKey with
  | some key => readKey key
  | none =>
    match file with
    | some text => readKey text
    | none => .error (.config (.unreadable "private key file" (c.node.privateKeyPath.getD "")))

/-- The time between plans. -/
def planInterval (c : Config) : Duration := .ofSecs c.node.planIntervalSecs.toNat

/-- How probing is done. -/
def probeSettings (c : Config) : ProbeSettings where
  interval := .ofSecs c.probe.intervalSecs.toNat
  timeout := .ofMillis c.probe.timeoutMs.toNat
  concurrency := c.probe.concurrency.toNat
  inner := !c.node.unprivileged
  innerPort := c.probe.innerPort

/-- How long to wait for a control socket. -/
def readyTimeout (c : Config) : Duration := .ofSecs c.device.readyTimeoutSecs.toNat

/-- The settings of the relay transport. -/
def relaySettings (c : Config) : RelaySettings := { listen := c.relay.listen }

/-- Whether forwarding rules are placed. -/
def firewallEnabled (c : Config) : Bool := c.firewall && !c.node.unprivileged

end Config

end TunnelMesh.Agent
