/-
What can go wrong with a node's agent.
-/
import TunnelMesh.Host.Command
import TunnelMesh.Mesh.Error
import TunnelMesh.Transport.Error
import TunnelMesh.Tunnel.Error

namespace TunnelMesh

/-- What a managed device is doing. -/
inductive DeviceState where
  | stopped
  /-- Being created and set up. -/
  | starting
  | running
  /-- Being taken down. -/
  | stopping
deriving DecidableEq, Repr

/-- The name of a state. -/
def DeviceState.name : DeviceState → String
  | .stopped => "stopped"
  | .starting => "starting"
  | .running => "running"
  | .stopping => "stopping"

/-- What is wrong with a configuration, or with the files that it needs. -/
inductive ConfigFault where
  /-- A file cannot be read. -/
  | unreadable (what path : String)
  /-- The text is not of the format, or a value is missing or not of its kind. -/
  | invalidToml
  /-- A value does not fit the format. -/
  | unwritable
  | noKey
  | twoKeys
  | planInterval
  | nameLength
  | nameCharacters
  | listenPort
  | mtu
  | relayPath
  | probeTimes
  | probeConcurrency
  /-- The device to start is not that of the interface. -/
  | wrongDevice (name interface : String)
deriving DecidableEq

/-- The wording of a fault. -/
def ConfigFault.message : ConfigFault → String
  | .unreadable what path => "failed to read " ++ what ++ " '" ++ path ++ "'"
  | .invalidToml => "invalid TOML"
  | .unwritable => "failed to serialize config"
  | .noKey => "one of node.private_key or node.private_key_path is required"
  | .twoKeys => "node.private_key and node.private_key_path are mutually exclusive"
  | .planInterval => "node.plan_interval_secs must be greater than 0"
  | .nameLength => "device.name must be 1 to 15 characters"
  | .nameCharacters =>
    "device.name must contain only alphanumeric characters, hyphens, and underscores"
  | .listenPort => "device.listen_port must be greater than 0"
  | .mtu => "device.mtu must be at least 576"
  | .relayPath => "transport.websocket_path must start with '/'"
  | .probeTimes => "probe.interval_secs and probe.timeout_ms must be greater than 0"
  | .probeConcurrency => "probe.concurrency must be greater than 0"
  | .wrongDevice n i => "device " ++ n ++ " does not match interface " ++ i

/-- Why something about a node failed. -/
inductive AgentError where
  | config (fault : ConfigFault)
  | tunnel (cause : TunnelError)
  | mesh (cause : MeshError)
  | transport (cause : Transport.BindError)
  | command (cause : Host.CommandError)
  | deviceNotFound (name : String)
  | deviceExists (name : String)
  /-- The device is not in the state that an operation needs. -/
  | invalidState (interface : String) (state : DeviceState) (operation : String)
  /-- The operating system reports a fault. -/
  | io (message : String)

/-- The wording of an error. -/
def AgentError.message : AgentError → String
  | .config f => "configuration error: " ++ f.message
  | .tunnel e => "wireguard error: " ++ e.message
  | .mesh e => "routing error: " ++ e.message
  | .transport e => "transport error: " ++ e.message
  | .command e => "command error: " ++ e.message
  | .deviceNotFound n => "device not found: " ++ n
  | .deviceExists n => "device already exists: " ++ n
  | .invalidState i s o => "cannot " ++ o ++ " device " ++ i ++ " while " ++ s.name
  | .io m => "io error: " ++ m

/-- The name of an error's kind, under the name of the part that it comes from. -/
def AgentError.kind : AgentError → String
  | .config _ => "Config"
  | .tunnel e => "WireGuard/" ++ e.kind
  | .mesh e => "Routing/" ++ e.kind
  | .transport e => "Transport/" ++ e.kind
  | .command e => "Command/" ++ e.kind
  | .deviceNotFound _ => "DeviceNotFound"
  | .deviceExists _ => "DeviceExists"
  | .invalidState .. => "InvalidState"
  | .io _ => "Io"

end TunnelMesh
