/-
Performing what a command line asks for.

A command that fails prints nothing and exits with one; a command line that does not
read exits with two.  One that breaks off exits with 101, and what the system says then
is left out.
-/
import TunnelMesh.Agent.ConfigFormat
import TunnelMesh.Agent.Basic
import TunnelMesh.Cli.Invocation
import TunnelMesh.Cli.Terminal
import TunnelMesh.Probe.Source
import TunnelMesh.Tunnel.SocketDevice

namespace TunnelMesh.Cli

/-- Why a command failed. -/
inductive Failure where
  | agent (cause : Transport.Fault AgentError)
  /-- A file is there already and must not be replaced. -/
  | occupied (path : String)
  /-- A file cannot be written. -/
  | unwritable (path : String)

/-- The wording of a failure, unless the command broke off. -/
def Failure.message? : Failure → Option String
  | .agent (.failed e) => some e.message
  | .agent .broken => none
  | .occupied path => some (path ++ " already exists (use --force to overwrite)")
  | .unwritable path => some ("failed to write " ++ path)

/-- What a command leaves behind: its exit code and what it printed. -/
structure Outcome where
  code : Nat
  output : String := ""
  complaint : String := ""
deriving DecidableEq

namespace Outcome

/-- Success with a text, failure with a complaint. -/
def ofResult : Except Failure String → Outcome
  | .ok text => { code := 0, output := text }
  | .error e =>
    match e.message? with
    | some message => { code := 1, complaint := "Error: " ++ message ++ "\n" }
    | none => { code := 101 }

/-- The command line did not read. -/
def misuse : Outcome :=
  { code := 2
    complaint := "error: invalid arguments\n\nFor more information, try '--help'.\n" }

end Outcome

section

variable {m : Type → Type} [Monad m] [Terminal m]

/-- Passes on what can go wrong with an agent. -/
def orFail {α : Type} (r : Except AgentError α) : ExceptT Failure m α :=
  ExceptT.mk (pure (r.mapError fun e => .agent (.failed e)))

/-- Reads and checks the configuration in a file. -/
def readConfig (path : String) : ExceptT Failure m Agent.Config := do
  match ← liftM (Terminal.readFile (m := m) path) with
  | some text => orFail (Agent.Config.ofText text)
  | none => orFail (.error (.config (.unreadable "config file" path)))

/-- The private key of a configuration. -/
def readKey (c : Agent.Config) : ExceptT Failure m PrivateKey := do
  match c.keyFile? with
  | some path => orFail (c.privateKey (← liftM (Terminal.readFile (m := m) path)))
  | none => orFail (c.privateKey none)

/-- The view of the mesh that a configuration and a topology file give. -/
def readNetwork (c : Agent.Config) (path : String) : ExceptT Failure m Network := do
  let n ← orFail (Network.new c.nodeId c.routing)
  let text ← liftM (Terminal.readFile (m := m) path)
  let (loaded, n) := (Network.loadFile path text).runOn n
  orFail loaded
  return n

/-- Exchanges reports through the configured directory, if there is one and it opens. -/
def exchangeReports (c : Agent.Config) (n : Network) : m Network := do
  match c.node.reportsDir with
  | none => return n
  | some path =>
    match ← Terminal.openDirectory (m := m) path with
    | none => return n
    | some dir =>
      let (_, exchanged, _) := n.exchange dir
      let own := ControlSocket.joinPath path n.reportName
      let done ← Terminal.writeFile (m := m) own n.localReport.toJson.pretty
      return if done then exchanged else n

/-- The agent of a configuration, on a host that has neither programs nor a way to others. -/
def secluded (c : Agent.Config) (n : Network) :
    Agent (SocketDevice Host.Bare ScriptedPeer) ScriptedProbe Host.Bare Transport.IsolatedHost :=
  .ofConfig c n {} .mk ⟨49152⟩

/-- Sets the agent up and starts it. -/
def run (config : String) : ExceptT Failure m String := do
  let c ← readConfig config
  let key ← readKey c
  let n ← readNetwork c c.node.topologyPath
  let n ← liftM (exchangeReports (m := m) c n)
  let device := SocketDevice.named c.device.name c.device.socketDir .mk ⟨false, [], []⟩
  let now ← liftM (Terminal.now (m := m))
  ExceptT.mk (pure (((secluded c n).start device key now).1.mapError .agent))
  return ""

/-- The plan of the configured mesh as JSON. -/
def plan (config : String) (topology : Option String) (everyNode : Bool) :
    ExceptT Failure m String := do
  let c ← readConfig config
  let n ← readNetwork c (topology.getD c.node.topologyPath)
  let p := n.plan (← liftM (Terminal.now (m := m)))
  let v := if everyNode then p.toJson else .ofList PeerPlan.toJson (p.peersFor c.nodeId)
  return v.pretty ++ "\n"

/-- A new pair of keys. -/
def generateKey : m String := do
  let key ← Terminal.newKey (m := m)
  return "private_key = " ++ key.toBase64 ++ "\npublic_key  = " ++ key.publicKey.toBase64 ++ "\n"

/-- Writes a configuration with a new key, over an existing file only by force. -/
def writeSample (output : String) (force : Bool) : ExceptT Failure m String := do
  if (← liftM (Terminal.occupied (m := m) output)) && !force then throw (.occupied output)
  let key ← liftM (Terminal.newKey (m := m))
  let text ← orFail (Agent.Config.sample key).toText
  if !(← liftM (Terminal.writeFile (m := m) output text)) then throw (.unwritable output)
  return "Config written to " ++ output ++ "\nPublic key: " ++ key.publicKey.toBase64 ++
    "\n\nSet node.id and node.topology_path, then run:\n  wiremesh run --config " ++ output ++ "\n"

/-- Performs what a command line asks for. -/
def Action.fulfil : Action → m Outcome
  | .perform (.run config) => Outcome.ofResult <$> (run config).run
  | .perform (.plan config topology everyNode) =>
    Outcome.ofResult <$> (plan config topology everyNode).run
  | .perform .generateKey => (fun text => .ofResult (.ok text)) <$> generateKey
  | .perform (.writeSample output force) => Outcome.ofResult <$> (writeSample output force).run
  | .print text => pure (.ofResult (.ok text))
  | .misuse => pure .misuse

end

end TunnelMesh.Cli
