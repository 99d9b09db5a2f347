/-
The command line of the mesh agent.
-/
import TunnelMesh.Cli.Help

namespace TunnelMesh.Cli

/-- What the program can be asked to do. -/
inductive Invocation where
  /-- Run the agent. -/
  | run (config : String)
  /-- Print the plan, of a given topology or of the configured one, for every node or one. -/
  | plan (config : String) (topology : Option String) (everyNode : Bool)
  /-- Print a new pair of keys. -/
  | generateKey
  /-- Write a configuration with a new key. -/
  | writeSample (output : String) (force : Bool)
deriving DecidableEq

/-- What a command line amounts to. -/
inductive Action where
  | perform (i : Invocation)
  /-- Only print a text. -/
  | print (text : String)
  | misuse
deriving DecidableEq

/-- The file of the configuration where none is given. -/
def defaultConfig : String := "/etc/wiremesh/config.toml"

/-- Logs can be written for machines. -/
def jsonLogs : OptionForm :=
  ⟨none, "json-logs", "Emit logs as JSON lines", none, some "WIREMESH_LOG_JSON"⟩

/-- The file of the configuration. -/
def configOption : OptionForm :=
  ⟨some 'c', "config", "Path to config file", some ⟨"CONFIG", some defaultConfig⟩,
    some "WIREMESH_CONFIG"⟩

/-- The command that runs the agent. -/
def runForm : CommandForm := ⟨"run", "Run the node agent", [configOption, jsonLogs]⟩

/-- The command that prints the plan. -/
def planForm : CommandForm :=
  ⟨"plan", "Print the routing plan as JSON",
    [configOption, jsonLogs,
      ⟨some 't', "topology", "Topology file to plan from instead of the configured one",
        some ⟨"TOPOLOGY", none⟩, none⟩,
      ⟨none, "all", "Print the plan for every node, not just this one", none, none⟩]⟩

/-- The command that makes keys. -/
def keyForm : CommandForm := ⟨"genkey", "Generate a key pair", [jsonLogs]⟩

/-- The command that writes a configuration to start from. -/
def sampleForm : CommandForm :=
  ⟨"init-config", "Generate a sample config file with a fresh key",
    [jsonLogs,
      ⟨some 'o', "output", "Path to write config", some ⟨"OUTPUT", some defaultConfig⟩, none⟩,
      ⟨none, "force", "Overwrite an existing file", none, none⟩]⟩

/-- The command line of the program. -/
def program : ProgramForm :=
  ⟨"wiremesh", "0.1.0", "wiremesh mesh VPN node agent", [jsonLogs],
    [runForm, planForm, keyForm, sampleForm]⟩

/-- The value of an option: as given, else from the environment, else as it is by default. -/
def OptionForm.resolve (o : OptionForm) (env : Environment) (given : Given) : Option String :=
  ((given.value? o.long).or (o.envName.bind env)).or (o.value.bind (·.default?))

/-- What a command with its options stands for. -/
def Invocation.ofCommand (env : Environment) (given : Given) (name : String) : Invocation :=
  let config := (configOption.resolve env given).getD defaultConfig
  match name with
  | "run" => .run config
  | "plan" => .plan config (given.value? "topology") (given.has "all")
  | "genkey" => .generateKey
  | _ => .writeSample ((given.value? "output").getD defaultConfig) (given.has "force")

/-- What a command line amounts to. -/
def Action.ofArgs (env : Environment) (args : List String) : Action :=
  match program.read args with
  | .perform c given => .perform (.ofCommand env given c.name)
  | .explain topic => .print (program.help env topic)
  | .version => .print program.versionText
  | .misuse => .misuse

end TunnelMesh.Cli
