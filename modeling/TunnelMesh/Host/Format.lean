/-
What commands answer, in JSON, and rules of a packet filter as texts.
-/
import TunnelMesh.Host.Recording
import TunnelMesh.Json.Decode

namespace TunnelMesh.Host

/-- The program of a name. -/
def Program.ofName? (name : String) : Option Program :=
  Program.all.find? fun p => p.name == name

/-- What a command left behind, as JSON. -/
def Output.toJson (o : Output) : Json :=
  .obj [("exit_code", .int o.exitCode), ("stdout", .str o.stdout), ("stderr", .str o.stderr),
    ("success", .bool o.success)]

/-- A whole number out of JSON. -/
def readCode? : Json → Option Int
  | .int n => some n
  | _ => none

/-- What a command left behind, out of JSON; success is not read. -/
def Output.ofJson? (v : Json) : Option Output := do
  let r ← v.record? ["exit_code", "stdout", "stderr"]
  let code ← r.withDefault "exit_code" readCode? 0
  let out ← r.withDefault "stdout" Json.text? ""
  let err ← r.withDefault "stderr" Json.text? ""
  return ⟨code, out, err⟩

/-- A rule out of a text: a program and its arguments between blanks. -/
def readRule? (text : String) : Option (Program × List String) :=
  match text.splitOn " " with
  | p :: args => (Program.ofName? p).map (·, args)
  | [] => none

/-- A table of rules out of texts; a text that does not start with a program is none. -/
def RuleTable.ofTexts (texts : List String) : RuleTable := ⟨texts.filterMap readRule?⟩

end TunnelMesh.Host
