/-
The exchange of reports through a directory.

A node writes its own report under its own name and reads those of the others.
Hidden files, files of other kinds and files that hold no report are left alone.
-/
import TunnelMesh.Agent.Network
import TunnelMesh.Json.Printer
import TunnelMesh.Json.Reader

namespace TunnelMesh

/-- The files of a directory with their texts, in order of their names. -/
abbrev Directory := Std.ExtTreeMap String String

namespace Network

/-- The name of the node's own report. -/
def reportName (n : Network) : String := n.nodeId.toText ++ ".json"

/-- The name under which the own report is written before it gets its own. -/
def stagingName (n : Network) : String := "." ++ n.reportName ++ ".tmp"

/-- Whether a file counts as the report of another node. -/
def isForeignReport (n : Network) (name : String) : Bool :=
  name != n.reportName && !name.startsWith "." && name.endsWith ".json"

/-- Writes the own report. -/
def publish (n : Network) (dir : Directory) : Directory :=
  (dir.erase n.stagingName).insert n.reportName n.localReport.toJson.pretty

/-- Takes the report in a file, if it holds one; counts those taken. -/
def ingestFile (s : Nat × Network) (file : String × String) : Nat × Network :=
  if s.2.isForeignReport file.1 then
    match (Json.ofText? file.2).bind Report.ofJson? with
    | some r =>
      let (taken, n) := s.2.ingest r
      (if taken then s.1 + 1 else s.1, n)
    | none => s
  else s

/-- Writes the own report and takes those of other nodes; the answer is their number. -/
def exchange (n : Network) (dir : Directory) : Nat × Network × Directory :=
  let dir := n.publish dir
  let (taken, n) := dir.toList.foldl ingestFile (0, n)
  (taken, n, dir)

end Network

end TunnelMesh
