/-
The program: it reads its command line, performs what that asks for and exits.

Programs and sockets of the host are not used from here, so starting an agent ends
with the fault that it meets first.
-/
import Std.Time.DateTime.Timestamp
import TunnelMesh.Cli.Perform

namespace TunnelMesh.Cli

/-- What an action gives, if it does not fail. -/
def attempt {α : Type} (act : IO α) : IO (Option α) := do
  try return some (← act) catch _ => return none

/-- The directory above a path. -/
def parent (path : String) : String :=
  "/".intercalate (path.splitOn "/").dropLast

instance : Terminal IO where
  readFile path := attempt (IO.FS.readFile path)
  occupied path := do return (← attempt (IO.FS.Handle.mk path .read)).isSome
  writeFile path text := do
    let written ← attempt do
      unless (parent path).isEmpty do IO.FS.createDirAll (parent path)
      IO.FS.writeFile path text
    return written.isSome
  openDirectory _ := return none
  now := do
    let t ← Std.Time.Timestamp.now
    return ⟨t.val.second.val, t.val.nano.val.toNat⟩
  newKey := do
    let bytes ← IO.getRandomBytes 32
    match Key.Bytes.ofList bytes.toList with
    | .ok b => return ⟨b⟩
    | .error _ => throw (.userError "no random bytes")

end TunnelMesh.Cli

open TunnelMesh.Cli in
/-- Reads the command line and performs what it asks for. -/
def main (args : List String) : IO UInt32 := do
  let set ← ["WIREMESH_CONFIG"].mapM fun name => do return (name, ← IO.getEnv name)
  let env : Environment := fun name => (set.find? fun x => x.1 == name).bind (·.2)
  let outcome ← (Action.ofArgs env args).fulfil
  IO.print outcome.output
  IO.eprint outcome.complaint
  return outcome.code.toUInt32
