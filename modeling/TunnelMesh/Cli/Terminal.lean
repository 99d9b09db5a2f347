/-
What the commands of the program need from their surroundings: files, the time and
chance.

`Files` is a file system in memory.  Paths lead from the working directory or from
the root, and a directory is there as soon as something lies in it.
-/
import TunnelMesh.Agent.Exchange
import TunnelMesh.Key.Basic

namespace TunnelMesh.Cli

/-- The surroundings of a command. -/
class Terminal (m : Type → Type) where
  /-- The text of a file. -/
  readFile : String → m (Option String)
  /-- Whether there is a file or a directory at a path. -/
  occupied : String → m Bool
  /-- Writes a file in a directory that is made first; says whether that succeeded. -/
  writeFile : String → String → m Bool
  /-- The files of a directory that is made first. -/
  openDirectory : String → m (Option Directory)
  now : m Instant
  newKey : m PrivateKey

/-- A path as the names of its steps from the root. -/
abbrev Path := List String

/-- Follows the steps of a path; `..` leads back. -/
def Path.follow : Path → List String → Path
  | base, [] => base
  | base, step :: rest =>
    if step.isEmpty || step == "." then Path.follow base rest
    else if step == ".." then Path.follow base.dropLast rest
    else Path.follow (base ++ [step]) rest

/-- A file system in memory. -/
structure Files where
  /-- The working directory. -/
  directory : Path
  files : List (Path × String)

namespace Files

/-- The place that a path leads to. -/
def resolve (s : Files) (path : String) : Path :=
  Path.follow (if path.startsWith "/" then [] else s.directory) (path.splitOn "/")

/-- The text of a file. -/
def text? (s : Files) (p : Path) : Option String :=
  (s.files.find? fun f => f.1 == p).map (·.2)

/-- Whether a place is a directory. -/
def isDirectory (s : Files) (p : Path) : Bool :=
  p.isPrefixOf s.directory || s.files.any fun f => p.isPrefixOf f.1 && f.1 != p

/-- Whether a step towards a place is blocked by a file. -/
def isBlocked (s : Files) (p : Path) : Bool :=
  s.files.any fun f => f.1.isPrefixOf p && f.1 != p

/-- Puts a file in place of what was there. -/
def put (s : Files) (p : Path) (text : String) : Files :=
  { s with files := (s.files.filter fun f => f.1 != p) ++ [(p, text)] }

/-- Writes a file, unless a directory is there or a file is in the way. -/
def write (s : Files) (p : Path) (text : String) : Bool × Files :=
  if s.isDirectory p || s.isBlocked p then (false, s) else (true, s.put p text)

/-- The files that lie in a directory. -/
def entries (s : Files) (p : Path) : Directory :=
  .ofList (s.files.filterMap fun f =>
    if f.1.dropLast == p then f.1.getLast?.map fun name => (name, f.2) else none)

end Files

/-- The surroundings of a command in memory. -/
structure Surroundings where
  files : Files
  now : Instant
  /-- The key that is made next. -/
  key : PrivateKey

instance : Terminal (StateM Surroundings) where
  readFile path := do
    let s ← get
    return s.files.text? (s.files.resolve path)
  occupied path := do
    let s ← get
    let p := s.files.resolve path
    return (s.files.text? p).isSome || s.files.isDirectory p
  writeFile path text := modifyGet fun s =>
    let (done, files) := s.files.write (s.files.resolve path) text
    (done, { s with files })
  openDirectory path := do
    let s ← get
    let p := s.files.resolve path
    if (s.files.text? p).isSome || s.files.isBlocked p then return none
    return some (s.files.entries p)
  now := do return (← get).now
  newKey := do return (← get).key

end TunnelMesh.Cli
