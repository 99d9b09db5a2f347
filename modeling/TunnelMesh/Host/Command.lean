/-
Commands that run on the host.

Only a handful of programs may be run, with arguments that hold no character that
ends a line or a text.  A command that exits with another code than zero failed.
-/
import TunnelMesh.Text.Lines
import TunnelMesh.Text.Quoted

namespace TunnelMesh.Host

/-- The programs that may be run. -/
inductive Program where
  | iptables
  | ip6tables
  | ip
  | ping
  | wireguardGo
deriving DecidableEq, Repr

/-- The name of a program. -/
def Program.name : Program → String
  | .iptables => "iptables"
  | .ip6tables => "ip6tables"
  | .ip => "ip"
  | .ping => "ping"
  | .wireguardGo => "wireguard-go"

/-- All programs. -/
def Program.all : List Program := [.iptables, .ip6tables, .ip, .ping, .wireguardGo]

/-- Why a command failed. -/
inductive CommandError where
  /-- An argument holds a character that ends a line or a text. -/
  | invalidArgument (program : Program) (arg : String)
  /-- The command exited with a code other than zero. -/
  | nonZeroExit (command : String) (code : Int) (stderr : String)
  /-- The operating system could not run it. -/
  | io (message : String)
deriving DecidableEq

/-- The wording of an error. -/
def CommandError.message : CommandError → String
  | .invalidArgument p a => "invalid argument " ++ Text.Quoted.text a ++ " for " ++ p.name
  | .nonZeroExit c n e => s!"'{c}' exited with code {n}: {e}"
  | .io m => "I/O error: " ++ m

/-- The name of an error's kind. -/
def CommandError.kind : CommandError → String
  | .invalidArgument .. => "InvalidArgument"
  | .nonZeroExit .. => "NonZeroExit"
  | .io _ => "Io"

/-- A program with its arguments. -/
structure Command where
  program : Program
  args : List String
deriving DecidableEq

namespace Command

/-- Whether an argument must not hold a character. -/
def isForbidden (c : Char) : Bool := c == '\x00' || c == '\n' || c == '\r'

/-- A command, unless an argument is refused; the first such argument counts. -/
def mk? (program : Program) (args : List String) : Except CommandError Command :=
  match args.find? fun a => a.toList.any isForbidden with
  | some a => .error (.invalidArgument program a)
  | none => .ok ⟨program, args⟩

/-- Program and arguments with blanks between them. -/
def toText (c : Command) : String := " ".intercalate (c.program.name :: c.args)

end Command

/-- What a command left. -/
structure Output where
  exitCode : Int
  stdout : String
  stderr : String
deriving DecidableEq

namespace Output

/-- A success with no text. -/
def ok : Output := ⟨0, "", ""⟩

/-- A failure with a text on the error channel. -/
def failed (code : Int) (stderr : String) : Output := ⟨code, "", stderr⟩

/-- Whether the command succeeded. -/
def success (o : Output) : Bool := o.exitCode == 0

/-- The output of a command that succeeded, or its failure. -/
def check (o : Output) (c : Command) : Except CommandError Output :=
  if o.success then .ok o else .error (.nonZeroExit c.toText o.exitCode (Text.trim o.stderr))

end Output

/-- A host that runs commands and changes by it. -/
class Runner (ρ : Type) where
  run : ρ → Command → Except CommandError Output × ρ

/-- Builds a command, runs it and checks its exit code. -/
def runChecked {ρ : Type} [Runner ρ] (host : ρ) (program : Program) (args : List String) :
    Except CommandError Unit × ρ :=
  match Command.mk? program args with
  | .error e => (.error e, host)
  | .ok c =>
    match Runner.run host c with
    | (.error e, host) => (.error e, host)
    | (.ok o, host) => ((o.check c).map fun _ => (), host)

/-- A host without programs. -/
inductive Bare where
  | mk
deriving DecidableEq

instance : Runner Bare where
  run h c := (.error (.io (c.program.name ++ ": no such program")), h)

end TunnelMesh.Host
