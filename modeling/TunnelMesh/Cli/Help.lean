/-
The help of a program and of its commands.

Names stand in a column as wide as the widest of them, and their descriptions two
blanks to the right.
-/
import TunnelMesh.Cli.Grammar

namespace TunnelMesh.Cli

/-- The values of environment variables. -/
abbrev Environment := String → Option String

/-- A row of a table: a name and what it is about. -/
abbrev Row := String × String

/-- A table under a title, with its descriptions in one column. -/
def table (title : String) (rows : List Row) : String :=
  let width := rows.foldl (fun w r => Nat.max w r.1.length) 0
  let line (r : Row) :=
    "  " ++ r.1 ++ "".pushn ' ' (width - r.1.length) ++ "  " ++ r.2
  "\n".intercalate ((title ++ ":") :: rows.map line)

namespace OptionForm

/-- How an option is written: short name, long name and value. -/
def usage (o : OptionForm) : String :=
  (match o.short with
    | some c => "-" ++ c.toString ++ ", "
    | none => "    ") ++
  "--" ++ o.long ++
  (match o.value with
    | some v => " <" ++ v.name ++ ">"
    | none => "")

/-- What an option is for, and what its value is where it is not given. -/
def about (env : Environment) (o : OptionForm) : String :=
  let stand := o.envName.map fun x => "[env: " ++ x ++ "=" ++ (env x).getD "" ++ "]"
  let default := (o.value.bind (·.default?)).map fun d => "[default: " ++ d ++ "]"
  " ".intercalate (o.help :: stand.toList ++ default.toList)

/-- The row of an option. -/
def row (env : Environment) (o : OptionForm) : Row := (o.usage, o.about env)

end OptionForm

/-- The row of the option that shows help. -/
def helpRow : Row := ("-h, --help", "Print help")

/-- The row of the option that shows the version. -/
def versionRow : Row := ("-V, --version", "Print version")

/-- What the command that shows help is about. -/
def helpAbout : String := "Print this message or the help of the given subcommand(s)"

namespace ProgramForm

/-- A help text from its parts. -/
def page (about usage : String) (tables : List String) : String :=
  "\n\n".intercalate (about :: ("Usage: " ++ usage) :: tables) ++ "\n"

/-- The help on a topic. -/
def help (p : ProgramForm) (env : Environment) : Topic → String
  | .program =>
    page p.about (p.name ++ " [OPTIONS] <COMMAND>")
      [table "Commands" (p.commands.map (fun c => (c.name, c.about)) ++ [("help", helpAbout)]),
        table "Options" (p.options.map (OptionForm.row env) ++ [helpRow, versionRow])]
  | .command c =>
    page c.about (p.name ++ " " ++ c.name ++ " [OPTIONS]")
      [table "Options" (c.options.map (OptionForm.row env) ++ [helpRow])]
  | .help =>
    page helpAbout (p.name ++ " help [COMMAND]...")
      [table "Arguments" [("[COMMAND]...", "Print help for the subcommand(s)")]]

/-- The version of a program. -/
def versionText (p : ProgramForm) : String := p.name ++ " " ++ p.version ++ "\n"

end ProgramForm

end TunnelMesh.Cli
