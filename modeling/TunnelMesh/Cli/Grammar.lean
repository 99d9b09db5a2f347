/-
The grammar of command lines.

A program takes options, then the name of a command, then options of the command.
Reading a line either finds a command with its values, or stops: at the first
option that asks for help or for the version, or at the first fault.
-/
import TunnelMesh.Text.Digits

namespace TunnelMesh.Cli

/-- The value that an option takes. -/
structure ValueForm where
  /-- What stands for the value in the help. -/
  name : String
  /-- The value where none is given. -/
  default? : Option String := none
deriving DecidableEq

/-- An option; without a form of value it is a flag. -/
structure OptionForm where
  short : Option Char := none
  long : String
  help : String
  value : Option ValueForm := none
  /-- The environment variable that stands in for the option. -/
  envName : Option String := none
deriving DecidableEq

/-- A command with its options in the order of its help. -/
structure CommandForm where
  name : String
  about : String
  options : List OptionForm
deriving DecidableEq

/-- A program with its commands. -/
structure ProgramForm where
  name : String
  version : String
  about : String
  options : List OptionForm
  commands : List CommandForm
deriving DecidableEq

/-- Why reading a command line stops early. -/
inductive Halt where
  | help
  | version
  | misuse
deriving DecidableEq, Repr

/-- One argument, by its shape. -/
inductive Argument where
  /-- Two hyphens alone: no options follow. -/
  | escape
  /-- Two hyphens and a name, with the text after the first equals sign. -/
  | long (name : String) (value : Option String)
  /-- One hyphen and short names. -/
  | cluster (names : List Char)
  | word (text : String)
deriving DecidableEq

/-- The shape of an argument; a hyphen alone is a word. -/
def Argument.ofText (s : String) : Argument :=
  match s.toList with
  | ['-', '-'] => .escape
  | '-' :: '-' :: cs =>
    match cs.dropWhile (· != '=') with
    | [] => .long (.ofList cs) none
    | _ :: value => .long (.ofList (cs.takeWhile (· != '='))) (some (.ofList value))
  | '-' :: c :: cs => .cluster (c :: cs)
  | _ => .word s

/-- Options that were given, by their long names, with their values. -/
abbrev Given := List (String × Option String)

namespace Given

/-- Whether an option was given. -/
def has (g : Given) (long : String) : Bool := g.any fun x => x.1 == long

/-- The value that was given to an option. -/
def value? (g : Given) (long : String) : Option String :=
  (g.find? fun x => x.1 == long).bind (·.2)

/-- Adds an option; none may be given twice. -/
def put (g : Given) (o : OptionForm) (value : Option String) : Except Halt Given :=
  if g.has o.long then .error .misuse else .ok (g ++ [(o.long, value)])

/-- Adds an option with its value, which must not be empty. -/
def putValue (g : Given) (o : OptionForm) (value : String) : Except Halt Given :=
  if value.isEmpty then .error .misuse else g.put o (some value)

end Given

/-- What is read by, and what is still to be read of, the argument at hand. -/
structure Progress where
  given : Given
  /-- The option that takes the next argument as its value. -/
  pending : Option OptionForm := none

/-- Reads an option by its long name. -/
def readLong (options : List OptionForm) (versioned : Bool) (g : Given) (name : String)
    (value : Option String) : Except Halt Progress :=
  match options.find? fun o => o.long == name with
  | some o =>
    match o.value, value with
    | none, none => (g.put o none).map fun g => { given := g }
    | none, some _ => .error .misuse
    | some _, none => .ok { given := g, pending := some o }
    | some _, some v => (g.putValue o v).map fun g => { given := g }
  | none =>
    if value.isSome then .error .misuse
    else if name == "help" then .error .help
    else if versioned && name == "version" then .error .version
    else .error .misuse

/-- Reads short names; the rest of the cluster is the value of an option that takes one. -/
def readCluster (options : List OptionForm) (versioned : Bool) (g : Given) :
    List Char → Except Halt Progress
  | [] => .ok { given := g }
  | c :: rest =>
    match options.find? fun o => o.short == some c with
    | some o =>
      if o.value.isNone then
        match g.put o none with
        | .error h => .error h
        | .ok g => readCluster options versioned g rest
      else
        match rest with
        | [] => .ok { given := g, pending := some o }
        | '=' :: v => (g.putValue o (.ofList v)).map fun g => { given := g }
        | v => (g.putValue o (.ofList v)).map fun g => { given := g }
    | none =>
      if c == 'h' then .error .help
      else if versioned && c == 'V' then .error .version
      else .error .misuse

/-- Reads options up to the first word, which is left with what follows it. -/
def readOptions (options : List OptionForm) (versioned : Bool) :
    Progress → List String → Except Halt (Given × List String)
  | p, [] => if p.pending.isSome then .error .misuse else .ok (p.given, [])
  | p, a :: rest =>
    match p.pending, Argument.ofText a with
    | some o, .word v =>
      match p.given.putValue o v with
      | .error h => .error h
      | .ok g => readOptions options versioned { given := g } rest
    | some _, _ => .error .misuse
    | none, .word _ => .ok (p.given, a :: rest)
    | none, .escape => if rest.isEmpty then .ok (p.given, []) else .error .misuse
    | none, .long name value =>
      match readLong options versioned p.given name value with
      | .error h => .error h
      | .ok p => readOptions options versioned p rest
    | none, .cluster cs =>
      match readCluster options versioned p.given cs with
      | .error h => .error h
      | .ok p => readOptions options versioned p rest

/-- What the help of a program can be about. -/
inductive Topic where
  | program
  | command (c : CommandForm)
  /-- The command that shows help. -/
  | help
deriving DecidableEq

/-- What a command line asks for. -/
inductive Reading where
  | perform (c : CommandForm) (given : Given)
  | explain (topic : Topic)
  | version
  | misuse
deriving DecidableEq

namespace ProgramForm

/-- The command of a name. -/
def command? (p : ProgramForm) (name : String) : Option CommandForm :=
  p.commands.find? fun c => c.name == name

/-- What the words after `help` ask for: no command has commands of its own. -/
def readHelp (p : ProgramForm) : List String → Reading
  | [] => .explain .program
  | [name] =>
    if name == "help" then .explain .help
    else
      match p.command? name with
      | some c => .explain (.command c)
      | none => .misuse
  | _ => .misuse

/-- What stopping early amounts to, while reading for a topic. -/
def halted (topic : Topic) : Halt → Reading
  | .help => .explain topic
  | .version => .version
  | .misuse => .misuse

/-- Reads the options of a command, and nothing else. -/
def readCommand (c : CommandForm) (outer : Given) (args : List String) : Reading :=
  match readOptions c.options false { given := [] } args with
  | .error h => halted (.command c) h
  | .ok (given, []) => .perform c (given ++ outer)
  | .ok (_, _ :: _) => .misuse

/-- Reads a command line. -/
def read (p : ProgramForm) (args : List String) : Reading :=
  match readOptions p.options true { given := [] } args with
  | .error h => halted .program h
  | .ok (_, []) => .misuse
  | .ok (outer, name :: rest) =>
    if name == "help" then p.readHelp rest
    else
      match p.command? name with
      | some c => readCommand c outer rest
      | none => .misuse

end ProgramForm

end TunnelMesh.Cli
