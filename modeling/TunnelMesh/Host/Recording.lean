/-
A host that records commands and answers them from a script.

A rule table, if there is one, answers everything.  Otherwise a program may have a
fixed answer; then answers are taken from a queue, and when that is empty every
command succeeds.
-/
import TunnelMesh.Host.Command

namespace TunnelMesh.Host

/-- The packet filter rules of a host, each with the program it was given to. -/
structure RuleTable where
  /-- The rules in order. -/
  rules : List (Program × List String)
deriving DecidableEq

/-- What the table answers: `-C` looks a rule up, `-A` appends one, `-D` removes one. -/
def RuleTable.answer (t : RuleTable) (c : Command) : Output × RuleTable :=
  match c.args with
  | "-C" :: rule =>
    if t.rules.contains (c.program, rule) then (.ok, t)
    else (.failed 1 "Bad rule (does a matching rule exist?)", t)
  | "-A" :: rule => (.ok, ⟨t.rules ++ [(c.program, rule)]⟩)
  | "-D" :: rule =>
    if t.rules.contains (c.program, rule) then (.ok, ⟨t.rules.erase (c.program, rule)⟩)
    else (.failed 1 "No such rule", t)
  | _ => (.failed 1 "No such rule", t)

instance : Runner RuleTable where
  run t c := let (o, t) := t.answer c; (.ok o, t)

/-- A host that records commands. -/
structure Recording where
  table : Option RuleTable := none
  /-- Fixed answers of programs, oldest first. -/
  fixed : List (Program × Output) := []
  /-- Answers to be given once, in order. -/
  queue : List Output := []
  /-- The commands run, oldest first. -/
  log : List Command := []

namespace Recording

/-- Adds an answer to be given once, after those before. -/
def push (h : Recording) (o : Output) : Recording := { h with queue := h.queue ++ [o] }

/-- The answer from the script without a table. -/
def fromScript (h : Recording) (c : Command) : Output × Recording :=
  match h.fixed.find? fun f => f.1 == c.program with
  | some (_, o) => (o, h)
  | none =>
    match h.queue with
    | o :: rest => (o, { h with queue := rest })
    | [] => (.ok, h)

/-- Records a command and answers it. -/
def run (h : Recording) (c : Command) : Output × Recording :=
  let h := { h with log := h.log ++ [c] }
  match h.table with
  | some t =>
    let (o, t) := t.answer c
    (o, { h with table := some t })
  | none => h.fromScript c

instance : Runner Recording where
  run h c := let (o, h) := h.run c; (.ok o, h)

/-- The commands run, as texts. -/
def lines (h : Recording) : List String := h.log.map Command.toText

end Recording

end TunnelMesh.Host
