/-
Writing documents of the TOML format.

Plain entries of a table come first, then its tables under headers of their own,
with an empty line before each header that does not start the document.  Strings
with quotes or backslashes are written literally where that is possible, strings
with line feeds over several lines.
-/
import TunnelMesh.Decimal.Shortest
import TunnelMesh.Toml.Basic

namespace TunnelMesh.Toml

/-- Floating point numbers: always positional, whole ones end in `.0`. -/
def floatForm : Decimal.FloatForm := ⟨true, none, none, "nan", "inf"⟩

/-- A character inside double quotes; line feeds stay in strings over several lines. -/
def escape (long : Bool) (c : Char) : List Char :=
  if c = '\x08' then ['\\', 'b']
  else if c = '\t' then ['\\', 't']
  else if c = '\n' then (if long then ['\n'] else ['\\', 'n'])
  else if c = '\x0c' then ['\\', 'f']
  else if c = '\r' then ['\\', 'r']
  else if c = '"' ∨ c = '\\' then ['\\', c]
  else if c.toNat < 32 ∨ c.toNat = 127 then
    let digit (n : Nat) : Char := if n < 10 then Char.ofNat (48 + n) else Char.ofNat (55 + n)
    ['\\', 'u', '0', '0', digit (c.toNat / 16), digit (c.toNat % 16)]
  else [c]

/-- The length of the longest run of single quotes; `run` is the length of the one being read. -/
def longestRun (run best : Nat) : List Char → Nat
  | [] => Nat.max run best
  | c :: rest =>
    if c = '\'' then longestRun (run + 1) best rest else longestRun 0 (Nat.max run best) rest

/-- Whether a string is better written literally, and can be. -/
def prefersLiteral (cs : List Char) : Bool :=
  cs.any (fun c => c == '"' || c == '\\') &&
    cs.all (fun c => c == '\t' || c == '\n' || (32 ≤ c.toNat && c.toNat != 127)) &&
    longestRun 0 0 cs < 3 && cs.getLast? != some '\''

/-- The text of a string. -/
def strText (s : String) : String :=
  let cs := s.toList
  let long := cs.contains '\n'
  if prefersLiteral cs then
    let quote := if long then "'''" else if cs.contains '\'' then "'''" else "'"
    quote ++ (if long then "\n" else "") ++ s ++ quote
  else
    let quote := if long then "\"\"\"" else "\""
    quote ++ (if long then "\n" else "") ++ String.ofList (cs.flatMap (escape long)) ++ quote

/-- The text of a key: bare where that is possible. -/
def keyText (k : String) : String :=
  if !k.isEmpty && k.toList.all (fun c => c.isAlphanum || c == '-' || c == '_') then k else strText k

mutual

/-- The text of a value on one line. -/
def valueText : Toml → String
  | str s => strText s
  | int n => toString n
  | float x => floatForm.text x
  | bool b => if b then "true" else "false"
  | time t => t
  | arr items => "[" ++ itemsText true items ++ "]"
  | table entries => "\x7b " ++ entriesText true entries ++ " \x7d"

/-- Items with commas between them. -/
def itemsText (first : Bool) : List Toml → String
  | [] => ""
  | v :: rest => (if first then "" else ", ") ++ valueText v ++ itemsText false rest

/-- Entries with commas between them. -/
def entriesText (first : Bool) : List (String × Toml) → String
  | [] => ""
  | (k, v) :: rest =>
    (if first then "" else ", ") ++ keyText k ++ " = " ++ valueText v ++ entriesText false rest

end

/-- The lines of a table's plain entries. -/
def settings (entries : List (String × Toml)) : String :=
  String.join (entries.map fun (k, v) => keyText k ++ " = " ++ valueText v ++ "\n")

/-- A section: its name and its plain entries. -/
structure Section where
  name : String
  entries : List (String × Toml)

/-- The text of sections. -/
def sectionsText (sections : List Section) : String :=
  "\n".intercalate (sections.map fun s => "[" ++ keyText s.name ++ "]\n" ++ settings s.entries)

/-- The document that sections stand for. -/
def ofSections (sections : List Section) : Toml :=
  table (sections.map fun s => (s.name, table s.entries))

end TunnelMesh.Toml
