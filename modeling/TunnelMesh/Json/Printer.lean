/-
The text of a JSON value: on one line, or over lines with two blanks of
indentation a level.
-/
import TunnelMesh.Json.Basic

namespace TunnelMesh.Json

/-- Floating point numbers: whole ones end in `.0`, exponents from 10¹⁶ and below 10⁻⁵, and null
for what is not finite. -/
def floatForm : Decimal.FloatForm := ⟨true, some (-5), some 16, "null", "null"⟩

/-- The text of a floating point number. -/
def floatText (x : Float) : String :=
  if x.isFinite then floatForm.text x else "null"

/-- A character inside a string. -/
def escape (c : Char) : List Char :=
  if c = '"' ∨ c = '\\' then ['\\', c]
  else if c = '\n' then ['\\', 'n']
  else if c = '\r' then ['\\', 'r']
  else if c = '\t' then ['\\', 't']
  else if c = '\x08' then ['\\', 'b']
  else if c = '\x0c' then ['\\', 'f']
  else if c.toNat < 32 then
    ['\\', 'u', '0', '0', Nat.digitChar (c.toNat / 16), Nat.digitChar (c.toNat % 16)]
  else [c]

/-- A string in quotes. -/
def quote (s : String) : String :=
  String.ofList ('"' :: s.toList.flatMap escape ++ ['"'])

mutual

/-- The text of a value; `floats` writes the numbers that are not whole. With `pretty`, members
stand on lines of their own, `indent` deep. -/
def write (floats : Float → String) (pretty : Bool) (indent : String) : Json → String
  | null => "null"
  | bool b => if b then "true" else "false"
  | int n => toString n
  | float x => floats x
  | str s => quote s
  | arr [] => "[]"
  | arr items =>
    let inner := indent ++ "  "
    "[" ++ writeItems floats pretty inner true items ++
      (if pretty then "\n" ++ indent else "") ++ "]"
  | obj [] => "\x7b\x7d"
  | obj members =>
    let inner := indent ++ "  "
    "\x7b" ++ writeMembers floats pretty inner true members ++
      (if pretty then "\n" ++ indent else "") ++ "\x7d"
  | brokenText => "null"
  | hugeNumber => "null"

/-- The items of an array, each after a comma unless it is the first. -/
def writeItems (floats : Float → String) (pretty : Bool) (indent : String) (first : Bool) :
    List Json → String
  | [] => ""
  | item :: rest =>
    (if first then "" else ",") ++ (if pretty then "\n" ++ indent else "") ++
      write floats pretty indent item ++ writeItems floats pretty indent false rest

/-- The members of an object, each after a comma unless it is the first. -/
def writeMembers (floats : Float → String) (pretty : Bool) (indent : String) (first : Bool) :
    List (String × Json) → String
  | [] => ""
  | (name, value) :: rest =>
    (if first then "" else ",") ++ (if pretty then "\n" ++ indent else "") ++ quote name ++
      (if pretty then ": " else ":") ++ write floats pretty indent value ++
      writeMembers floats pretty indent false rest

end

/-- The text over several lines. -/
def pretty (v : Json) : String := write floatText true "" v

end TunnelMesh.Json
