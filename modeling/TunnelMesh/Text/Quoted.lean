/-
Quoted texts and characters, as messages show them.

Backslash, the enclosing quote and the usual controls have two-character
escapes; every other hidden character is written `\u` with its number in
hexadecimal between braces.
-/
import TunnelMesh.Text.Hex
import TunnelMesh.Text.Visible

namespace TunnelMesh.Text.Quoted

/-- Hexadecimal digits of a number, at least one, no leading zero. -/
def hexDigits (n : Nat) : List Char :=
  Nat.toDigits 16 n

/-- A character inside quotes `quote`. -/
def escape (quote c : Char) : List Char :=
  if c = '\x00' then ['\\', '0']
  else if c = '\t' then ['\\', 't']
  else if c = '\r' then ['\\', 'r']
  else if c = '\n' then ['\\', 'n']
  else if c = '\\' ∨ c = quote then ['\\', c]
  else if isVisible c then [c]
  else ['\\', 'u', '\x7b'] ++ hexDigits c.toNat ++ ['\x7d']

/-- A text in double quotes. -/
def text (s : String) : String :=
  String.ofList ('"' :: s.toList.flatMap (escape '"') ++ ['"'])

/-- A character in single quotes. -/
def char (c : Char) : String :=
  String.ofList ('\'' :: escape '\'' c ++ ['\''])

end TunnelMesh.Text.Quoted

namespace TunnelMesh.Text.Hex

/-- The wording of a fault; the byte shows as the character of its number. -/
def Error.message : Error → String
  | .oddLength => "Odd number of digits"
  | .badDigit b i => s!"Invalid character {Quoted.char (Char.ofNat b.toNat)} at position {i}"

end TunnelMesh.Text.Hex
