/-
Characters written as percent signs and numbers.

Each part of an address names the ASCII characters that it does not show as
themselves; characters above ASCII are always written byte by byte.
-/
import TunnelMesh.Text.Digits

namespace TunnelMesh.Url

/-- Control characters and the delete character. -/
def isControl (c : Char) : Bool := c.toNat < 32 || c.toNat == 127

/-- What a fragment does not show. -/
def hiddenInFragment (c : Char) : Bool := isControl c || [' ', '"', '<', '>', '\x60'].contains c

/-- What a path does not show. -/
def hiddenInPath (c : Char) : Bool := hiddenInFragment c || ['#', '?', '\x7b', '\x7d'].contains c

/-- What a query does not show. -/
def hiddenInQuery (c : Char) : Bool := isControl c || [' ', '"', '#', '<', '>', '\''].contains c

/-- What names and passwords do not show. -/
def hiddenInCredentials (c : Char) : Bool :=
  hiddenInPath c || ['/', ':', ';', '=', '@', '[', '\\', ']', '^', '|'].contains c

/-- A digit of a written byte, in upper case. -/
def upperDigit (n : Nat) : Char := if n < 10 then Char.ofNat (48 + n) else Char.ofNat (55 + n)

/-- A byte as a percent sign and two digits. -/
def escapeByte (b : UInt8) : List Char :=
  ['%', upperDigit (b.toNat / 16), upperDigit (b.toNat % 16)]

/-- A text in which the characters that are not shown are written byte by byte. -/
def escape (hidden : Char → Bool) (cs : List Char) : String :=
  String.ofList (cs.flatMap fun c =>
    if hidden c || 128 ≤ c.toNat then (String.utf8EncodeChar c).flatMap escapeByte else [c])

/-- The bytes of a text with written bytes put back; a percent sign without two digits is itself. -/
def unescape : List Char → List UInt8
  | [] => []
  | '%' :: a :: b :: rest =>
    match Text.digitValue? 16 a, Text.digitValue? 16 b with
    | some x, some y => UInt8.ofNat (16 * x + y) :: unescape rest
    | _, _ => 37 :: unescape (a :: b :: rest)
  | c :: rest => String.utf8EncodeChar c ++ unescape rest

end TunnelMesh.Url
