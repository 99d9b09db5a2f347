/-
Lines of a text, and the blanks around a part of it.

A line ends at a line feed; one carriage return right before it belongs to the
ending.  The last line needs no ending, and a text that ends in a line feed has
no empty line after it.  A character is blank when it has the Unicode property
White_Space: 25 code points, not the six of ASCII.
-/

namespace TunnelMesh.Text

/-- A line without one carriage return at its end. -/
def dropReturn (line : List Char) : List Char :=
  match line.reverse with
  | '\r' :: rest => rest.reverse
  | _ => line

/-- The lines of `s`; `cur` holds the open line, last character first. -/
def linesFrom (cur : List Char) : List Char → List String
  | [] => if cur.isEmpty then [] else [String.ofList cur.reverse]
  | '\n' :: rest => String.ofList (dropReturn cur.reverse) :: linesFrom [] rest
  | c :: rest => linesFrom (c :: cur) rest

/-- The lines of a text, without their endings. -/
def lines (s : String) : List String :=
  linesFrom [] s.toList

/-- Splits at the first character that satisfies `p`, which is in neither part. -/
def splitFirst (p : Char → Bool) : List Char → Option (List Char × List Char)
  | [] => none
  | c :: rest =>
    if p c then some ([], rest) else (splitFirst p rest).map fun (a, b) => (c :: a, b)

/-- Splits a text at the first `sep`. -/
def splitOnce (sep : Char) (s : String) : Option (String × String) :=
  (splitFirst (· == sep) s.toList).map fun (a, b) => (String.ofList a, String.ofList b)

/-- The property White_Space of Unicode. -/
def isBlank (c : Char) : Bool :=
  let n := c.toNat
  (0x09 ≤ n && n ≤ 0x0D) || n == 0x20 || n == 0x85 || n == 0xA0 || n == 0x1680 ||
  (0x2000 ≤ n && n ≤ 0x200A) || n == 0x2028 || n == 0x2029 || n == 0x202F ||
  n == 0x205F || n == 0x3000

/-- Drops the elements that satisfy `p` from both ends of a list. -/
def dropBoth {α : Type} (p : α → Bool) (xs : List α) : List α :=
  (((xs.dropWhile p).reverse).dropWhile p).reverse

/-- A text without the blanks at its ends. -/
def trim (s : String) : String :=
  String.ofList (dropBoth isBlank s.toList)

end TunnelMesh.Text
