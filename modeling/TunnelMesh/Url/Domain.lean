/-
Domains in ASCII.

A domain is folded, and each of its labels that is not in ASCII then is written in
ASCII under a mark.  A label that has the mark already must be what folding and
writing make of the label that it stands for.
-/
import TunnelMesh.Url.Folding
import TunnelMesh.Url.Punycode

namespace TunnelMesh.Url

/-- Whether a character cannot stand in a domain. -/
def isForbidden (c : Char) : Bool :=
  c.toNat ≤ 32 || c.toNat == 127 ||
    ['%', '#', '/', ':', '<', '>', '?', '@', '[', '\\', ']', '^', '|'].contains c

/-- The start of labels that stand for others. -/
def labelMark : List Char := ['x', 'n', '-', '-']

/-- Whether a character is an accent, which cannot start a label. -/
def isAccent (c : Char) : Bool := Folding.within [(0x300, 0x36F), (0x483, 0x489)] c.toNat

/-- Whether every character of a label is in ASCII. -/
def isPlain (label : List Char) : Bool := label.all fun c => c.toNat < 128

/-- Whether a folded label can stand in a domain. -/
def isLabel (label : List Char) : Bool := !(label.head?.any isAccent)

/-- A folded label in ASCII. -/
def asciiLabel? (label : List Char) : Option (List Char) :=
  if !isPlain label then
    if isLabel label && !labelMark.isPrefixOf label then some (labelMark ++ Punycode.encode label)
    else none
  else if labelMark.isPrefixOf label then do
    let told ← Punycode.decode? (label.drop labelMark.length)
    if !isPlain told && isLabel told && Folding.fold told == some told then some label else none
  else some label

/-- The domain that bytes stand for. -/
def domainOf? (bytes : List UInt8) : Option String := do
  let name ← String.fromUTF8? ⟨bytes.toArray⟩
  let folded ← Folding.fold name.toList
  let labels ← ((String.ofList folded).splitOn ".").mapM fun l => asciiLabel? l.toList
  let domain := ['.'].intercalate labels
  if domain.any isForbidden then none else some (.ofList domain)

end TunnelMesh.Url
