/-
Reading JSON text.

The reader takes one value with blanks around it and nothing else.  It is strict:
no comments, no trailing commas, no leading zeros, no control characters in
strings.  Numbers go through a 64-bit significand.
-/
import TunnelMesh.Decimal.Scaled
import TunnelMesh.Json.Basic
import TunnelMesh.Text.Digits

namespace TunnelMesh.Json

/-- The four blanks of the format. -/
def isSpace (c : Char) : Bool := c == ' ' || c == '\n' || c == '\t' || c == '\r'

/-- Skips blanks. -/
def skipSpace (cs : List Char) : List Char := cs.dropWhile isSpace

/-- Reads four hexadecimal digits. -/
def readUnit : List Char → Option (Nat × List Char)
  | a :: b :: c :: d :: rest => do
    let a ← Text.digitValue? 16 a
    let b ← Text.digitValue? 16 b
    let c ← Text.digitValue? 16 c
    let d ← Text.digitValue? 16 d
    return (((a * 16 + b) * 16 + c) * 16 + d, rest)
  | _ => none

/-- What a backslash and one more character stand for. -/
def simpleEscape? : Char → Option Char
  | '"' => some '"'
  | '\\' => some '\\'
  | '/' => some '/'
  | 'b' => some '\x08'
  | 'f' => some '\x0c'
  | 'n' => some '\n'
  | 'r' => some '\r'
  | 't' => some '\t'
  | _ => none

/-- The second half of a surrogate pair, written as an escape. -/
def readLowHalf : List Char → Option (Nat × List Char)
  | '\\' :: 'u' :: rest =>
    match readUnit rest with
    | some (n, rest) => if 0xDC00 ≤ n ∧ n < 0xE000 then some (n, rest) else none
    | none => none
  | _ => none

/-- Reads the rest of a string after its opening quote; `acc` holds the characters so far, last
first, and `broken` tells that half a surrogate pair was met. -/
def readString (acc : List Char) (broken : Bool) : Nat → List Char → Option (Json × List Char)
  | 0, _ => none
  | _ + 1, [] => none
  | fuel + 1, c :: rest =>
    if c = '"' then
      some (if broken then brokenText else str (String.ofList acc.reverse), rest)
    else if c = '\\' then
      match rest with
      | 'u' :: rest =>
        match readUnit rest with
        | none => none
        | some (n, rest) =>
          if 0xD800 ≤ n ∧ n < 0xDC00 then
            match readLowHalf rest with
            | some (m, rest) =>
              let c := Char.ofNat (0x10000 + (n - 0xD800) * 1024 + (m - 0xDC00))
              readString (c :: acc) broken fuel rest
            | none => readString acc true fuel rest
          else if 0xDC00 ≤ n ∧ n < 0xE000 then readString acc true fuel rest
          else readString (Char.ofNat n :: acc) broken fuel rest
      | e :: rest =>
        match simpleEscape? e with
        | some c => readString (c :: acc) broken fuel rest
        | none => none
      | [] => none
    else if c.toNat < 32 then none
    else readString (c :: acc) broken fuel rest

/-- Reads an optional exponent; none inside means that the text has no exponent. -/
def readExponent : List Char → Option (Option Int × List Char)
  | c :: rest =>
    if c = 'e' ∨ c = 'E' then
      let (negative, rest) := match rest with
        | '+' :: rest => (false, rest)
        | '-' :: rest => (true, rest)
        | _ => (false, rest)
      let (digits, rest) := Text.takeDigits 10 rest
      if digits.isEmpty then none
      else
        let n : Int := Text.ofDigits 10 digits
        some (some (if negative then -n else n), rest)
    else some (none, c :: rest)
  | [] => some (none, [])

/-- Reads an optional point and the digits after it. -/
def readPlaces : List Char → Option (Option (List Nat) × List Char)
  | '.' :: rest =>
    let (digits, rest) := Text.takeDigits 10 rest
    if digits.isEmpty then none else some (some digits, rest)
  | cs => some (none, cs)

/-- The value of a number from its written parts. -/
def ofNumber (negative : Bool) (whole : List Nat) (places : Option (List Nat))
    (exponent : Option Int) : Json :=
  let n := Text.ofDigits 10 whole
  let exact := places.isNone && exponent.isNone
  if exact && !negative && n < Nat.pow 2 64 then int n
  else if exact && negative && 0 < n && n ≤ Nat.pow 2 63 then int (-(n : Int))
  else
    let s := Decimal.Scaled.ofDigits whole (places.getD [])
    match s.toFloat? (s.exponent + exponent.getD 0) with
    | some x => float (if negative then -x else x)
    | none => hugeNumber

/-- Reads a number. -/
def readNumber (cs : List Char) : Option (Json × List Char) := do
  let (negative, cs) := match cs with
    | '-' :: rest => (true, rest)
    | cs => (false, cs)
  let (whole, cs) := Text.takeDigits 10 cs
  if whole.isEmpty || (whole.head? == some 0 && 1 < whole.length) then none
  else
    let (places, cs) ← readPlaces cs
    let (exponent, cs) ← readExponent cs
    return (ofNumber negative whole places exponent, cs)

/-- Drops a fixed word at the start of a text. -/
def dropWord (word : List Char) (cs : List Char) : Option (List Char) :=
  if word.isPrefixOf cs then some (cs.drop word.length) else none

mutual

/-- Reads a value that starts at the first character. -/
def readValue : Nat → List Char → Option (Json × List Char)
  | 0, _ => none
  | _ + 1, [] => none
  | fuel + 1, c :: rest =>
    if c = '\x7b' then
      match skipSpace rest with
      | '\x7d' :: rest => some (obj [], rest)
      | rest => readMembers [] false fuel rest
    else if c = '[' then
      match skipSpace rest with
      | ']' :: rest => some (arr [], rest)
      | rest => readItems [] fuel rest
    else if c = '"' then readString [] false (rest.length + 1) rest
    else if c = 't' then (dropWord ['r', 'u', 'e'] rest).map (bool true, ·)
    else if c = 'f' then (dropWord ['a', 'l', 's', 'e'] rest).map (bool false, ·)
    else if c = 'n' then (dropWord ['u', 'l', 'l'] rest).map (null, ·)
    else readNumber (c :: rest)

/-- Reads the items of an array from the first character of an item on. -/
def readItems (acc : List Json) : Nat → List Char → Option (Json × List Char)
  | 0, _ => none
  | fuel + 1, cs =>
    match readValue fuel cs with
    | none => none
    | some (v, rest) =>
      match skipSpace rest with
      | ',' :: rest => readItems (v :: acc) fuel (skipSpace rest)
      | ']' :: rest => some (arr (v :: acc).reverse, rest)
      | _ => none

/-- Reads the members of an object from the quote of a name on; an object with a broken name is
broken as a whole. -/
def readMembers (acc : List (String × Json)) (broken : Bool) : Nat → List Char → Option (Json × List Char)
  | 0, _ => none
  | fuel + 1, cs =>
    match cs with
    | '"' :: rest =>
      match readString [] false (rest.length + 1) rest with
      | some (name, rest) =>
        match skipSpace rest with
        | ':' :: rest =>
          match readValue fuel (skipSpace rest) with
          | none => none
          | some (v, rest) =>
            let acc := match name with
              | str name => (name, v) :: acc
              | _ => acc
            let broken := broken || name matches brokenText
            match skipSpace rest with
            | ',' :: rest => readMembers acc broken fuel (skipSpace rest)
            | '\x7d' :: rest => some (if broken then brokenText else obj acc.reverse, rest)
            | _ => none
        | _ => none
      | none => none
    | _ => none

end

/-- Reads a whole text as one value. -/
def ofText? (s : String) : Option Json :=
  let cs := skipSpace s.toList
  match readValue (2 * cs.length + 2) cs with
  | some (v, rest) => if (skipSpace rest).isEmpty then some v else none
  | none => none

end TunnelMesh.Json
