/-
Reading keys, strings, numbers and times of the TOML format.

Each reader takes what it needs from the start of a text and gives the rest.
-/
import TunnelMesh.Text.Digits
import TunnelMesh.Time.Instant
import TunnelMesh.Toml.Basic

namespace TunnelMesh.Toml

/-- Blanks within a line. -/
def isSpace (c : Char) : Bool := c == ' ' || c == '\t'

/-- Skips blanks within a line. -/
def skipSpace (cs : List Char) : List Char := cs.dropWhile isSpace

/-- Whether a character may stand in comments and strings as it is. -/
def isPlain (c : Char) : Bool := c == '\t' || (32 ≤ c.toNat && c.toNat != 127)

/-- Takes a line ending. -/
def newline? : List Char → Option (List Char)
  | '\n' :: rest => some rest
  | '\r' :: '\n' :: rest => some rest
  | _ => none

/-- Skips a comment, if there is one. -/
def skipComment : List Char → List Char
  | '#' :: rest => rest.dropWhile isPlain
  | cs => cs

/-- Skips blanks, comments and line endings. -/
def skipLines : Nat → List Char → List Char
  | 0, cs => cs
  | fuel + 1, cs =>
    let cs := skipComment (skipSpace cs)
    match newline? cs with
    | some rest => skipLines fuel rest
    | none => cs

/-! ### Strings -/

/-- Reads the character that an escape stands for, after the backslash. -/
def readEscape : List Char → Option (Char × List Char)
  | c :: rest =>
    let hex (n : Nat) : Option (Char × List Char) :=
      let form : Text.NumberForm := ⟨16, some n, true, 0x110000⟩
      match form.read (rest.take n) with
      | some (v, []) =>
        if (rest.take n).length = n ∧ !(0xD800 ≤ v && v < 0xE000) then
          some (Char.ofNat v, rest.drop n)
        else none
      | _ => none
    match c with
    | 'b' => some ('\x08', rest)
    | 't' => some ('\t', rest)
    | 'n' => some ('\n', rest)
    | 'f' => some ('\x0c', rest)
    | 'r' => some ('\r', rest)
    | '"' => some ('"', rest)
    | '\\' => some ('\\', rest)
    | 'u' => hex 4
    | 'U' => hex 8
    | _ => none
  | [] => none

/-- Reads a string in double quotes, after the opening quote. -/
def readBasic (acc : List Char) : Nat → List Char → Option (String × List Char)
  | 0, _ => none
  | _ + 1, [] => none
  | fuel + 1, c :: rest =>
    if c = '"' then some (String.ofList acc.reverse, rest)
    else if c = '\\' then
      match readEscape rest with
      | some (c, rest) => readBasic (c :: acc) fuel rest
      | none => none
    else if isPlain c then readBasic (c :: acc) fuel rest
    else none

/-- Reads a string in single quotes, after the opening quote. -/
def readLiteral (acc : List Char) : List Char → Option (String × List Char)
  | [] => none
  | c :: rest =>
    if c = '\'' then some (String.ofList acc.reverse, rest)
    else if isPlain c then readLiteral (c :: acc) rest
    else none

/-- Skips blanks and line endings. -/
def skipBlankLines : List Char → List Char
  | '\r' :: '\n' :: rest => skipBlankLines rest
  | c :: rest => if isSpace c || c == '\n' then skipBlankLines rest else c :: rest
  | [] => []

/-- Skips blanks and line endings after a backslash at the end of a line; there must be one. -/
def joinLines (cs : List Char) : Option (List Char) :=
  (newline? (skipSpace cs)).map skipBlankLines

/-- The quotes at the start of a text, up to five. -/
def quoteRun (quote : Char) (cs : List Char) : Nat :=
  ((cs.take 5).takeWhile (· == quote)).length

/-- Reads a string over several lines, after its three opening quotes. Up to two quotes in a row
may stand in it, also before the closing ones. -/
def readLong (quote : Char) (acc : List Char) : Nat → List Char → Option (String × List Char)
  | 0, _ => none
  | _ + 1, [] => none
  | fuel + 1, c :: rest =>
    if c = quote then
      let n := quoteRun quote (c :: rest)
      if 3 ≤ n then
        some (String.ofList (List.replicate (n - 3) quote ++ acc).reverse, (c :: rest).drop n)
      else readLong quote (c :: acc) fuel rest
    else if c = '\\' ∧ quote = '"' then
      match joinLines rest with
      | some rest => readLong quote acc fuel rest
      | none =>
        match readEscape rest with
        | some (c, rest) => readLong quote (c :: acc) fuel rest
        | none => none
    else if isPlain c then readLong quote (c :: acc) fuel rest
    else
      match newline? (c :: rest) with
      | some rest => readLong quote ('\n' :: acc) fuel rest
      | none => none

/-- A line ending right after the opening quotes does not count. -/
def dropFirstNewline (cs : List Char) : List Char := (newline? cs).getD cs

/-- Reads a string of any kind. -/
def readStr (cs : List Char) : Option (String × List Char) :=
  match cs with
  | '"' :: '"' :: '"' :: rest => readLong '"' [] (rest.length + 1) (dropFirstNewline rest)
  | '\'' :: '\'' :: '\'' :: rest => readLong '\'' [] (rest.length + 1) (dropFirstNewline rest)
  | '"' :: rest => readBasic [] (rest.length + 1) rest
  | '\'' :: rest => readLiteral [] rest
  | _ => none

/-! ### Keys -/

/-- Whether a character may stand in a key without quotes. -/
def isBare (c : Char) : Bool := c.isAlphanum || c == '-' || c == '_'

/-- Reads one part of a key. -/
def readPart (cs : List Char) : Option (String × List Char) :=
  match cs with
  | '"' :: rest => readBasic [] (rest.length + 1) rest
  | '\'' :: rest => readLiteral [] rest
  | _ =>
    let name := cs.takeWhile isBare
    if name.isEmpty then none else some (String.ofList name, cs.dropWhile isBare)

/-- Reads a key of parts with points between them. -/
def readKey : Nat → List Char → Option (List String × List Char)
  | 0, _ => none
  | fuel + 1, cs =>
    match readPart (skipSpace cs) with
    | none => none
    | some (p, rest) =>
      match skipSpace rest with
      | '.' :: rest => (readKey fuel rest).map fun (ps, rest) => (p :: ps, rest)
      | rest => some ([p], rest)

/-! ### Numbers -/

/-- Reads digits of a radix with single underscores between them. -/
def readDigits (radix : Nat) : Nat → List Char → Option (List Nat × List Char)
  | 0, _ => none
  | fuel + 1, cs =>
    match Text.takeDigits radix cs with
    | ([], _) => none
    | (ds, '_' :: rest) => (readDigits radix fuel rest).map fun (more, rest) => (ds ++ more, rest)
    | (ds, rest) => some (ds, rest)

/-- Reads a sign; true means negative. -/
def readSign : List Char → Bool × List Char
  | '-' :: rest => (true, rest)
  | '+' :: rest => (false, rest)
  | cs => (false, cs)

/-- Reads the digits of a whole number without leading zero. -/
def readWhole (cs : List Char) : Option (List Nat × List Char) :=
  match readDigits 10 (cs.length + 1) cs with
  | some (0 :: _ :: _, _) => none
  | r => r

/-- Whether a number fits 64 bits with sign. -/
def fits (n : Int) : Bool := -9223372036854775808 ≤ n && n ≤ 9223372036854775807

/-- Reads a whole number. -/
def readInt (cs : List Char) : Option (Toml × List Char) :=
  let radixed (radix : Nat) (rest : List Char) : Option (Toml × List Char) :=
    (readDigits radix (rest.length + 1) rest).bind fun (ds, rest) =>
      let n : Int := Text.ofDigits radix ds
      if fits n then some (int n, rest) else none
  match cs with
  | '0' :: 'x' :: rest => radixed 16 rest
  | '0' :: 'o' :: rest => radixed 8 rest
  | '0' :: 'b' :: rest => radixed 2 rest
  | _ =>
    let (negative, rest) := readSign cs
    (readWhole rest).bind fun (ds, rest) =>
      let n : Int := Text.ofDigits 10 ds
      let n := if negative then -n else n
      if fits n then some (int n, rest) else none

/-- Reads an optional exponent. -/
def readExponent : List Char → Option (Option Int × List Char)
  | c :: rest =>
    if c = 'e' ∨ c = 'E' then
      let (negative, rest) := readSign rest
      (readDigits 10 (rest.length + 1) rest).map fun (ds, rest) =>
        let n : Int := Text.ofDigits 10 ds
        (some (if negative then -n else n), rest)
    else some (none, c :: rest)
  | [] => some (none, [])

/-- The floating point number nearest to digits · 10^e; exponents far out of range are cut. -/
def nearestFloat (digits : Nat) (e : Int) : Float :=
  if digits = 0 then 0
  else if e < -100000 then 0
  else if 100000 < e then 1.0 / 0.0
  else if 0 ≤ e then Float.ofScientific digits false e.toNat
  else Float.ofScientific digits true (-e).toNat

/-- Reads a number with a point or an exponent. -/
def readFloat (cs : List Char) : Option (Toml × List Char) := do
  let (negative, rest) := readSign cs
  let (whole, rest) ← readWhole rest
  let (places, rest) ← match rest with
    | '.' :: rest => (readDigits 10 (rest.length + 1) rest).map fun (ds, rest) => (some ds, rest)
    | rest => some (none, rest)
  let (exponent, rest) ← readExponent rest
  if places.isNone && exponent.isNone then none
  else
    let ds := whole ++ places.getD []
    let x := nearestFloat (Text.ofDigits 10 ds) (exponent.getD 0 - (places.getD []).length)
    if x.isInf && !negative then none
    else some (float (if negative then -x else x), rest)

/-- Reads infinity or no number. -/
def readSpecial (cs : List Char) : Option (Toml × List Char) :=
  let (negative, rest) := readSign cs
  match rest with
  | 'i' :: 'n' :: 'f' :: rest =>
    let x : Float := 1.0 / 0.0
    some (float (if negative then -x else x), rest)
  | 'n' :: 'a' :: 'n' :: rest => some (float (0.0 / 0.0), rest)
  | _ => none

/-! ### Times -/

/-- Reads exactly `n` digits. -/
def readFixed (n : Nat) (cs : List Char) : Option (Nat × List Char) :=
  let ds := cs.take n
  if ds.length = n ∧ ds.all Char.isDigit then
    some (Text.ofDigits 10 (Text.takeDigits 10 ds).1, cs.drop n)
  else none

/-- Takes one given character. -/
def readChar (c : Char) : List Char → Option (List Char)
  | d :: rest => if c = d then some rest else none
  | [] => none

/-- Reads a date and judges it by the calendar. -/
def readDate (cs : List Char) : Option (List Char) := do
  let (y, cs) ← readFixed 4 cs
  let cs ← readChar '-' cs
  let (m, cs) ← readFixed 2 cs
  let cs ← readChar '-' cs
  let (d, cs) ← readFixed 2 cs
  if 1 ≤ m ∧ m ≤ 12 ∧ 1 ≤ d ∧ d ≤ Instant.daysInMonth y m then some cs else none

/-- Reads hours and minutes. -/
def readHourMinute (cs : List Char) : Option (List Char) := do
  let (h, cs) ← readFixed 2 cs
  let cs ← readChar ':' cs
  let (m, cs) ← readFixed 2 cs
  if h ≤ 23 ∧ m ≤ 59 then some cs else none

/-- Reads a time of day. -/
def readClock (cs : List Char) : Option (List Char) := do
  let cs ← readHourMinute cs
  let cs ← readChar ':' cs
  let (s, cs) ← readFixed 2 cs
  if 60 < s then none
  else
    match cs with
    | '.' :: d :: rest => if d.isDigit then some (rest.dropWhile Char.isDigit) else none
    | '.' :: [] => none
    | cs => some cs

/-- Reads an optional offset. -/
def readOffset (cs : List Char) : Option (List Char) :=
  match cs with
  | 'Z' :: rest => some rest
  | 'z' :: rest => some rest
  | '+' :: rest => readHourMinute rest
  | '-' :: rest => readHourMinute rest
  | cs => some cs

/-- Reads a date, a time or both. -/
def readTime (cs : List Char) : Option (Toml × List Char) :=
  let text (rest : List Char) : Toml × List Char :=
    (time (String.ofList (cs.take (cs.length - rest.length))), rest)
  match readDate cs with
  | some rest =>
    match rest with
    | c :: more =>
      if c = 'T' ∨ c = 't' ∨ c = ' ' then
        match readClock more with
        | some rest => (readOffset rest).map text
        | none => if c = ' ' then some (text rest) else none
      else some (text rest)
    | [] => some (text rest)
  | none => (readClock cs).map text

/-- Reads a number or a time. -/
def readNumber (cs : List Char) : Option (Toml × List Char) :=
  (readTime cs).or ((readFloat cs).or ((readSpecial cs).or (readInt cs)))

end TunnelMesh.Toml
