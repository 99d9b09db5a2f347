/-
Reading a point in time from text.

The form is date, `T` or a blank, time and offset, as in
`2024-06-01T12:00:00.5+01:00`.  Blanks may stand before numbers and signs, a year
with a sign may have any number of digits, and the offset is `Z`, `UTC` or hours
and minutes with or without a colon.
-/
import TunnelMesh.Text.Digits
import TunnelMesh.Text.Lines
import TunnelMesh.Time.Instant

namespace TunnelMesh.Instant

/-- Skips blanks. -/
def skipBlank (cs : List Char) : List Char := cs.dropWhile Text.isBlank

/-- Reads a number of one to `width` digits; further digits are left. -/
def readNumber (width : Nat) (cs : List Char) : Option (Nat × List Char) :=
  let digits := (cs.take width).takeWhile Char.isDigit
  if digits.isEmpty then none
  else some (Text.ofDigits 10 (Text.takeDigits 10 digits).1, cs.drop digits.length)

/-- Reads a year: with a sign any number of digits that fits 64 bits, else up to four. -/
def readYear (cs : List Char) : Option (Int × List Char) :=
  match skipBlank cs with
  | '-' :: rest => (readNumber rest.length rest).map fun (n, rest) => (-(n : Int), rest)
  | '+' :: rest => (readNumber rest.length rest).map fun (n, rest) => ((n : Int), rest)
  | rest => (readNumber 4 rest).map fun (n, rest) => ((n : Int), rest)

/-- Reads a two-digit number with blanks before it, and judges its range. -/
def readPart (least greatest : Nat) (cs : List Char) : Option (Nat × List Char) :=
  match readNumber 2 (skipBlank cs) with
  | some (n, rest) => if least ≤ n ∧ n ≤ greatest then some (n, rest) else none
  | none => none

/-- Reads one given character with blanks before it. -/
def readMark (mark : Char) (cs : List Char) : Option (List Char) :=
  match skipBlank cs with
  | c :: rest => if c = mark then some rest else none
  | [] => none

/-- Reads an optional fraction of a second; digits past the ninth are skipped. -/
def readFraction : List Char → Option (Nat × List Char)
  | '.' :: rest =>
    let digits := (rest.takeWhile Char.isDigit).take 9
    if digits.isEmpty then none
    else
      let n := Text.ofDigits 10 (Text.takeDigits 10 digits).1
      some (n * Nat.pow 10 (9 - digits.length), rest.dropWhile Char.isDigit)
  | cs => some (0, cs)

/-- The value of two decimal digits. -/
def twoDigits (a b : Char) : Option Nat :=
  if a.isDigit && b.isDigit then some ((a.toNat - 48) * 10 + (b.toNat - 48)) else none

/-- Reads hours and minutes of an offset, in seconds. -/
def readOffsetParts : List Char → Option (Int × List Char)
  | a :: b :: rest =>
    match twoDigits a b with
    | none => none
    | some hours =>
      match rest.dropWhile (fun c => c == ':' || Text.isBlank c) with
      | c :: d :: rest =>
        match twoDigits c d with
        | some minutes =>
          if minutes < 60 then some ((hours * 3600 + minutes * 60 : Nat), rest) else none
        | none => none
      | _ => none
  | _ => none

/-- Reads an offset from universal time, in seconds. -/
def readOffset (cs : List Char) : Option (Int × List Char) :=
  match cs with
  | c :: rest =>
    if (cs.take 3).map Char.toUpper = ['U', 'T', 'C'] then some (0, cs.drop 3)
    else if c = 'Z' ∨ c = 'z' then some (0, rest)
    else if c = '+' then readOffsetParts rest
    else if c = '-' ∨ c = '\u2212' then
      (readOffsetParts rest).map fun (n, rest) => (-n, rest)
    else none
  | [] => none

/-- Reads a whole text as a point in time. -/
def ofText? (s : String) : Option Instant := do
  let (year, cs) ← readYear s.toList
  let cs ← readMark '-' cs
  let (month, cs) ← readPart 1 12 cs
  let cs ← readMark '-' cs
  let (day, cs) ← readPart 1 31 cs
  let cs ← match cs with
    | c :: rest => if c = 'T' ∨ c = 't' ∨ c = ' ' then some rest else none
    | [] => none
  let (hour, cs) ← readPart 0 23 cs
  let cs ← readMark ':' cs
  let (minute, cs) ← readPart 0 59 cs
  let cs ← readMark ':' cs
  let (sec, cs) ← readPart 0 60 cs
  let (nanos, cs) ← readFraction cs
  let (offset, cs) ← readOffset (skipBlank cs)
  if !(skipBlank cs).isEmpty then none
  else if daysInMonth year month < day || year < firstYear || lastYear < year then none
  else if 86400 ≤ offset.natAbs then none
  else
    let leap := sec = 60
    let clock := hour * 3600 + minute * 60 + (if leap then 59 else sec)
    let seconds := daysOfDate year month day * Instant.day + clock - offset
    some ⟨seconds, if leap then nanos + Duration.second else nanos⟩

end TunnelMesh.Instant
