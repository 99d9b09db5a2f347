/-
Numbers written as digits.

`readNumber` takes the longest run of digits and judges it as a whole: how many
digits there are, whether a leading zero is allowed, and whether the value stays
below a bound.  `nat?` and `int?` read a whole text with an optional sign.
-/

namespace TunnelMesh.Text

/-- The value of a digit in a radix up to 36; letters count in either case. -/
def digitValue? (radix : Nat) (c : Char) : Option Nat :=
  let n := c.toNat
  let v :=
    if 48 ≤ n && n ≤ 57 then n - 48
    else if 97 ≤ n && n ≤ 122 then n - 87
    else if 65 ≤ n && n ≤ 90 then n - 55
    else 36
  if v < radix then some v else none

/-- The digits at the start of a text, as values, and what follows them. -/
def takeDigits (radix : Nat) : List Char → List Nat × List Char
  | [] => ([], [])
  | c :: rest =>
    match digitValue? radix c with
    | none => ([], c :: rest)
    | some v =>
      let (ds, rest') := takeDigits radix rest
      (v :: ds, rest')

/-- The number that a row of digits stands for. -/
def ofDigits (radix : Nat) (digits : List Nat) : Nat :=
  digits.foldl (fun acc d => acc * radix + d) 0

/-- What a written number must satisfy. -/
structure NumberForm where
  /-- The radix. -/
  radix : Nat
  /-- The most digits allowed, if there is a limit. -/
  maxDigits : Option Nat
  /-- Whether further digits may follow a leading zero. -/
  leadingZero : Bool
  /-- The value is below this bound. -/
  bound : Nat

/-- Reads a number of a form at the start of a text. -/
def NumberForm.read (form : NumberForm) (cs : List Char) : Option (Nat × List Char) :=
  let (digits, rest) := takeDigits form.radix cs
  let tooLong := match form.maxDigits with
    | none => false
    | some m => m < digits.length
  let badZero := !form.leadingZero && digits.head? == some 0 && 1 < digits.length
  let value := ofDigits form.radix digits
  if digits.isEmpty || tooLong || badZero || form.bound ≤ value then none
  else some (value, rest)

/-- Whether every character is a decimal digit and there is at least one. -/
def isDecimal (cs : List Char) : Bool :=
  !cs.isEmpty && cs.all Char.isDigit

/-- Reads a whole text as a decimal number below `bound`, with an optional plus sign. -/
def nat? (bound : Nat) (s : String) : Option Nat :=
  let cs := match s.toList with
    | '+' :: rest => rest
    | cs => cs
  if isDecimal cs then
    let v := ofDigits 10 (takeDigits 10 cs).1
    if v < bound then some v else none
  else none

/-- Reads a whole text as a decimal integer from `-bound` to `bound - 1`, with an optional sign. -/
def int? (bound : Nat) (s : String) : Option Int :=
  match s.toList with
  | '-' :: rest =>
    if isDecimal rest then
      let v := ofDigits 10 (takeDigits 10 rest).1
      if v ≤ bound then some (-(v : Int)) else none
    else none
  | _ => (nat? bound s).map fun v => (v : Int)

/-- The first number of 16 bits that does not fit. -/
def bound16 : Nat := 65536

/-- The first number of 32 bits that does not fit. -/
def bound32 : Nat := 4294967296

/-- The first number of 64 bits that does not fit. -/
def bound64 : Nat := 18446744073709551616

/-- A whole text as a number of 16 bits. -/
def u16? (s : String) : Option UInt16 := (nat? bound16 s).map UInt16.ofNat

/-- A whole text as a number of 32 bits. -/
def u32? (s : String) : Option UInt32 := (nat? bound32 s).map UInt32.ofNat

/-- A whole text as a number of 64 bits. -/
def u64? (s : String) : Option UInt64 := (nat? bound64 s).map UInt64.ofNat

end TunnelMesh.Text
