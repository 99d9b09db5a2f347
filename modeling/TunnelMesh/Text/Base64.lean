/-
Bytes in base 64 with the standard alphabet, padded.

Three bytes are four symbols; the last group of one or two bytes is padded with
`=` to four.  `decode` takes the canonical form only: full padding, no bit set
past the last byte.  Of several faults it names the one that a reader meets first
who takes whole groups before the last group.
-/

namespace TunnelMesh.Text.Base64

/-- Why a text is not canonical base 64. -/
inductive Error where
  /-- The byte at this offset is no symbol, or is padding out of place. -/
  | badSymbol (byte : UInt8) (offset : Nat)
  /-- The symbols end in the middle of a byte. -/
  | badLength (offset : Nat)
  /-- The last symbol has bits past the last byte. -/
  | badLastSymbol (byte : UInt8) (offset : Nat)
  /-- The last group is not filled up with padding. -/
  | badPadding
deriving DecidableEq, Repr

/-- The wording of a fault. -/
def Error.message : Error → String
  | .badSymbol b i => s!"Invalid symbol {b.toNat}, offset {i}."
  | .badLength n => s!"Invalid input length: {n}"
  | .badLastSymbol b i => s!"Invalid last symbol {b.toNat}, offset {i}."
  | .badPadding => "Invalid padding"

/-- The symbol of a value below 64. -/
def symbol (n : Nat) : Char :=
  if n < 26 then Char.ofNat (65 + n)
  else if n < 52 then Char.ofNat (71 + n)
  else if n < 62 then Char.ofNat (n - 4)
  else if n = 62 then '+' else '/'

/-- The value of a symbol given as its ASCII code. -/
def value? (b : UInt8) : Option Nat :=
  let n := b.toNat
  if 65 ≤ n && n ≤ 90 then some (n - 65)
  else if 97 ≤ n && n ≤ 122 then some (n - 71)
  else if 48 ≤ n && n ≤ 57 then some (n + 4)
  else if n = 43 then some 62
  else if n = 47 then some 63
  else none

/-- The symbols of bytes, padding included. -/
def encodeChars : List UInt8 → List Char
  | a :: b :: c :: rest =>
    let n := 65536 * a.toNat + 256 * b.toNat + c.toNat
    symbol (n / 262144) :: symbol (n / 4096 % 64) :: symbol (n / 64 % 64) :: symbol (n % 64) ::
      encodeChars rest
  | [a, b] =>
    let n := 65536 * a.toNat + 256 * b.toNat
    [symbol (n / 262144), symbol (n / 4096 % 64), symbol (n / 64 % 64), '=']
  | [a] =>
    let n := 65536 * a.toNat
    [symbol (n / 262144), symbol (n / 4096 % 64), '=', '=']
  | [] => []

/-- The base 64 text of bytes. -/
def encode (bytes : List UInt8) : String :=
  String.ofList (encodeChars bytes)

/-- The ASCII code of the padding sign. -/
def pad : UInt8 := 61

/-- What is known of the last group while its bytes are read. -/
structure Tail where
  /-- Values of the symbols so far. -/
  values : List Nat
  /-- The last symbol read. -/
  last : UInt8
  /-- Offset of the first padding sign, if one was read. -/
  firstPad : Option Nat
  /-- Number of padding signs. -/
  pads : Nat

/-- Reads one byte of the last group: padding may only follow two symbols, symbols never follow
padding. `offset` is the byte's offset in the text, `index` its place in the group. -/
def Tail.step (t : Tail) (offset index : Nat) (b : UInt8) : Except Error Tail :=
  if b = pad then
    if index < 2 then .error (.badSymbol b offset)
    else .ok { t with firstPad := t.firstPad.or (some offset), pads := t.pads + 1 }
  else
    match t.firstPad with
    | some i => .error (.badSymbol pad i)
    | none =>
      match value? b with
      | none => .error (.badSymbol b offset)
      | some v => .ok { t with values := t.values ++ [v], last := b }

/-- Reads the bytes of the last group. -/
def Tail.read (t : Tail) (offset index : Nat) : List UInt8 → Except Error Tail
  | [] => .ok t
  | b :: rest =>
    match t.step offset index b with
    | .error e => .error e
    | .ok t' => t'.read (offset + 1) (index + 1) rest

/-- The bytes of the last group, whose first byte stands at `offset`. -/
def Tail.bytes (t : Tail) (offset : Nat) : Except Error (List UInt8) :=
  let k := t.values.length
  if k < 2 then .error (.badLength (offset + k))
  else if (t.pads + k) % 4 ≠ 0 then .error .badPadding
  else
    match t.values with
    | [a, b] =>
      if b % 16 ≠ 0 then .error (.badLastSymbol t.last (offset + 1))
      else .ok [UInt8.ofNat (4 * a + b / 16)]
    | [a, b, c] =>
      if c % 4 ≠ 0 then .error (.badLastSymbol t.last (offset + 2))
      else .ok [UInt8.ofNat (4 * a + b / 16), UInt8.ofNat (16 * b + c / 4)]
    | [a, b, c, d] =>
      .ok [UInt8.ofNat (4 * a + b / 16), UInt8.ofNat (16 * b + c / 4), UInt8.ofNat (64 * c + d)]
    | _ => .ok []

/-- Decodes whole groups while more bytes follow, then the last group. -/
def decodeFrom (offset : Nat) : List UInt8 → Except Error (List UInt8)
  | b0 :: b1 :: b2 :: b3 :: b4 :: rest =>
    match value? b0 with
    | none => .error (.badSymbol b0 offset)
    | some v0 =>
      match value? b1 with
      | none => .error (.badSymbol b1 (offset + 1))
      | some v1 =>
        match value? b2 with
        | none => .error (.badSymbol b2 (offset + 2))
        | some v2 =>
          match value? b3 with
          | none => .error (.badSymbol b3 (offset + 3))
          | some v3 =>
            match decodeFrom (offset + 4) (b4 :: rest) with
            | .error e => .error e
            | .ok bytes =>
              .ok (UInt8.ofNat (4 * v0 + v1 / 16) :: UInt8.ofNat (16 * v1 + v2 / 4) ::
                UInt8.ofNat (64 * v2 + v3) :: bytes)
  | [] => .ok []
  | tail =>
    match Tail.read ⟨[], 0, none, 0⟩ offset 0 tail with
    | .error e => .error e
    | .ok t => t.bytes offset

/-- The fault of a stray last byte: a text one byte too long whose last byte is no symbol. -/
def strayLast? (bytes : List UInt8) : Option Error :=
  match bytes.getLast? with
  | some b =>
    if bytes.length % 4 = 1 ∧ b ≠ pad ∧ value? b = none then
      some (.badSymbol b (bytes.length - 1))
    else none
  | none => none

/-- The bytes that a base 64 text stands for. -/
def decode (s : String) : Except Error (List UInt8) :=
  let bytes := s.toUTF8.toList
  match strayLast? bytes with
  | some e => .error e
  | none => decodeFrom 0 bytes

end TunnelMesh.Text.Base64
