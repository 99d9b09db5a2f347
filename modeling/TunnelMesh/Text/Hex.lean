/-
Bytes as hexadecimal digits, two to a byte, high half first.

`decode` takes digits of either case and says which byte of the text is at
fault; `encode` writes lower case.
-/

namespace TunnelMesh.Text.Hex

/-- Why a text is not a row of hexadecimal byte pairs. -/
inductive Error where
  /-- The text has an odd number of bytes. -/
  | oddLength
  /-- The byte at this offset is no hexadecimal digit. -/
  | badDigit (byte : UInt8) (offset : Nat)
deriving DecidableEq, Repr

/-- The digit of a value below 16. -/
def digit (n : Nat) : Char :=
  if n < 10 then Char.ofNat (48 + n) else Char.ofNat (87 + n)

/-- The value of a hexadecimal digit given as its ASCII code. -/
def value? (b : UInt8) : Option Nat :=
  let n := b.toNat
  if 48 ≤ n && n ≤ 57 then some (n - 48)
  else if 97 ≤ n && n ≤ 102 then some (n - 87)
  else if 65 ≤ n && n ≤ 70 then some (n - 55)
  else none

/-- The two digits of a byte. -/
def encodeByte (b : UInt8) : List Char :=
  [digit (b.toNat / 16), digit (b.toNat % 16)]

/-- The hexadecimal text of bytes. -/
def encode (bytes : List UInt8) : String :=
  String.ofList (bytes.flatMap encodeByte)

/-- Decodes pairs of digits; `offset` is the place of the first one in the whole text. -/
def decodePairs (offset : Nat) : List UInt8 → Except Error (List UInt8)
  | hi :: lo :: rest =>
    match value? hi with
    | none => .error (.badDigit hi offset)
    | some h =>
      match value? lo with
      | none => .error (.badDigit lo (offset + 1))
      | some l =>
        match decodePairs (offset + 2) rest with
        | .error e => .error e
        | .ok bytes => .ok (UInt8.ofNat (16 * h + l) :: bytes)
  | _ => .ok []

/-- The bytes that a hexadecimal text stands for. -/
def decode (s : String) : Except Error (List UInt8) :=
  let bytes := s.toUTF8.toList
  if bytes.length % 2 = 1 then .error .oddLength else decodePairs 0 bytes

end TunnelMesh.Text.Hex
