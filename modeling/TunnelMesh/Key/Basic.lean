/-
The three kinds of keys of a tunnel, each of 32 bytes.

A public key names a peer and orders peers by its bytes.  Private and preshared
keys never show their bytes in a debugging text.  Each kind reads from base 64 and
from hexadecimal text.
-/
import TunnelMesh.Key.Curve
import TunnelMesh.Order
import TunnelMesh.Text.Base64
import TunnelMesh.Text.Lines
import TunnelMesh.Text.Quoted

namespace TunnelMesh.Key

/-- Why a key cannot be read. -/
inductive Error where
  /-- The text or slice holds another number of bytes than 32. -/
  | length (found : Nat)
  /-- The text is not base 64. -/
  | base64 (cause : Text.Base64.Error)
  /-- The text is not hexadecimal. -/
  | hex (cause : Text.Hex.Error)
deriving DecidableEq, Repr

/-- The wording of a fault. -/
def Error.message : Error → String
  | .length n => s!"invalid key length: expected 32, got {n}"
  | .base64 e => s!"invalid base64 encoding: {e.message}"
  | .hex e => s!"invalid key: {e.message}"

/-- Thirty-two bytes. -/
structure Bytes where
  /-- The bytes in order. -/
  list : List UInt8
  length_eq : list.length = 32
deriving DecidableEq, Repr

namespace Bytes

/-- Takes a list of exactly 32 bytes. -/
def ofList (bytes : List UInt8) : Except Error Bytes :=
  if h : bytes.length = 32 then .ok ⟨bytes, h⟩ else .error (.length bytes.length)

/-- Reads base 64 text, blanks around it ignored. -/
def ofBase64 (s : String) : Except Error Bytes :=
  match Text.Base64.decode (Text.trim s) with
  | .error e => .error (.base64 e)
  | .ok bytes => ofList bytes

/-- Reads hexadecimal text, blanks around it ignored. -/
def ofHex (s : String) : Except Error Bytes :=
  match Text.Hex.decode (Text.trim s) with
  | .error e => .error (.hex e)
  | .ok bytes => ofList bytes

/-- The base 64 text. -/
def toBase64 (b : Bytes) : String := Text.Base64.encode b.list

/-- The hexadecimal text. -/
def toHex (b : Bytes) : String := Text.Hex.encode b.list

/-- By bytes, the first different one deciding. -/
instance : Ord Bytes := ⟨compareOn list⟩

instance : Std.TransOrd Bytes := inferInstanceAs (Std.TransCmp (compareOn list))

instance : Std.LawfulEqOrd Bytes :=
  Order.lawful_compareOn (f := list) fun a b h => by cases a; cases b; simp_all

end Bytes

end TunnelMesh.Key

namespace TunnelMesh

/-- The public half of a key pair; it names a peer. -/
structure PublicKey where
  bytes : Key.Bytes
deriving DecidableEq, Repr

/-- The secret half of a key pair. -/
structure PrivateKey where
  bytes : Key.Bytes
deriving DecidableEq

/-- A symmetric key that two peers share. -/
structure PresharedKey where
  bytes : Key.Bytes
deriving DecidableEq

namespace PublicKey

/-- Reads base 64 text. -/
def ofBase64 (s : String) : Except Key.Error PublicKey := (Key.Bytes.ofBase64 s).map mk

/-- Reads hexadecimal text. -/
def ofHex (s : String) : Except Key.Error PublicKey := (Key.Bytes.ofHex s).map mk

/-- The base 64 text. -/
def toBase64 (k : PublicKey) : String := k.bytes.toBase64

/-- The hexadecimal text. -/
def toHex (k : PublicKey) : String := k.bytes.toHex

/-- The start of the key, for logs. -/
def debugText (k : PublicKey) : String :=
  "PublicKey(" ++ String.ofList (k.toBase64.toList.take 8) ++ "...)"

/-- By bytes. -/
instance : Ord PublicKey := ⟨compareOn bytes⟩

instance : Std.TransOrd PublicKey := inferInstanceAs (Std.TransCmp (compareOn bytes))

instance : Std.LawfulEqOrd PublicKey :=
  Order.lawful_compareOn (f := bytes) fun a b h => by cases a; cases b; simp_all

end PublicKey

namespace PrivateKey

/-- Reads base 64 text. -/
def ofBase64 (s : String) : Except Key.Error PrivateKey := (Key.Bytes.ofBase64 s).map mk

/-- Reads hexadecimal text. -/
def ofHex (s : String) : Except Key.Error PrivateKey := (Key.Bytes.ofHex s).map mk

/-- The base 64 text. -/
def toBase64 (k : PrivateKey) : String := k.bytes.toBase64

/-- The hexadecimal text. -/
def toHex (k : PrivateKey) : String := k.bytes.toHex

/-- The public key of a private key. -/
def publicKey (k : PrivateKey) : PublicKey :=
  ⟨⟨Key.Curve.publicBytes k.bytes.list, Key.Curve.length_toBytes 32 _⟩⟩

/-- A text that does not tell the key. -/
def debugText (_ : PrivateKey) : String := "PrivateKey([REDACTED])"

end PrivateKey

namespace PresharedKey

/-- Reads base 64 text. -/
def ofBase64 (s : String) : Except Key.Error PresharedKey := (Key.Bytes.ofBase64 s).map mk

/-- Reads hexadecimal text. -/
def ofHex (s : String) : Except Key.Error PresharedKey := (Key.Bytes.ofHex s).map mk

/-- The base 64 text. -/
def toBase64 (k : PresharedKey) : String := k.bytes.toBase64

/-- The hexadecimal text. -/
def toHex (k : PresharedKey) : String := k.bytes.toHex

/-- A text that does not tell the key. -/
def debugText (_ : PresharedKey) : String := "PresharedKey \x7b key: \"[REDACTED]\" \x7d"

end PresharedKey

end TunnelMesh
