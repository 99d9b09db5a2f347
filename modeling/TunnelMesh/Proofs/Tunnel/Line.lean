/-
Lines of requests come back from their texts.

A line is its key, an equals sign and its value.  No key has an equals sign, and every
value reads as its key demands, so that a line is read back wherever it may stand.  All
that is lost on the way is the flow label of an endpoint.
-/
import TunnelMesh.Proofs.Net.SocketAddress
import TunnelMesh.Proofs.Net.Subnet
import TunnelMesh.Proofs.Text.Hex
import TunnelMesh.Proofs.Text.Lines
import TunnelMesh.Tunnel.Line

namespace TunnelMesh

open Net Text

/-! ### Keys -/

theorem Key.Bytes.ofHex_toHex (b : Key.Bytes) : ofHex b.toHex = .ok b := by
  rw [ofHex, toHex, trim_of_graphic (Hex.graphic_encode b.list), Hex.decode_encode]
  exact dif_pos b.length_eq

theorem PublicKey.ofHex_toHex (k : PublicKey) : ofHex k.toHex = .ok k := by
  rw [ofHex, toHex, k.bytes.ofHex_toHex]
  rfl

theorem PrivateKey.ofHex_toHex (k : PrivateKey) : ofHex k.toHex = .ok k := by
  rw [ofHex, toHex, k.bytes.ofHex_toHex]
  rfl

theorem PresharedKey.ofHex_toHex (k : PresharedKey) : ofHex k.toHex = .ok k := by
  rw [ofHex, toHex, k.bytes.ofHex_toHex]
  rfl

/-! ### Other values -/

theorem u16?_repr (n : UInt16) : u16? n.toNat.repr = some n := by
  have hlt : n.toNat < bound16 := by
    have := n.toNat_lt
    rw [bound16]
    omega
  rw [u16?, ← Nat.toString_eq_repr, nat?_toString hlt]
  simp

theorem u32?_repr (n : UInt32) : u32? n.toNat.repr = some n := by
  have hlt : n.toNat < bound32 := by
    have := n.toNat_lt
    rw [bound32]
    omega
  rw [u32?, ← Nat.toString_eq_repr, nat?_toString hlt]
  simp

theorem readBool_boolText (b : Bool) : readBool (boolText b) = .ok b := by
  cases b <;> rfl

theorem readValue_of_some {α : Type} {read : String → Option α} {value : String} {a : α}
    (h : read value = some a) (key : String) : readValue read key value = .ok a := by
  rw [readValue, h]

theorem readAllowedIp_toText (n : Subnet) : readAllowedIp n.toText = .ok n := by
  unfold readAllowedIp
  rw [trim_of_graphic n.graphic_toText]
  dsimp only
  rw [n.ofText?_toText]

theorem readSubnet_toText (n : Subnet) : readSubnet n.toText = .ok n := by
  unfold readSubnet
  rw [readAllowedIp_toText]

/-! ### Keys and values of lines -/

namespace InterfaceLine

/-- What stands before the equals sign. -/
def key : InterfaceLine → String
  | privateKey _ => "private_key"
  | listenPort _ => "listen_port"
  | fwmark _ => "fwmark"
  | replacePeers _ => "replace_peers"

/-- What stands after the equals sign. -/
def value : InterfaceLine → String
  | privateKey k => k.toHex
  | listenPort p => toString p.toNat
  | fwmark m => toString m.toNat
  | replacePeers b => boolText b

theorem toText_eq (l : InterfaceLine) : l.toText = l.key ++ String.singleton '=' ++ l.value := by
  cases l <;> rfl

theorem read_key_value (l : InterfaceLine) : read l.key l.value = .ok l := by
  cases l with
  | privateKey k =>
      rw [read, if_pos (show key (privateKey k) = "private_key" from rfl), value, k.ofHex_toHex]
      rfl
  | listenPort p => simp [read, key, value, readValue_of_some (u16?_repr p), Except.map]
  | fwmark m => simp [read, key, value, readValue_of_some (u32?_repr m), Except.map]
  | replacePeers b => simp [read, key, value, readBool_boolText, Except.map]

end InterfaceLine

namespace PeerLine

/-- What stands before the equals sign. -/
def key : PeerLine → String
  | remove _ => "remove"
  | updateOnly _ => "update_only"
  | presharedKey _ => "preshared_key"
  | endpoint _ => "endpoint"
  | keepalive _ => "persistent_keepalive_interval"
  | replaceAllowedIps _ => "replace_allowed_ips"
  | allowedIp _ => "allowed_ip"

/-- What stands after the equals sign. -/
def value : PeerLine → String
  | remove b => boolText b
  | updateOnly b => boolText b
  | presharedKey k => k.toHex
  | endpoint a => a.toText
  | keepalive n => toString n.toNat
  | replaceAllowedIps b => boolText b
  | allowedIp n => n.toText

theorem toText_eq (l : PeerLine) : l.toText = l.key ++ String.singleton '=' ++ l.value := by
  cases l <;> rfl

/-- The line that the text of a line is read as: no flow label is written. -/
def readBack : PeerLine → PeerLine
  | endpoint a => endpoint a.unlabelled
  | l => l

theorem read_key_value (l : PeerLine) : read l.key l.value = .ok l.readBack := by
  cases l with
  | remove b => simp [read, key, value, readBack, readBool_boolText, Except.map]
  | updateOnly b => simp [read, key, value, readBack, readBool_boolText, Except.map]
  | presharedKey k => simp [read, key, value, readBack, k.ofHex_toHex, Except.map, Except.mapError]
  | endpoint a => simp [read, key, value, readBack, readValue_of_some a.ofText?_toText, Except.map]
  | keepalive n => simp [read, key, value, readBack, readValue_of_some (u16?_repr n), Except.map]
  | replaceAllowedIps b => simp [read, key, value, readBack, readBool_boolText, Except.map]
  | allowedIp n => simp [read, key, value, readBack, readSubnet_toText, Except.map]

end PeerLine

namespace RequestLine

/-- What stands before the equals sign. -/
def key : RequestLine → String
  | publicKey _ => "public_key"
  | interface l => l.key
  | peer l => l.key

/-- What stands after the equals sign. -/
def value : RequestLine → String
  | publicKey k => k.toHex
  | interface l => l.value
  | peer l => l.value

theorem toText_eq (l : RequestLine) : l.toText = l.key ++ String.singleton '=' ++ l.value := by
  cases l with
  | publicKey k => rfl
  | interface l => exact l.toText_eq
  | peer l => exact l.toText_eq

/-- What may stand before the equals sign. -/
def keys : List String :=
  ["public_key", "private_key", "listen_port", "fwmark", "replace_peers", "remove", "update_only",
    "preshared_key", "endpoint", "persistent_keepalive_interval", "replace_allowed_ips",
    "allowed_ip"]

theorem key_mem (l : RequestLine) : l.key ∈ keys := by
  cases l with
  | publicKey k => simp [key, keys]
  | interface l => cases l <;> simp [key, InterfaceLine.key, keys]
  | peer l => cases l <;> simp [key, PeerLine.key, keys]

theorem key_ne (l : RequestLine) : '=' ∉ l.key.toList := by
  have hall : ∀ k ∈ keys, '=' ∉ k.toList := by decide
  exact hall l.key l.key_mem

/-- Whether a line may stand where it is: interface lines before all peers, peer lines in one. -/
def Fits (inPeer : Bool) : RequestLine → Prop
  | publicKey _ => True
  | interface _ => inPeer = false
  | peer _ => inPeer = true

theorem splitLine_toText (l : RequestLine) : splitLine l.toText = .ok (l.key, l.value) := by
  rw [splitLine, toText_eq, splitOnce_append l.key_ne]

/-- The line that the text of a line is read as. -/
def readBack : RequestLine → RequestLine
  | peer l => peer l.readBack
  | l => l

/-- **A line is read back from its text.** -/
theorem read_toText {inPeer : Bool} {l : RequestLine} (h : l.Fits inPeer) :
    read inPeer l.toText = .ok l.readBack := by
  rw [read, splitLine_toText]
  cases l with
  | publicKey k => simp [key, value, readBack, k.ofHex_toHex, Except.map, Except.mapError]
  | interface l =>
      have hkey : l.key ≠ "public_key" := by cases l <;> simp [InterfaceLine.key]
      have hout : inPeer = false := h
      simp [key, value, readBack, hkey, hout, l.read_key_value, Except.map]
  | peer l =>
      have hkey : l.key ≠ "public_key" := by cases l <;> simp [PeerLine.key]
      have hin : inPeer = true := h
      simp [key, value, readBack, hkey, hin, l.read_key_value, Except.map]

/-! ### Characters of lines -/

theorem graphic_toString (n : Nat) : Graphic (toString n).toList := by
  rw [Nat.toString_eq_repr, Nat.toList_repr]
  exact graphic_toDigits (by omega) (by omega) n

theorem graphic_boolText (b : Bool) : Graphic (boolText b).toList := by
  have hall : ∀ b, (boolText b).toList.all isGraphic = true := by decide
  exact List.all_eq_true.mp (hall b)

theorem graphic_value (l : RequestLine) : Graphic l.value.toList := by
  cases l with
  | publicKey k => exact Hex.graphic_encode _
  | interface l =>
      cases l with
      | privateKey k => exact Hex.graphic_encode _
      | listenPort p => exact graphic_toString _
      | fwmark m => exact graphic_toString _
      | replacePeers b => exact graphic_boolText b
  | peer l =>
      cases l with
      | remove b => exact graphic_boolText b
      | updateOnly b => exact graphic_boolText b
      | presharedKey k => exact Hex.graphic_encode _
      | endpoint a => exact a.graphic_toText
      | keepalive n => exact graphic_toString _
      | replaceAllowedIps b => exact graphic_boolText b
      | allowedIp n => exact n.graphic_toText

theorem graphic_key (l : RequestLine) : Graphic l.key.toList := by
  have hall : (keys.all fun k => k.toList.all isGraphic) = true := by decide
  exact List.all_eq_true.mp (List.all_eq_true.mp hall l.key l.key_mem)

theorem graphic_toText (l : RequestLine) : Graphic l.toText.toList := by
  rw [toText_eq, String.toList_append, String.toList_append]
  refine graphic_append.mpr ⟨graphic_append.mpr ⟨l.graphic_key, ?_⟩, l.graphic_value⟩
  rw [String.toList_singleton]
  exact graphic_cons.mpr ⟨by decide, by simp [Graphic]⟩

end RequestLine

end TunnelMesh
