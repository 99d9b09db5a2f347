/-
Subnets and addresses with ports come back from their texts.
-/
import TunnelMesh.Net.SocketAddress
import TunnelMesh.Net.Subnet
import TunnelMesh.Proofs.Net.Ipv6

namespace TunnelMesh.Net

open Text

namespace Subnet

theorem toList_toText (n : Subnet) :
    n.toText.toList = n.address.toText.toList ++ '/' :: Nat.toDigits 10 n.length := by
  rw [toText, String.toList_append, String.toList_append, Nat.toString_eq_repr, Nat.toList_repr,
    List.append_assoc]
  rfl

theorem graphic_toText (n : Subnet) : Graphic n.toText.toList := by
  rw [toList_toText]
  refine graphic_append.mpr ⟨?_, graphic_cons.mpr ⟨by decide, ?_⟩⟩
  · cases n.address with
    | v4 ip => exact ip.graphic_toText
    | v6 ip => exact ip.graphic_toText
  · exact graphic_toDigits (by omega) (by omega) _

/-- A length that fits is read back. -/
theorem read_length {a : Address} {n : Nat} (h : n ≤ a.width) :
    (lengthForm a).read (Nat.toDigits 10 n) = some (n, []) := by
  have hform : (lengthForm a).radix = 10 ∧ n < (lengthForm a).bound ∧
      ∀ m ∈ (lengthForm a).maxDigits, 0 < m ∧ n < 10 ^ m := by
    cases a with
    | v4 ip =>
        have hle : n ≤ 32 := h
        refine ⟨rfl, show n < 33 by omega, fun m hm => ?_⟩
        rw [← Option.some.inj hm]
        exact ⟨by omega, by omega⟩
    | v6 ip =>
        have hle : n ≤ 128 := h
        refine ⟨rfl, show n < 129 by omega, fun m hm => ?_⟩
        rw [← Option.some.inj hm]
        exact ⟨by omega, by omega⟩
  obtain ⟨hten, hbound, hmax⟩ := hform
  have hread := (lengthForm a).read_toDigits (by omega) (by omega) hbound (by rwa [hten])
    (noDigit_nil _)
  rwa [hten, List.append_nil] at hread

theorem readLength?_toDigits (n : Subnet) :
    readLength? n.address ('/' :: Nat.toDigits 10 n.length) = some n := by
  rw [readLength?, read_length n.length_le]
  exact dif_pos n.length_le

/-- **A subnet is read back from its text.** -/
theorem ofText?_toText (n : Subnet) : ofText? n.toText = some n := by
  have hslash : Ipv6.EndsGroups ('/' :: Nat.toDigits 10 n.length) :=
    Ipv6.endsGroups_cons (by decide) (by decide) (by decide) _
  have hlength := readLength?_toDigits n
  rw [ofText?, toList_toText]
  cases ha : n.address with
  | v4 ip =>
      rw [ha] at hlength
      have hread := Ipv4.read_toText true ip (Ipv6.noDigit_ten hslash.noDigit)
      simp only [Address.toText, hread, Option.bind_some, hlength]
  | v6 ip =>
      rw [ha] at hlength
      have hnone := Ipv6.ipv4_read_toText true ip hslash
      have hread := Ipv6.read_toText true ip hslash
      simp only [Address.toText, hnone, hread, Option.bind_none, Option.bind_some, hlength]

end Subnet

end TunnelMesh.Net
