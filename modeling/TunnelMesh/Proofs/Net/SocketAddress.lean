/-
Addresses with ports come back from their texts, without their flow labels.

A version 4 address starts with a digit, so that it is never taken for one in brackets.  A flow
label is not in the text, so that an address comes back as it was exactly if it has none.
-/
import TunnelMesh.Net.SocketAddress
import TunnelMesh.Proofs.Net.Ipv6

namespace TunnelMesh.Net.SocketAddress

open Text

/-! ### Flow labels -/

/-- An address without its flow label. -/
def unlabelled : SocketAddress → SocketAddress
  | .v4 ip p => .v4 ip p
  | .v6 ip p _ s => .v6 ip p 0 s

theorem unlabelled_eq_self_iff {a : SocketAddress} : a.unlabelled = a ↔ a.flow = 0 := by
  cases a with
  | v4 ip p => exact iff_of_true rfl rfl
  | v6 ip p f s => simp [unlabelled, flow, eq_comm]

/-! ### Ports and scopes -/

theorem readPort?_toDigits (p : UInt16) :
    readPort? (':' :: Nat.toDigits 10 p.toNat) = some p := by
  have hten : portForm.radix = 10 := rfl
  have hread := portForm.read_toDigits (by omega) (by omega) (show p.toNat < 65536 from p.toNat_lt)
    (by simp [portForm]) (noDigit_nil _)
  rw [hten, List.append_nil] at hread
  rw [readPort?, hread]
  simp

/-- The characters of a scope, with the bracket after it. -/
def scopeChars (s : UInt32) (rest : List Char) : List Char :=
  if s = 0 then ']' :: rest else '%' :: (Nat.toDigits 10 s.toNat ++ ']' :: rest)

theorem readScope?_scopeChars (s : UInt32) (rest : List Char) :
    readScope? (scopeChars s rest) = some (s, rest) := by
  rw [scopeChars]
  split
  · rename_i hs
    rw [hs]
    rfl
  · have hten : scopeForm.radix = 10 := rfl
    have hread := scopeForm.read_toDigits (by omega) (by omega)
      (show s.toNat < 4294967296 from s.toNat_lt) (by simp [scopeForm])
      (noDigit_cons (show digitValue? scopeForm.radix ']' = none by decide) rest)
    rw [hten] at hread
    rw [readScope?, hread]
    simp

theorem endsGroups_scopeChars (s : UInt32) (rest : List Char) :
    Ipv6.EndsGroups (scopeChars s rest) := by
  rw [scopeChars]
  split
  · exact Ipv6.endsGroups_cons (by decide) (by decide) (by decide) _
  · exact Ipv6.endsGroups_cons (by decide) (by decide) (by decide) _

/-! ### Whole addresses -/

theorem toList_toText_v4 (ip : Ipv4) (p : UInt16) :
    (v4 ip p).toText.toList = ip.toText.toList ++ ':' :: Nat.toDigits 10 p.toNat := by
  rw [toText, String.toList_append, String.toList_append, Nat.toString_eq_repr, Nat.toList_repr,
    List.append_assoc]
  rfl

theorem toList_toText_v6 (ip : Ipv6) (p : UInt16) (f s : UInt32) :
    (v6 ip p f s).toText.toList =
      '[' :: (ip.toText.toList ++ scopeChars s (':' :: Nat.toDigits 10 p.toNat)) := by
  rw [toText, scopeChars]
  by_cases hs : s = 0
  · simp [hs]
  · simp [hs]

theorem graphic_toText (a : SocketAddress) : Graphic a.toText.toList := by
  have hdigits := graphic_toDigits (b := 10) (by omega) (by omega)
  cases a with
  | v4 ip p =>
      rw [toList_toText_v4]
      exact graphic_append.mpr ⟨ip.graphic_toText, graphic_cons.mpr ⟨by decide, hdigits _⟩⟩
  | v6 ip p f s =>
      rw [toList_toText_v6]
      refine graphic_cons.mpr ⟨by decide, graphic_append.mpr ⟨ip.graphic_toText, ?_⟩⟩
      have hport : Graphic (']' :: ':' :: Nat.toDigits 10 p.toNat) :=
        graphic_cons.mpr ⟨by decide, graphic_cons.mpr ⟨by decide, hdigits _⟩⟩
      rw [scopeChars]
      split
      · exact hport
      · exact graphic_cons.mpr ⟨by decide, graphic_append.mpr ⟨hdigits _, hport⟩⟩

/-- **An address with a port is read back from its text, without its flow label.** -/
theorem ofText?_toText (a : SocketAddress) : ofText? a.toText = some a.unlabelled := by
  cases a with
  | v4 ip p =>
      have hread := Ipv4.read_toText false ip
        (noDigit_cons (show digitValue? 10 ':' = none by decide) (Nat.toDigits 10 p.toNat))
      have hbracket : ∀ rest, ip.toText.toList ++ ':' :: Nat.toDigits 10 p.toNat ≠ '[' :: rest := by
        intro rest hc
        rw [hc, Ipv6.ipv4_read_of_noDigit (noDigit_cons (by decide) rest) false] at hread
        exact absurd hread (by simp)
      rw [ofText?, toList_toText_v4]
      split
      · rename_i rest hc
        exact absurd hc (hbracket rest)
      · simp [hread, readPort?_toDigits, unlabelled]
  | v6 ip p f s =>
      have hread := Ipv6.read_toText false ip
        (endsGroups_scopeChars s (':' :: Nat.toDigits 10 p.toNat))
      rw [ofText?, toList_toText_v6]
      simp [hread, readScope?_scopeChars, readPort?_toDigits, unlabelled]

end TunnelMesh.Net.SocketAddress
