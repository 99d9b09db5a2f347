/-
Version 4 addresses come back from their text.

The text of an address may be followed by anything but a digit.  Texts in which the
first row of decimal digits is not followed by a point hold no address.
-/
import TunnelMesh.Net.Address
import TunnelMesh.Proofs.Text.Digits

namespace TunnelMesh.Net

open Text

namespace Ipv4

/-! ### Octets -/

theorem ofOctets_octets (ip : Ipv4) :
    ofOctets (ip.bits.toNat / 16777216) (ip.bits.toNat / 65536 % 256) (ip.bits.toNat / 256 % 256)
      (ip.bits.toNat % 256) = ip := by
  have hval : ((ip.bits.toNat / 16777216 * 256 + ip.bits.toNat / 65536 % 256) * 256 +
      ip.bits.toNat / 256 % 256) * 256 + ip.bits.toNat % 256 = ip.bits.toNat := by
    omega
  rw [ofOctets, hval, BitVec.ofNat_toNat, BitVec.setWidth_eq]

theorem toList_toText (ip : Ipv4) :
    ip.toText.toList = Nat.toDigits 10 (ip.bits.toNat / 16777216) ++ '.' ::
      (Nat.toDigits 10 (ip.bits.toNat / 65536 % 256) ++ '.' ::
        (Nat.toDigits 10 (ip.bits.toNat / 256 % 256) ++ '.' ::
          Nat.toDigits 10 (ip.bits.toNat % 256))) := by
  simp [toText, octets]

theorem graphic_toText (ip : Ipv4) : Graphic ip.toText.toList := by
  have hdigits := graphic_toDigits (b := 10) (by omega) (by omega)
  have hpoint : ∀ {cs : List Char}, Graphic cs → Graphic ('.' :: cs) :=
    fun h => graphic_cons.mpr ⟨by decide, h⟩
  rw [toList_toText]
  refine graphic_append.mpr ⟨hdigits _, hpoint ?_⟩
  refine graphic_append.mpr ⟨hdigits _, hpoint ?_⟩
  exact graphic_append.mpr ⟨hdigits _, hpoint (hdigits _)⟩

/-! ### Reading -/

theorem read_octet (zeros : Bool) {n : Nat} (h : n < 256) {rest : List Char}
    (hrest : NoDigit 10 rest) :
    (octetForm zeros).read (Nat.toDigits 10 n ++ rest) = some (n, rest) := by
  have hten : (octetForm zeros).radix = 10 := rfl
  refine (octetForm zeros).read_toDigits (by omega) (by omega) h (fun m hm => ?_) hrest
  rw [← Option.some.inj hm]
  exact ⟨by omega, show n < 10 ^ 3 by omega⟩

/-- **An address is read back from its text.** -/
theorem read_toText (zeros : Bool) (ip : Ipv4) {rest : List Char} (hrest : NoDigit 10 rest) :
    read zeros (ip.toText.toList ++ rest) = some (ip, rest) := by
  have hpoint : ∀ cs, NoDigit 10 ('.' :: cs) := fun cs => noDigit_cons (by decide) cs
  have hlt := ip.bits.isLt
  rw [toList_toText, read]
  simp only [List.append_assoc, List.cons_append]
  rw [read_octet zeros (by omega) (hpoint _)]
  simp only [Option.bind_eq_bind, Option.bind_some, readNextOctet]
  rw [read_octet zeros (by omega) (hpoint _)]
  simp only [Option.bind_some]
  rw [read_octet zeros (by omega) (hpoint _)]
  simp only [Option.bind_some]
  rw [read_octet zeros (by omega) hrest]
  simp only [Option.bind_some, ofOctets_octets]
  rfl

/-- No point follows the first row of decimal digits. -/
def NoPoint (cs : List Char) : Prop := ∀ c ∈ (takeDigits 10 cs).2.head?, c ≠ '.'

theorem read_of_noPoint (zeros : Bool) {cs : List Char} (h : NoPoint cs) : read zeros cs = none := by
  rw [read]
  cases ho : (octetForm zeros).read cs with
  | none => rfl
  | some o =>
      obtain ⟨n, rest⟩ := o
      rw [show rest = (takeDigits 10 cs).2 from NumberForm.rest_of_read ho]
      simp only [Option.bind_eq_bind, Option.bind_some]
      have hnext : readNextOctet zeros (takeDigits 10 cs).2 = none := by
        unfold readNextOctet
        split
        · rename_i rest heq
          exact absurd rfl (h '.' (by rw [heq]; rfl))
        · rfl
      rw [hnext]
      rfl

theorem noPoint_of_noDigit {cs : List Char} (h : NoDigit 10 cs) (hne : ∀ c ∈ cs.head?, c ≠ '.') :
    NoPoint cs := by
  cases cs with
  | nil => simp [NoPoint, takeDigits]
  | cons c cs =>
      have hc : digitValue? 10 c = none := h c (by simp)
      simpa [NoPoint, takeDigits, hc] using hne

/-- Hexadecimal digits are no address on their own. -/
theorem noPoint_digits {ds : List Nat} (hds : ∀ d ∈ ds, d < 16) {rest : List Char}
    (hrest : NoPoint rest) : NoPoint (ds.map Nat.digitChar ++ rest) := by
  induction ds with
  | nil => exact hrest
  | cons d ds ih =>
      have hrec := ih fun x hx => hds x (by simp [hx])
      rw [NoPoint, List.map_cons, List.cons_append, takeDigits]
      cases hd : digitValue? 10 d.digitChar with
      | none =>
          -- Reading stops at a letter.
          intro c hc hpoint
          rw [List.head?_cons, Option.mem_some_iff] at hc
          have hval := digitValue?_digitChar (hds d (by simp)) (Nat.le_refl 16)
          have hnone : digitValue? 16 '.' = none := by decide
          rw [hc, hpoint, hnone] at hval
          exact absurd hval (by simp)
      | some v => exact hrec

theorem noPoint_toDigits (n : Nat) {rest : List Char} (hrest : NoPoint rest) :
    NoPoint (Nat.toDigits 16 n ++ rest) := by
  obtain ⟨ds, heq, hlt, -, -⟩ := exists_digits (show 1 < 16 by omega) n
  rw [heq]
  exact noPoint_digits hlt hrest

end Ipv4

end TunnelMesh.Net
