/-
Bytes come back from their hexadecimal text.
-/
import TunnelMesh.Proofs.Text.Graphic
import TunnelMesh.Text.Hex

namespace TunnelMesh.Text.Hex

theorem isGraphic_digit {n : Nat} (h : n < 16) : isGraphic (digit n) = true := by
  have hall : ∀ n : Fin 16, isGraphic (digit n) = true := by decide
  exact hall ⟨n, h⟩

theorem value?_digit {n : Nat} (h : n < 16) : value? (digit n).toUInt8 = some n := by
  have hall : ∀ n : Fin 16, value? (digit n).toUInt8 = some n.val := by decide
  exact hall ⟨n, h⟩

theorem halves_lt (b : UInt8) : b.toNat / 16 < 16 ∧ b.toNat % 16 < 16 := by
  have := b.toNat_lt
  omega

theorem toList_encode (bytes : List UInt8) :
    (encode bytes).toList = bytes.flatMap encodeByte := String.toList_ofList

theorem graphic_encode (bytes : List UInt8) : Graphic (encode bytes).toList := by
  rw [toList_encode]
  intro c hc
  obtain ⟨b, -, hc⟩ := List.mem_flatMap.mp hc
  obtain ⟨hhi, hlo⟩ := halves_lt b
  rcases List.mem_cons.mp hc with rfl | hc
  · exact isGraphic_digit hhi
  · rw [List.mem_singleton.mp hc]
    exact isGraphic_digit hlo

/-- The text of bytes that follows an offset. -/
theorem decodePairs_encode (bytes : List UInt8) (offset : Nat) :
    decodePairs offset ((bytes.flatMap encodeByte).map Char.toUInt8) = .ok bytes := by
  induction bytes generalizing offset with
  | nil => rfl
  | cons b bytes ih =>
      obtain ⟨hhi, hlo⟩ := halves_lt b
      have hb : UInt8.ofNat (16 * (b.toNat / 16) + b.toNat % 16) = b := by
        rw [Nat.div_add_mod, UInt8.ofNat_toNat]
      simp only [List.flatMap_cons, encodeByte, List.cons_append, List.nil_append, List.map_cons,
        decodePairs, value?_digit hhi, value?_digit hlo, ih, hb]

/-- **Bytes are read back from their text.** -/
theorem decode_encode (bytes : List UInt8) : decode (encode bytes) = .ok bytes := by
  have heven : ((encode bytes).toUTF8.toList).length % 2 = 0 := by
    rw [toUTF8_of_graphic (graphic_encode bytes), toList_encode, List.length_map]
    induction bytes with
    | nil => rfl
    | cons b bytes ih =>
        rw [List.flatMap_cons, List.length_append, encodeByte, List.length_cons]
        simpa using ih
  rw [decode, if_neg (by omega), toUTF8_of_graphic (graphic_encode bytes), toList_encode]
  exact decodePairs_encode bytes 0

end TunnelMesh.Text.Hex
