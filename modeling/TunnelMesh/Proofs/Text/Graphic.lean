/-
Texts of graphic characters.

Keys, addresses and lines are written with the visible characters of ASCII alone.
Cutting off blanks leaves such a text as it is, its bytes are the codes of its
characters, and no line ends in it.
-/
import Mathlib.Data.List.Basic
import TunnelMesh.Text.Lines

namespace TunnelMesh.Text

/-- Whether a character is a visible one of ASCII. -/
def isGraphic (c : Char) : Bool := 0x21 ≤ c.toNat && c.toNat ≤ 0x7E

/-- A row of visible characters. -/
def Graphic (cs : List Char) : Prop := ∀ c ∈ cs, isGraphic c = true

theorem graphic_cons {c : Char} {cs : List Char} :
    Graphic (c :: cs) ↔ isGraphic c = true ∧ Graphic cs :=
  List.forall_mem_cons

theorem graphic_append {cs cs' : List Char} :
    Graphic (cs ++ cs') ↔ Graphic cs ∧ Graphic cs' := by
  simp only [Graphic, List.mem_append]
  constructor
  · intro h
    exact ⟨fun c hc => h c (Or.inl hc), fun c hc => h c (Or.inr hc)⟩
  · rintro ⟨h, h'⟩ c (hc | hc)
    · exact h c hc
    · exact h' c hc

/-! ### Blanks -/

theorem isBlank_of_isGraphic {c : Char} (h : isGraphic c = true) : isBlank c = false := by
  simp only [isGraphic, Bool.and_eq_true, decide_eq_true_eq] at h
  simp only [isBlank, Bool.or_eq_false_iff, Bool.and_eq_false_iff, decide_eq_false_iff_not,
    beq_eq_false_iff_ne, ne_eq]
  omega

theorem dropWhile_eq_self {α : Type} {p : α → Bool} {xs : List α} (h : ∀ x ∈ xs, p x = false) :
    xs.dropWhile p = xs := by
  cases xs with
  | nil => rfl
  | cons x xs => rw [List.dropWhile_cons_of_neg (by simp [h x (by simp)])]

/-- **A text of graphic characters has no blanks to cut off.** -/
theorem trim_of_graphic {s : String} (h : Graphic s.toList) : trim s = s := by
  have hblank : ∀ c ∈ s.toList, isBlank c = false := fun c hc => isBlank_of_isGraphic (h c hc)
  have hrev : ∀ c ∈ s.toList.reverse, isBlank c = false :=
    fun c hc => hblank c (List.mem_reverse.mp hc)
  rw [trim, dropBoth, dropWhile_eq_self hblank, dropWhile_eq_self hrev, List.reverse_reverse,
    String.ofList_toList]

/-! ### Bytes -/

theorem toList_loop (bs : ByteArray) (i : Nat) (r : List UInt8) :
    ByteArray.toList.loop bs i r = r.reverse ++ bs.data.toList.drop i := by
  unfold ByteArray.toList.loop
  split
  · rename_i hi
    have hi' : i < bs.data.toList.length := by simpa using hi
    rw [toList_loop bs (i + 1), List.drop_eq_getElem_cons hi']
    have hget : bs.get! i = bs.data.toList[i] := by
      rw [ByteArray.get!, Array.getElem_toList, getElem!_pos bs.data i (by simpa using hi')]
    rw [hget]
    simp
  · rename_i hi
    have hi' : bs.data.toList.length ≤ i := by
      have : bs.data.toList.length = bs.size := by simp
      omega
    rw [List.drop_eq_nil_of_le hi', List.append_nil]
termination_by bs.size - i

theorem toUTF8_toList (s : String) :
    s.toUTF8.toList = s.toList.flatMap String.utf8EncodeChar := by
  rw [ByteArray.toList, toList_loop, String.toUTF8_eq_toByteArray, ← String.utf8Encode_toList,
    List.utf8Encode, List.toList_data_toByteArray]
  simp

theorem utf8EncodeChar_of_isGraphic {c : Char} (h : isGraphic c = true) :
    String.utf8EncodeChar c = [c.toUInt8] := by
  refine String.utf8EncodeChar_eq_singleton (Char.utf8Size_eq_one_iff.mpr ?_)
  simp only [isGraphic, Bool.and_eq_true, decide_eq_true_eq] at h
  show c.val.toNat ≤ 127
  exact Nat.le_trans h.2 (by omega)

/-- **The bytes of a text of graphic characters are the codes of its characters.** -/
theorem toUTF8_of_graphic {s : String} (h : Graphic s.toList) :
    s.toUTF8.toList = s.toList.map Char.toUInt8 := by
  rw [toUTF8_toList, List.map_eq_flatMap]
  exact List.flatMap_congr fun c hc => utf8EncodeChar_of_isGraphic (h c hc)

end TunnelMesh.Text
