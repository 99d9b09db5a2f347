/-
Lines come back from a text of lines, and the two parts of a line from the line.
-/
import TunnelMesh.Proofs.Text.Graphic

namespace TunnelMesh.Text

/-! ### Lines -/

theorem ne_of_isGraphic {c : Char} (h : isGraphic c = true) : c ≠ '\n' ∧ c ≠ '\r' := by
  constructor
  · rintro rfl
    exact absurd h (by decide)
  · rintro rfl
    exact absurd h (by decide)

theorem dropReturn_of_graphic {line : List Char} (h : Graphic line) : dropReturn line = line := by
  unfold dropReturn
  split
  · rename_i rest heq
    have hmem : '\r' ∈ line := by
      rw [← List.mem_reverse, heq]
      exact List.mem_cons_self
    exact absurd rfl (ne_of_isGraphic (h _ hmem)).2
  · rfl

theorem linesFrom_append {cs : List Char} (h : ∀ c ∈ cs, c ≠ '\n') (cur rest : List Char) :
    linesFrom cur (cs ++ rest) = linesFrom (cs.reverse ++ cur) rest := by
  induction cs generalizing cur with
  | nil => rfl
  | cons c cs ih =>
      rw [List.cons_append, linesFrom.eq_3 _ _ _ (h c (by simp)), ih fun d hd => h d (by simp [hd])]
      simp

theorem linesFrom_line {s : String} (h : Graphic s.toList) (rest : List Char) :
    linesFrom [] (s.toList ++ '\n' :: rest) = s :: linesFrom [] rest := by
  rw [linesFrom_append fun c hc => (ne_of_isGraphic (h c hc)).1, linesFrom]
  rw [List.append_nil, List.reverse_reverse, dropReturn_of_graphic h, String.ofList_toList]

theorem linesFrom_flatMap {ls : List String} (h : ∀ l ∈ ls, Graphic l.toList) (rest : List Char) :
    linesFrom [] ((ls.flatMap fun l => l.toList ++ ['\n']) ++ rest) = ls ++ linesFrom [] rest := by
  induction ls with
  | nil => rfl
  | cons l ls ih =>
      rw [List.flatMap_cons, List.append_assoc, List.append_assoc, List.singleton_append,
        linesFrom_line (h l (by simp)), ih fun l' hl' => h l' (by simp [hl']), List.cons_append]

/-- **Lines of graphic characters are read back, with the empty one at the end.** -/
theorem lines_join {ls : List String} (h : ∀ l ∈ ls, Graphic l.toList) :
    lines (String.join (ls.map fun l => l ++ "\n") ++ "\n") = ls ++ [""] := by
  have htext : (String.join (ls.map fun l => l ++ "\n") ++ "\n").toList =
      (ls.flatMap fun l => l.toList ++ ['\n']) ++ ['\n'] := by
    rw [String.toList_append, String.toList_join, List.flatMap_map]
    congr 1
    exact List.flatMap_congr fun l _ => String.toList_append
  rw [lines, htext, linesFrom_flatMap h]
  rfl

/-! ### Parts of a line -/

theorem splitFirst_append {p : Char → Bool} {a : List Char} (ha : ∀ c ∈ a, p c = false) {c : Char}
    (hc : p c = true) (b : List Char) : splitFirst p (a ++ c :: b) = some (a, b) := by
  induction a with
  | nil => simp [splitFirst, hc]
  | cons d a ih =>
      have hd : p d = false := ha d (by simp)
      simp [splitFirst, hd, ih fun x hx => ha x (by simp [hx])]

/-- **A text is split where its first part ends.** -/
theorem splitOnce_append {sep : Char} {key : String} (h : sep ∉ key.toList) (value : String) :
    splitOnce sep (key ++ String.singleton sep ++ value) = some (key, value) := by
  have hkey : ∀ c ∈ key.toList, (c == sep) = false := by
    intro c hc
    rw [beq_eq_false_iff_ne]
    rintro rfl
    exact h hc
  have htext : (key ++ String.singleton sep ++ value).toList = key.toList ++ sep :: value.toList := by
    simp
  rw [splitOnce, htext, splitFirst_append hkey (by simp)]
  simp

end TunnelMesh.Text
