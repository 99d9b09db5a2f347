/-
The lines of a text before its first empty one.

A reader that stops at an empty line sees no more of a text than these.  What follows
the empty line may be anything, and of two texts with the same lines neither can be
told from the other.  For any lines there is a text that has them: each line is ended
by a carriage return and a line feed, so that a carriage return at the end of the line
itself is not taken for a part of the ending.
-/
import Mathlib.Data.List.TakeWhile
import TunnelMesh.Proofs.Text.Lines

namespace TunnelMesh.Text

/-- The lines of a text before its first empty one. -/
def opening (s : String) : List String := (lines s).takeWhile (· ≠ "")

/-- A text with the given lines. -/
def unlines (ls : List String) : String := String.join (ls.map (· ++ "\r\n"))

/-! ### Texts of lines -/

theorem newline_notMem_linesFrom (cur cs : List Char) (hcur : '\n' ∉ cur) :
    ∀ l ∈ linesFrom cur cs, '\n' ∉ l.toList := by
  fun_induction linesFrom cur cs with
  | case1 cur hempty => simp
  | case2 cur hempty => simpa using hcur
  | case3 cur rest ih =>
      have hdrop : '\n' ∉ dropReturn cur.reverse := by
        unfold dropReturn
        split
        · rename_i tail heq
          rw [List.reverse_reverse] at heq
          rw [heq] at hcur
          simpa using hcur
        · simpa using hcur
      intro l hl
      rcases List.mem_cons.mp hl with rfl | hl
      · simpa using hdrop
      · exact ih (by simp) l hl
  | case4 cur c rest hc ih =>
      refine ih ?_
      simpa [hcur] using fun h : '\n' = c => hc h.symm

/-- No line of a text holds the end of a line. -/
theorem newline_notMem_of_mem_lines {s l : String} (h : l ∈ lines s) : '\n' ∉ l.toList :=
  newline_notMem_linesFrom [] s.toList (by simp) l h

theorem dropReturn_concat (cs : List Char) : dropReturn (cs ++ ['\r']) = cs := by
  simp [dropReturn]

/-- **A text of lines has these lines.** -/
theorem lines_unlines {ls : List String} (h : ∀ l ∈ ls, '\n' ∉ l.toList) :
    lines (unlines ls) = ls := by
  have htext : (unlines ls).toList = ls.flatMap fun l => l.toList ++ ['\r', '\n'] := by
    rw [unlines, String.toList_join, List.flatMap_map]
    exact List.flatMap_congr fun l _ => String.toList_append
  rw [lines, htext]
  clear htext
  induction ls with
  | nil => rfl
  | cons l ls ih =>
      have hl : ∀ c ∈ l.toList ++ ['\r'], c ≠ '\n' := by
        intro c hc
        rcases List.mem_append.mp hc with hc | hc
        · rintro rfl
          exact h l (by simp) hc
        · rw [List.mem_singleton.mp hc]
          decide
      have hsplit : l.toList ++ ['\r', '\n'] = (l.toList ++ ['\r']) ++ ['\n'] := by simp
      rw [List.flatMap_cons, hsplit, List.append_assoc, List.singleton_append,
        linesFrom_append hl, linesFrom, ih fun l' hl' => h l' (by simp [hl'])]
      simp [dropReturn_concat]

/-! ### Up to the first empty line -/

/-- A list in which `a` is has a first `a`. -/
theorem exists_first {α : Type} [DecidableEq α] {a : α} {l : List α} (h : a ∈ l) :
    ∃ rest, l = l.takeWhile (· ≠ a) ++ a :: rest := by
  induction l with
  | nil => simp at h
  | cons b l ih =>
      by_cases hb : b = a
      · exact ⟨l, by simp [hb]⟩
      · obtain ⟨rest, hrest⟩ := ih (by simpa [Ne.symm hb] using h)
        refine ⟨rest, ?_⟩
        rw [List.takeWhile_cons_of_pos (by simpa using hb), List.cons_append, ← hrest]

theorem takeWhile_first {α : Type} [DecidableEq α] {a : α} {l : List α} (h : a ∉ l)
    (rest : List α) : (l ++ a :: rest).takeWhile (· ≠ a) = l := by
  rw [List.takeWhile_append_of_pos]
  · simp
  · intro b hb
    simpa using fun hba : b = a => h (hba ▸ hb)

theorem empty_notMem_opening (s : String) : "" ∉ opening s := by
  intro h
  simpa using List.mem_takeWhile_imp h

theorem opening_of_lines_eq {s : String} {ls rest : List String} (h : lines s = ls ++ "" :: rest)
    (hls : "" ∉ ls) : opening s = ls := by
  rw [opening, h, takeWhile_first hls]

/-- What is in front of an empty line stays when the text goes on. -/
theorem exists_linesFrom_append (cur cs rest : List Char) {ls after : List String}
    (h : linesFrom cur cs = ls ++ "" :: after) :
    ∃ after', linesFrom cur (cs ++ rest) = ls ++ "" :: after' := by
  fun_induction linesFrom cur cs generalizing ls with
  | case1 cur hempty => simp at h
  | case2 cur hempty =>
      -- The open line has a character, so it is not the empty one.
      obtain ⟨-, hl⟩ | ⟨ls, -, hl⟩ := List.append_eq_cons_iff.mp h.symm
      · have hnil : cur.reverse = [] := String.ofList_eq_empty_iff.mp (List.cons.inj hl).1.symm
        exact absurd (by simpa using hnil) hempty
      · simp at hl
  | case3 cur tail ih =>
      rw [List.cons_append, linesFrom]
      cases ls with
      | nil => exact ⟨_, by rw [(List.cons.inj h).1]; rfl⟩
      | cons l ls =>
          obtain ⟨hl, htail⟩ := List.cons.inj h
          obtain ⟨after', hafter⟩ := ih htail
          exact ⟨after', by rw [hafter, hl]; rfl⟩
  | case4 cur c tail hc ih =>
      rw [List.cons_append, linesFrom.eq_3 _ _ _ hc]
      exact ih h

/-- **A text with an empty line keeps the lines before it when it goes on.** -/
theorem opening_append {s : String} (h : "" ∈ lines s) (t : String) :
    "" ∈ lines (s ++ t) ∧ opening (s ++ t) = opening s := by
  obtain ⟨rest, hrest⟩ := exists_first h
  obtain ⟨rest', hrest'⟩ := exists_linesFrom_append [] s.toList t.toList hrest
  have hlines : lines (s ++ t) = opening s ++ "" :: rest' := by
    rw [lines, String.toList_append, hrest', opening]
  refine ⟨?_, opening_of_lines_eq hlines (empty_notMem_opening s)⟩
  rw [hlines]
  simp

end TunnelMesh.Text
