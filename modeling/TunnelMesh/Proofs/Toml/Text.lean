/-
Strings come back from their texts.

A string is written in one of four ways.  Between double quotes every character is
either written as it is or by an escape, and a reader takes one or the other; between
single quotes everything stands as it is, and what matters is that the quotes which end
the text are the first that can.
-/
import Mathlib.Data.List.Basic
import Mathlib.Order.MinMax
import TunnelMesh.Toml.Printer
import TunnelMesh.Toml.Scalar

namespace TunnelMesh.Toml

/-! ### Characters -/

/-- A character of a kind is none that is not of the kind. -/
theorem ne_of_kind {kind : Char → Bool} {c d : Char} (hc : kind c = true) (hd : kind d = false) :
    c ≠ d := by
  rintro rfl
  rw [hc] at hd
  cases hd

theorem newline?_of_ne {c : Char} (hline : c ≠ '\n') (hreturn : c ≠ '\r') (rest : List Char) :
    newline? (c :: rest) = none := by
  unfold newline?
  split
  · rename_i heq
    exact absurd (List.cons.inj heq).1 hline
  · rename_i heq
    exact absurd (List.cons.inj heq).1 hreturn
  · rfl

/-! ### Escapes -/

/-- The digits of an escape by number are read as the number. -/
theorem read_escapeDigits {n : Nat} (hn : n < 128) :
    Text.NumberForm.read ⟨16, some 4, true, 0x110000⟩
      ['0', '0', if n / 16 < 10 then Char.ofNat (48 + n / 16) else Char.ofNat (55 + n / 16),
        if n % 16 < 10 then Char.ofNat (48 + n % 16) else Char.ofNat (55 + n % 16)] =
      some (n, []) := by
  have hall : ∀ n : Fin 128, Text.NumberForm.read ⟨16, some 4, true, 0x110000⟩
      ['0', '0',
        if n.val / 16 < 10 then Char.ofNat (48 + n.val / 16) else Char.ofNat (55 + n.val / 16),
        if n.val % 16 < 10 then Char.ofNat (48 + n.val % 16) else Char.ofNat (55 + n.val % 16)] =
      some (n.val, []) := by
    decide
  exact hall ⟨n, hn⟩

/-- What stands for a character between double quotes: the character itself, or a backslash and what
a reader takes for the character. -/
inductive Escaped (long : Bool) (c : Char) : List Char → Prop where
  | plain (hquote : c ≠ '"') (hslash : c ≠ '\\') (hc : isPlain c = true) : Escaped long c [c]
  | line (hlong : long = true) (hc : c = '\n') : Escaped long c [c]
  | escape {e : Char} {es : List Char} (hspace : isSpace e = false)
      (hline : e ≠ '\n' ∧ e ≠ '\r')
      (hread : ∀ rest, readEscape (e :: es ++ rest) = some (c, rest)) : Escaped long c ('\\' :: e :: es)

theorem escaped_escape (long : Bool) (c : Char) : Escaped long c (escape long c) := by
  unfold escape
  split
  · subst c
    exact .escape (by decide) (by decide) fun _ => rfl
  split
  · subst c
    exact .escape (by decide) (by decide) fun _ => rfl
  split
  · subst c
    cases long with
    | true => exact .line rfl rfl
    | false => exact .escape (by decide) (by decide) fun _ => rfl
  split
  · subst c
    exact .escape (by decide) (by decide) fun _ => rfl
  split
  · subst c
    exact .escape (by decide) (by decide) fun _ => rfl
  split
  · rename_i hc
    rcases hc with rfl | rfl
    · exact .escape (by decide) (by decide) fun _ => rfl
    · exact .escape (by decide) (by decide) fun _ => rfl
  split
  · rename_i hc
    refine .escape (by decide) (by decide) fun rest => ?_
    have hread := read_escapeDigits (show c.toNat < 128 by omega)
    have hvalue : (!(decide (55296 ≤ c.toNat) && decide (c.toNat < 57344))) = true := by
      simp
      omega
    simp only [readEscape, List.cons_append, List.nil_append, List.take_succ_cons, List.take_zero,
      List.drop_succ_cons, List.drop_zero, hread, List.length_cons, List.length_nil, hvalue,
      and_self, if_true, Char.ofNat_toNat]
  · rename_i hquote hcontrol
    simp only [not_or] at hquote hcontrol
    refine .plain hquote.1 hquote.2 ?_
    simp only [isPlain, Bool.or_eq_true, Bool.and_eq_true, decide_eq_true_eq, bne_iff_ne]
    exact .inr ⟨by omega, hcontrol.2⟩

/-- Every character is written by one character at least. -/
theorem length_le_escape (long : Bool) (cs : List Char) :
    cs.length ≤ (cs.flatMap (escape long)).length := by
  induction cs with
  | nil => exact Nat.le_refl _
  | cons c cs ih =>
      have hpos : 0 < (escape long c).length := by
        have h := escaped_escape long c
        generalize escape long c = es at h ⊢
        cases h <;> simp
      rw [List.flatMap_cons, List.length_append, List.length_cons]
      omega

/-! ### Double quotes -/

theorem readBasic_escape {c : Char} {es : List Char} (h : Escaped false c es) (acc : List Char)
    (fuel : Nat) (rest : List Char) :
    readBasic acc (fuel + 1) (es ++ rest) = readBasic (c :: acc) fuel rest := by
  cases h with
  | plain hquote hslash hc => simp [readBasic, hquote, hslash, hc]
  | line hlong => cases hlong
  | escape hspace hline hread =>
      rw [List.cons_append, readBasic, if_neg (by decide), if_pos rfl, hread]

/-- A string in double quotes is read up to its end. -/
theorem readBasic_escaped (rest cs acc : List Char) {fuel : Nat} (hfuel : cs.length < fuel) :
    readBasic acc fuel (cs.flatMap (escape false) ++ '"' :: rest) =
      some (String.ofList (acc.reverse ++ cs), rest) := by
  induction cs generalizing acc fuel with
  | nil =>
      obtain ⟨fuel, rfl⟩ := Nat.exists_eq_add_of_lt hfuel
      simp [readBasic]
  | cons c cs ih =>
      obtain ⟨fuel, rfl⟩ := Nat.exists_eq_add_of_lt hfuel
      rw [List.flatMap_cons, List.append_assoc, readBasic_escape (escaped_escape false c),
        ih (c :: acc) (by simp; omega)]
      simp

/-- Quotes that a text does not go on with. -/
def NoQuote (quote : Char) (rest : List Char) : Prop := ∀ c ∈ rest.head?, c ≠ quote

theorem quoteRun_end {quote : Char} {rest : List Char} (h : NoQuote quote rest) :
    quoteRun quote (quote :: quote :: quote :: rest) = 3 := by
  cases rest with
  | nil => simp [quoteRun]
  | cons c rest =>
      have hc : c ≠ quote := h c (by simp)
      simp [quoteRun, hc]

theorem readLong_end {quote : Char} {rest : List Char} (h : NoQuote quote rest) (acc : List Char)
    (fuel : Nat) : readLong quote acc (fuel + 1) (quote :: quote :: quote :: rest) =
      some (String.ofList acc.reverse, rest) := by
  rw [readLong, if_pos rfl, quoteRun_end h]
  simp

theorem readLong_escape {c : Char} {es : List Char} (h : Escaped true c es) (acc : List Char)
    (fuel : Nat) (rest : List Char) :
    readLong '"' acc (fuel + 1) (es ++ rest) = readLong '"' (c :: acc) fuel rest := by
  cases h with
  | plain hquote hslash hc => simp [readLong, hquote, hslash, hc]
  | line hlong hc =>
      subst hc
      rfl
  | @escape e es hspace hline hread =>
      have hjoin : joinLines (e :: es ++ rest) = none := by
        have hskip : skipSpace (e :: es ++ rest) = e :: (es ++ rest) := by
          simp [skipSpace, hspace]
        rw [joinLines, hskip, newline?_of_ne hline.1 hline.2, Option.map_none]
      rw [List.cons_append, readLong, if_neg (by decide), if_pos ⟨rfl, rfl⟩, hjoin, hread]

/-- A string over several lines in double quotes is read up to its end. -/
theorem readLong_escaped {rest : List Char} (h : NoQuote '"' rest) (cs acc : List Char) {fuel : Nat}
    (hfuel : cs.length < fuel) :
    readLong '"' acc fuel (cs.flatMap (escape true) ++ '"' :: '"' :: '"' :: rest) =
      some (String.ofList (acc.reverse ++ cs), rest) := by
  induction cs generalizing acc fuel with
  | nil =>
      obtain ⟨fuel, rfl⟩ := Nat.exists_eq_add_of_lt hfuel
      rw [List.flatMap_nil, List.nil_append, readLong_end h, List.append_nil]
  | cons c cs ih =>
      obtain ⟨fuel, rfl⟩ := Nat.exists_eq_add_of_lt hfuel
      rw [List.flatMap_cons, List.append_assoc, readLong_escape (escaped_escape true c),
        ih (c :: acc) (by simp; omega)]
      simp

/-! ### Single quotes -/

/-- Whether a character may stand between single quotes, over several lines. -/
def isLiteral (c : Char) : Bool := isPlain c || c == '\n'

/-- A string in single quotes is read up to its end. -/
theorem readLiteral_plain (rest cs acc : List Char) (h : ∀ c ∈ cs, c ≠ '\'' ∧ isPlain c = true) :
    readLiteral acc (cs ++ '\'' :: rest) = some (String.ofList (acc.reverse ++ cs), rest) := by
  induction cs generalizing acc with
  | nil => simp [readLiteral]
  | cons c cs ih =>
      obtain ⟨hquote, hplain⟩ := h c (by simp)
      rw [List.cons_append, readLiteral, if_neg hquote, if_pos hplain,
        ih (c :: acc) fun c hc => h c (by simp [hc])]
      simp

/-! Runs of quotes. -/

theorem longestRun_mono {run run' best best' : Nat} (hrun : run ≤ run') (hbest : best ≤ best')
    (cs : List Char) : longestRun run best cs ≤ longestRun run' best' cs := by
  induction cs generalizing run run' best best' with
  | nil => exact max_le_max hrun hbest
  | cons c cs ih =>
      rw [longestRun, longestRun]
      split
      · exact ih (Nat.succ_le_succ hrun) hbest
      · exact ih (Nat.le_refl 0) (max_le_max hrun hbest)

theorem best_le_longestRun (run best : Nat) (cs : List Char) : best ≤ longestRun run best cs := by
  induction cs generalizing run best with
  | nil => exact Nat.le_max_right _ _
  | cons c cs ih =>
      rw [longestRun]
      split
      · exact ih _ _
      · exact Nat.le_trans (Nat.le_max_right _ _) (ih _ _)

/-- The quotes at the start of a text are a run. -/
theorem lead_le_longestRun (run best : Nat) (cs : List Char) :
    run + (cs.takeWhile (· == '\'')).length ≤ longestRun run best cs := by
  induction cs generalizing run best with
  | nil => exact Nat.le_max_left _ _
  | cons c cs ih =>
      rw [longestRun]
      split
      · rename_i hc
        have := ih (run + 1) best
        simp only [hc, List.takeWhile_cons, beq_self_eq_true, if_true, List.length_cons]
        omega
      · rename_i hc
        have hnone : ((c :: cs).takeWhile (· == '\'')) = [] := by
          simp [hc]
        rw [hnone]
        exact Nat.le_trans (Nat.le_max_left _ _) (best_le_longestRun _ _ _)

/-- A text between single quotes over several lines: nothing in it ends it. -/
structure Literal (cs : List Char) : Prop where
  plain : ∀ c ∈ cs, isLiteral c = true
  short : longestRun 0 0 cs < 3
  last : cs.getLast? ≠ some '\''

theorem Literal.tail {c : Char} {cs : List Char} (h : Literal (c :: cs)) : Literal cs where
  plain a ha := h.plain a (by simp [ha])
  short := by
    refine Nat.lt_of_le_of_lt ?_ h.short
    rw [longestRun]
    split <;> exact longestRun_mono (Nat.zero_le _) (Nat.zero_le _) cs
  last := by
    cases cs with
    | nil => nofun
    | cons a cs => exact h.last

/-- Quotes in such a text are fewer than three in a row. -/
theorem Literal.quoteRun_lt {c : Char} {cs : List Char} (h : Literal (c :: cs)) (rest : List Char) :
    quoteRun '\'' (c :: cs ++ rest) < 3 := by
  have hlead := lead_le_longestRun 0 0 (c :: cs)
  have hshort := h.short
  have hsome : ∃ a ∈ c :: cs, (a == '\'') = false := by
    refine ⟨(c :: cs).getLast (by simp), List.getLast_mem _, ?_⟩
    rw [beq_eq_false_iff_ne]
    intro hlast
    exact h.last (by rw [List.getLast?_eq_some_getLast (by simp), hlast])
  have htake : (c :: cs ++ rest).takeWhile (· == '\'') = (c :: cs).takeWhile (· == '\'') := by
    obtain ⟨a, ha, hne⟩ := hsome
    rw [List.takeWhile_append, if_neg]
    intro hall
    have hself := (List.takeWhile_prefix (· == '\'')).eq_of_length hall
    have hquote := List.all_eq_true.mp (List.all_takeWhile (p := (· == '\'')) (l := c :: cs)) a
      (hself.symm ▸ ha)
    rw [hne] at hquote
    cases hquote
  rw [quoteRun, ← List.take_takeWhile, htake, List.length_take]
  omega

/-- A string over several lines in single quotes is read up to its end. -/
theorem readLong_literal {rest : List Char} (hrest : NoQuote '\'' rest) {cs : List Char}
    (h : Literal cs) (acc : List Char) {fuel : Nat} (hfuel : cs.length < fuel) :
    readLong '\'' acc fuel (cs ++ '\'' :: '\'' :: '\'' :: rest) =
      some (String.ofList (acc.reverse ++ cs), rest) := by
  induction cs generalizing acc fuel with
  | nil =>
      obtain ⟨fuel, rfl⟩ := Nat.exists_eq_add_of_lt hfuel
      rw [List.nil_append, readLong_end hrest, List.append_nil]
  | cons c cs ih =>
      obtain ⟨fuel, rfl⟩ := Nat.exists_eq_add_of_lt hfuel
      have hnext : readLong '\'' acc ((c :: cs).length + fuel + 1)
          (c :: cs ++ '\'' :: '\'' :: '\'' :: rest) = readLong '\'' (c :: acc)
            ((c :: cs).length + fuel) (cs ++ '\'' :: '\'' :: '\'' :: rest) := by
        have hrun := h.quoteRun_lt ('\'' :: '\'' :: '\'' :: rest)
        rw [List.cons_append] at hrun ⊢
        rw [readLong]
        split
        · rw [if_neg (by omega)]
        · rename_i hquote
          rw [if_neg (by simp)]
          split
          · rfl
          · rename_i hplain
            have hc := h.plain c (by simp)
            obtain rfl : c = '\n' := by simpa [isLiteral, hplain] using hc
            rfl
      rw [hnext, ih h.tail (c :: acc) (by simp; omega)]
      simp

/-! ### Strings -/

/-- A text that ends, or goes on in another line. -/
def EndsLine (rest : List Char) : Prop := ∀ c ∈ rest.head?, c = '\n'

theorem EndsLine.noQuote {rest : List Char} (h : EndsLine rest) {quote : Char}
    (hquote : quote ≠ '\n') : NoQuote quote rest :=
  fun c hc => h c hc ▸ hquote.symm

theorem literal_of_prefersLiteral {cs : List Char} (h : prefersLiteral cs = true) : Literal cs := by
  simp only [prefersLiteral, Bool.and_eq_true, List.all_eq_true, decide_eq_true_eq,
    bne_iff_ne] at h
  refine ⟨fun c hc => ?_, h.1.2, h.2⟩
  have hall := h.1.1.2 c hc
  simp only [Bool.or_eq_true] at hall
  simp only [isLiteral, isPlain, Bool.or_eq_true]
  tauto

theorem ne_nil_of_prefersLiteral {cs : List Char} (h : prefersLiteral cs = true) : cs ≠ [] := by
  rintro rfl
  cases h

/-! What a reader of strings does at each kind of opening quotes. -/

theorem readStr_basic {cs : List Char} (h : ∀ rest, cs ≠ '"' :: '"' :: rest) :
    readStr ('"' :: cs) = readBasic [] (cs.length + 1) cs := by
  unfold readStr
  split
  · rename_i heq
    exact absurd (List.cons.inj heq).2 (h _)
  · rename_i heq
    exact absurd (List.cons.inj heq).1 (by decide)
  · rename_i heq
    rw [(List.cons.inj heq).2]
  · rename_i heq
    exact absurd (List.cons.inj heq).1 (by decide)
  · rename_i hnone _
    exact absurd rfl (hnone _)

theorem readStr_literal {cs : List Char} (h : ∀ rest, cs ≠ '\'' :: '\'' :: rest) :
    readStr ('\'' :: cs) = readLiteral [] cs := by
  unfold readStr
  split
  · rename_i heq
    exact absurd (List.cons.inj heq).1 (by decide)
  · rename_i heq
    exact absurd (List.cons.inj heq).2 (h _)
  · rename_i heq
    exact absurd (List.cons.inj heq).1 (by decide)
  · rename_i heq
    rw [(List.cons.inj heq).2]
  · rename_i hnone
    exact absurd rfl (hnone _)

/-- What is written between double quotes does not start with one. -/
theorem escaped_ne_quotes (cs : List Char) {rest : List Char} (hrest : NoQuote '"' rest)
    (r : List Char) : cs.flatMap (escape false) ++ '"' :: rest ≠ '"' :: '"' :: r := by
  cases cs with
  | nil =>
      intro heq
      exact hrest '"' (by rw [(List.cons.inj heq).2]; rfl) rfl
  | cons c cs =>
      have hc := escaped_escape false c
      rw [List.flatMap_cons]
      generalize escape false c = es at hc
      intro heq
      cases hc with
      | plain hquote => exact hquote (List.cons.inj heq).1
      | line hlong => cases hlong
      | escape => exact absurd (List.cons.inj heq).1 (by decide)

theorem readStr_short (cs : List Char) {rest : List Char} (hrest : NoQuote '"' rest) :
    readStr ('"' :: (cs.flatMap (escape false) ++ '"' :: rest)) =
      some (String.ofList cs, rest) := by
  rw [readStr_basic (escaped_ne_quotes cs hrest)]
  refine (readBasic_escaped rest cs [] ?_).trans (by simp)
  have hlength := length_le_escape false cs
  rw [List.length_append]
  omega

theorem readStr_escaped (cs : List Char) {rest : List Char} (hrest : NoQuote '"' rest) :
    readStr ('"' :: '"' :: '"' :: '\n' ::
      (cs.flatMap (escape true) ++ '"' :: '"' :: '"' :: rest)) = some (String.ofList cs, rest) := by
  refine (readLong_escaped hrest cs [] ?_).trans (by simp)
  have hlength := length_le_escape true cs
  rw [List.length_cons, List.length_append]
  omega

theorem readStr_lines {cs : List Char} (h : Literal cs) {rest : List Char}
    (hrest : NoQuote '\'' rest) :
    readStr ('\'' :: '\'' :: '\'' :: '\n' :: (cs ++ '\'' :: '\'' :: '\'' :: rest)) =
      some (String.ofList cs, rest) := by
  refine (readLong_literal hrest h [] ?_).trans (by simp)
  rw [List.length_cons, List.length_append]
  omega

/-- A text without line feeds may stand between three single quotes on one line. -/
theorem readStr_line {cs : List Char} (h : Literal cs) (hne : cs ≠ []) (hplain : '\n' ∉ cs)
    {rest : List Char} (hrest : NoQuote '\'' rest) :
    readStr ('\'' :: '\'' :: '\'' :: (cs ++ '\'' :: '\'' :: '\'' :: rest)) =
      some (String.ofList cs, rest) := by
  have hfirst : dropFirstNewline (cs ++ '\'' :: '\'' :: '\'' :: rest) =
      cs ++ '\'' :: '\'' :: '\'' :: rest := by
    obtain ⟨c, cs, rfl⟩ := List.exists_cons_of_ne_nil hne
    have hc : isPlain c = true := by
      have hliteral := h.plain c (by simp)
      rcases Bool.or_eq_true _ _ |>.mp hliteral with hc | hc
      · exact hc
      · exact absurd (by simp [beq_iff_eq.mp hc]) hplain
    rw [dropFirstNewline, List.cons_append, newline?_of_ne (ne_of_kind hc rfl) (ne_of_kind hc rfl)]
    rfl
  show readLong '\'' [] _ (dropFirstNewline _) = _
  rw [hfirst]
  refine (readLong_literal hrest h [] ?_).trans (by simp)
  rw [List.length_append]
  omega

theorem readStr_quoted {cs : List Char} (h : Literal cs) (hne : cs ≠ []) (hplain : '\n' ∉ cs)
    (hquote : '\'' ∉ cs) (rest : List Char) :
    readStr ('\'' :: (cs ++ '\'' :: rest)) = some (String.ofList cs, rest) := by
  have hall : ∀ c ∈ cs, c ≠ '\'' ∧ isPlain c = true := by
    intro c hc
    refine ⟨fun heq => hquote (heq ▸ hc), ?_⟩
    rcases Bool.or_eq_true _ _ |>.mp (h.plain c hc) with hp | hp
    · exact hp
    · exact absurd (beq_iff_eq.mp hp ▸ hc) hplain
  rw [readStr_literal, readLiteral_plain rest cs [] hall]
  · simp
  · intro r heq
    obtain ⟨c, cs, rfl⟩ := List.exists_cons_of_ne_nil hne
    exact (hall c (by simp)).1 (List.cons.inj heq).1

/-- **A string is read back from its text.** -/
theorem readStr_strText (s : String) {rest : List Char} (hrest : EndsLine rest) :
    readStr ((strText s).toList ++ rest) = some (s, rest) := by
  have hs : String.ofList s.toList = s := String.ofList_toList
  generalize s.toList = cs at hs
  subst hs
  have hdouble : NoQuote '"' rest := hrest.noQuote (by decide)
  have hsingle : NoQuote '\'' rest := hrest.noQuote (by decide)
  unfold strText
  simp only [String.toList_ofList]
  by_cases hliteral : prefersLiteral cs = true
  · have hcs := literal_of_prefersLiteral hliteral
    have hne := ne_nil_of_prefersLiteral hliteral
    rw [if_pos hliteral]
    by_cases hlong : '\n' ∈ cs
    · simpa [hlong] using readStr_lines hcs hsingle
    by_cases hquote : '\'' ∈ cs
    · simpa [hlong, hquote] using readStr_line hcs hne hlong hsingle
    · simpa [hlong, hquote] using readStr_quoted hcs hne hlong hquote rest
  · rw [if_neg hliteral]
    by_cases hlong : '\n' ∈ cs
    · simpa [hlong] using readStr_escaped cs hdouble
    · simpa [hlong] using readStr_short cs hdouble

end TunnelMesh.Toml
