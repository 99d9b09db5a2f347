/-
Numbers come back from their texts.

A row of digits that goes on with a point or in another line is no date and no time of
day, for these go on with a hyphen or a colon.  A whole number is then read as what its
digits stand for.  What a reader makes of a floating point number depends on its digits
alone; that these stand for the number is asked for, not shown.
-/
import TunnelMesh.Proofs.Text.Digits
import TunnelMesh.Proofs.Toml.Text

namespace TunnelMesh.Toml

open Text

/-! ### Rows of digits -/

/-- A row of decimal digits. -/
def Digits (cs : List Char) : Prop := ∀ c ∈ cs, c.isDigit = true

/-- A text that goes on neither with a digit nor with what joins digits. -/
structure EndsDigits (rest : List Char) : Prop where
  digit : ∀ c ∈ rest.head?, c.isDigit = false
  joint : ∀ c ∈ rest.head?, c ≠ '_' ∧ c ≠ '-' ∧ c ≠ ':'

variable {cs rest : List Char}

theorem EndsLine.endsDigits (h : EndsLine rest) : EndsDigits rest :=
  ⟨fun c hc => h c hc ▸ rfl, fun c hc => h c hc ▸ by decide⟩

theorem endsDigits_nil : EndsDigits [] := by
  constructor <;> simp

theorem endsDigits_point (rest : List Char) : EndsDigits ('.' :: rest) := by
  constructor <;> simp

theorem digits_append {cs' : List Char} (h : Digits cs) (h' : Digits cs') : Digits (cs ++ cs') :=
  fun c hc => (List.mem_append.mp hc).elim (h c) (h' c)

theorem digits_toString (n : Nat) : Digits (toString n).toList := by
  rw [Nat.toString_eq_ofList_toDigits, String.toList_ofList]
  exact fun c hc => Nat.isDigit_of_mem_toDigits (by omega) (by omega) hc

theorem digits_replicate (n : Nat) : Digits (List.replicate n '0') :=
  fun _ hc => (List.mem_replicate.mp hc).2 ▸ rfl

theorem digitValue?_of_isDigit {c : Char} (h : c.isDigit = true) :
    digitValue? 10 c = some (c.toNat - 48) := by
  simp only [Char.isDigit, Bool.and_eq_true, decide_eq_true_eq] at h
  have hlow : 48 ≤ c.toNat := h.1
  have hhigh : c.toNat ≤ 57 := h.2
  have hlt : c.toNat - 48 < 10 := by omega
  simp [digitValue?, hlow, hhigh, hlt]

theorem digitValue?_of_not_isDigit {c : Char} (h : c.isDigit = false) :
    digitValue? 10 c = none := by
  have hout : ¬(48 ≤ c.toNat ∧ c.toNat ≤ 57) := by
    intro hin
    have : c.isDigit = true := by
      simp only [Char.isDigit, Bool.and_eq_true, decide_eq_true_eq]
      exact hin
    rw [h] at this
    cases this
  simp only [digitValue?, Bool.and_eq_true, decide_eq_true_eq, if_neg hout]
  split
  · exact if_neg (by omega)
  · split
    · exact if_neg (by omega)
    · rfl

theorem takeDigits_append (hcs : Digits cs) (hrest : EndsDigits rest) :
    takeDigits 10 (cs ++ rest) = (cs.map fun c => c.toNat - 48, rest) := by
  induction cs with
  | nil =>
      cases rest with
      | nil => rfl
      | cons c rest =>
          have hc := digitValue?_of_not_isDigit (hrest.digit c (by simp))
          simp [takeDigits, hc]
  | cons c cs ih =>
      have hc := digitValue?_of_isDigit (hcs c (by simp))
      simp [takeDigits, hc, ih fun a ha => hcs a (by simp [ha])]

/-! ### No times -/

/-- Digits are taken off a row of digits. -/
theorem readFixed_append (hcs : Digits cs) (hrest : EndsDigits rest) {n v : Nat} {cs' : List Char}
    (h : readFixed n (cs ++ rest) = some (v, cs')) : ∃ ds, Digits ds ∧ cs' = ds ++ rest := by
  rw [readFixed, Option.ite_none_right_eq_some, Option.some.injEq, Prod.mk.injEq] at h
  obtain ⟨⟨hlength, hall⟩, -, rfl⟩ := h
  have hn : n ≤ cs.length := by
    -- otherwise what ends the row would have to be a digit
    by_contra hlt
    cases rest with
    | nil =>
        rw [List.append_nil, List.length_take] at hlength
        omega
    | cons c rest =>
        have hc : c ∈ (cs ++ c :: rest).take n := by
          rw [List.take_append]
          obtain ⟨k, hk⟩ : ∃ k, n - cs.length = k + 1 := ⟨n - cs.length - 1, by omega⟩
          rw [hk]
          simp
        have hdigit := List.all_eq_true.mp hall c hc
        rw [hrest.digit c (by simp)] at hdigit
        cases hdigit
  refine ⟨cs.drop n, fun c hc => hcs c (List.mem_of_mem_drop hc), ?_⟩
  rw [List.drop_append_of_le_length hn]

theorem readChar_append (hcs : Digits cs) {c : Char} (hc : c.isDigit = false)
    (hrest : ∀ a ∈ rest.head?, a ≠ c) : readChar c (cs ++ rest) = none := by
  cases cs with
  | nil =>
      cases rest with
      | nil => rfl
      | cons a rest => exact if_neg fun heq => hrest a (by simp) heq.symm
  | cons a cs =>
      refine if_neg fun heq => ?_
      rw [heq, hcs a (by simp)] at hc
      cases hc

theorem readTime_append (hcs : Digits cs) (hrest : EndsDigits rest) :
    readTime (cs ++ rest) = none := by
  have hdate : readDate (cs ++ rest) = none := by
    rw [readDate]
    cases h : readFixed 4 (cs ++ rest) with
    | none => rfl
    | some r =>
        obtain ⟨ds, hds, hr⟩ := readFixed_append hcs hrest h
        have hchar := readChar_append (c := '-') hds rfl fun a ha => (hrest.joint a ha).2.1
        simp only [bind, Option.bind_some, hr, hchar, Option.bind_none]
  have hclock : readClock (cs ++ rest) = none := by
    rw [readClock, readHourMinute]
    cases h : readFixed 2 (cs ++ rest) with
    | none => rfl
    | some r =>
        obtain ⟨ds, hds, hr⟩ := readFixed_append hcs hrest h
        have hchar := readChar_append (c := ':') hds rfl fun a ha => (hrest.joint a ha).2.2
        simp only [bind, Option.bind_some, hr, hchar, Option.bind_none]
  simp [readTime, hdate, hclock]

/-! ### Whole numbers -/

/-- The digits of a number as a document may have them: no zero before others. -/
structure Whole (cs : List Char) : Prop where
  digits : Digits cs
  ne_nil : cs ≠ []
  zero : cs.head? = some '0' → cs = ['0']

/-- The number that a row of digits stands for. -/
def valueOf (cs : List Char) : Nat := ofDigits 10 (cs.map fun c => c.toNat - 48)

theorem readDigits_append (hcs : Digits cs) (hne : cs ≠ []) (hrest : EndsDigits rest) (fuel : Nat) :
    readDigits 10 (fuel + 1) (cs ++ rest) = some (cs.map fun c => c.toNat - 48, rest) := by
  rw [readDigits, takeDigits_append hcs hrest]
  split
  · rename_i heq
    exact absurd (List.map_eq_nil_iff.mp (Prod.mk.inj heq).1) hne
  · rename_i heq
    exact absurd rfl (hrest.joint '_' (by rw [(Prod.mk.inj heq).2]; rfl)).1
  · rename_i heq
    rw [(Prod.mk.inj heq).1, (Prod.mk.inj heq).2]

theorem toNat_sub_eq_zero {c : Char} (h : c.isDigit = true) (hzero : c.toNat - 48 = 0) :
    c = '0' := by
  simp only [Char.isDigit, Bool.and_eq_true, decide_eq_true_eq] at h
  have hlow : 48 ≤ c.toNat := h.1
  exact Char.toNat_inj.mp (show c.toNat = '0'.toNat by show c.toNat = 48; omega)

/-- How a whole number is read depends on its digits alone. -/
theorem readWhole_append (hcs : Digits cs) (hne : cs ≠ []) (hrest : EndsDigits rest) :
    readWhole (cs ++ rest) = (readWhole cs).map fun r => (r.1, rest) := by
  have halone := readDigits_append hcs hne endsDigits_nil cs.length
  rw [List.append_nil] at halone
  rw [readWhole, readWhole, readDigits_append hcs hne hrest, halone]
  generalize cs.map (fun c => c.toNat - 48) = ds
  match ds with
  | [] => rfl
  | [d] => cases d <;> rfl
  | d :: d' :: ds => cases d <;> rfl

theorem readWhole_whole (h : Whole cs) :
    readWhole cs = some (cs.map fun c => c.toNat - 48, []) := by
  have halone := readDigits_append h.digits h.ne_nil endsDigits_nil cs.length
  rw [List.append_nil] at halone
  rw [readWhole, halone]
  split
  · rename_i heq
    have hmap := (Prod.mk.inj (Option.some.inj heq)).1
    obtain ⟨c, cs, rfl⟩ := List.exists_cons_of_ne_nil h.ne_nil
    rw [List.map_cons, List.cons.injEq] at hmap
    have hzero := h.zero (by rw [toNat_sub_eq_zero (h.digits c (by simp)) hmap.1]; rfl)
    rw [(List.cons.inj hzero).2] at hmap
    cases hmap.2
  · rfl

/-- The digits of a whole number are taken from what starts with them. -/
theorem readWhole_whole_append (h : Whole cs) (hrest : EndsDigits rest) :
    readWhole (cs ++ rest) = some (cs.map fun c => c.toNat - 48, rest) := by
  rw [readWhole_append h.digits h.ne_nil hrest, readWhole_whole h, Option.map_some]

/-- A minus sign, or nothing. -/
def signText (negative : Bool) : List Char := if negative then ['-'] else []

theorem readSign_append (hcs : Digits cs) (hne : cs ≠ []) (negative : Bool) (rest : List Char) :
    readSign (signText negative ++ (cs ++ rest)) = (negative, cs ++ rest) := by
  cases negative with
  | true => rfl
  | false =>
      obtain ⟨c, cs, rfl⟩ := List.exists_cons_of_ne_nil hne
      have hc := hcs c (by simp)
      show readSign (c :: (cs ++ rest)) = _
      unfold readSign
      split
      · rename_i heq
        exact absurd (List.cons.inj heq).1 (ne_of_kind hc rfl)
      · rename_i heq
        exact absurd (List.cons.inj heq).1 (ne_of_kind hc rfl)
      · rfl

theorem readSign_whole (h : Whole cs) (rest : List Char) :
    readSign (cs ++ rest) = (false, cs ++ rest) :=
  readSign_append h.digits h.ne_nil false rest

theorem readExponent_of_endsLine (h : EndsLine rest) : readExponent rest = some (none, rest) := by
  cases rest with
  | nil => rfl
  | cons c rest =>
      rw [h c (by simp)]
      rfl

theorem readFloat_whole (h : Whole cs) (hrest : EndsLine rest) : readFloat (cs ++ rest) = none := by
  rw [readFloat, readSign_whole h]
  simp only [bind, Option.bind_some, readWhole_whole_append h hrest.endsDigits]
  cases rest with
  | nil => rfl
  | cons c rest =>
      rw [hrest c (by simp)]
      rfl

theorem readSpecial_append (hcs : Digits cs) (hne : cs ≠ []) (negative : Bool) (rest : List Char) :
    readSpecial (signText negative ++ (cs ++ rest)) = none := by
  rw [readSpecial, readSign_append hcs hne]
  obtain ⟨c, cs, rfl⟩ := List.exists_cons_of_ne_nil hne
  have hc := hcs c (by simp)
  dsimp only
  split
  · rename_i heq
    exact absurd (List.cons.inj heq).1 (ne_of_kind hc rfl)
  · rename_i heq
    exact absurd (List.cons.inj heq).1 (ne_of_kind hc rfl)
  · rfl

/-- No letter after a zero gives another radix. -/
theorem append_ne_radix (h : Whole cs) (hrest : EndsLine rest) {c : Char} (hline : c ≠ '\n')
    (r : List Char) : cs ++ rest ≠ '0' :: c :: r := by
  intro heq
  obtain ⟨d, ds, hcs⟩ := List.exists_cons_of_ne_nil h.ne_nil
  rw [hcs, List.cons_append, List.cons.injEq] at heq
  have hds := h.zero (by rw [hcs, heq.1]; rfl)
  rw [hcs, heq.1, List.cons.injEq] at hds
  rw [hds.2, List.nil_append] at heq
  exact hline (hrest c (by rw [heq.2]; rfl))

theorem readInt_whole (h : Whole cs) (hrest : EndsLine rest) (hfits : fits (valueOf cs) = true) :
    readInt (cs ++ rest) = some (int (valueOf cs), rest) := by
  unfold readInt
  split
  · rename_i heq
    exact absurd heq (append_ne_radix h hrest (by decide) _)
  · rename_i heq
    exact absurd heq (append_ne_radix h hrest (by decide) _)
  · rename_i heq
    exact absurd heq (append_ne_radix h hrest (by decide) _)
  · simp only [readSign_whole h, readWhole_whole_append h hrest.endsDigits, Option.bind_some]
    exact if_pos hfits

/-- A whole number is read from its digits. -/
theorem readNumber_whole (h : Whole cs) (hrest : EndsLine rest) (hfits : fits (valueOf cs) = true) :
    readNumber (cs ++ rest) = some (int (valueOf cs), rest) := by
  have hspecial : readSpecial (cs ++ rest) = none :=
    readSpecial_append h.digits h.ne_nil false rest
  rw [readNumber, readTime_append h.digits hrest.endsDigits, readFloat_whole h hrest, hspecial,
    readInt_whole h hrest hfits]
  rfl

/-- The digits of a number are as a document may have them, and stand for the number. -/
theorem whole_toString (n : Nat) : Whole (toString n).toList ∧ valueOf (toString n).toList = n := by
  obtain ⟨ds, heq, hlt, hval, hhead⟩ := exists_digits (show 1 < 10 by omega) n
  have htext : (toString n).toList = ds.map Nat.digitChar := by
    rw [Nat.toString_eq_ofList_toDigits, String.toList_ofList, heq]
  have hvalue (d : Nat) (hd : d < 10) : d.digitChar.toNat - 48 = d := by
    rw [toNat_digitChar (by omega), if_pos hd]
    omega
  refine ⟨⟨digits_toString n, ?_, fun hzero => ?_⟩, ?_⟩
  · rw [Nat.toString_eq_ofList_toDigits, String.toList_ofList]
    exact Nat.toDigits_ne_nil
  · rw [htext] at hzero ⊢
    cases ds with
    | nil => cases hzero
    | cons d ds =>
        have hd := hvalue d (hlt d (by simp))
        rw [Option.some.inj hzero] at hd
        rw [hhead (by rw [← hd]; rfl)]
        rfl
  · have hmap : ds.map (fun d => d.digitChar.toNat - 48) = ds := by
      conv_rhs => rw [← List.map_id ds]
      exact List.map_congr_left fun d hd => hvalue d (hlt d hd)
    rw [valueOf, htext, List.map_map]
    exact (congrArg (ofDigits 10) hmap).trans hval

/-- **A number of up to 63 bits is read from its decimal text.** -/
theorem readNumber_toString {n : Nat} (hn : n < Nat.pow 2 63) (hrest : EndsLine rest) :
    readNumber ((toString n).toList ++ rest) = some (int n, rest) := by
  obtain ⟨hwhole, hvalue⟩ := whole_toString n
  have hfits : fits (valueOf (toString n).toList) = true := by
    rw [hvalue, fits, Bool.and_eq_true, decide_eq_true_eq, decide_eq_true_eq]
    have : Nat.pow 2 63 = 9223372036854775808 := rfl
    omega
  rw [readNumber_whole hwhole hrest hfits, hvalue]

/-! ### Floating point numbers -/

/-- How floating point numbers are written. -/
inductive FloatText : List Char → Prop where
  | nan : FloatText ['n', 'a', 'n']
  | inf (negative : Bool) : FloatText (signText negative ++ ['i', 'n', 'f'])
  /-- Digits on both sides of a point. -/
  | point (negative : Bool) {ds ps : List Char} (hds : Digits ds) (hds' : ds ≠ [])
      (hps : Digits ps) (hps' : ps ≠ []) : FloatText (signText negative ++ (ds ++ '.' :: ps))

theorem toList_positional (k : Nat) (e : Int) :
    ∃ ds, Digits ds ∧ ds ≠ [] ∧
      if 0 ≤ e then (Decimal.positional k e).toList = ds
      else ∃ ps, Digits ps ∧ ps ≠ [] ∧ (Decimal.positional k e).toList = ds ++ '.' :: ps := by
  have hk := (whole_toString k).1
  by_cases he : 0 ≤ e
  · refine ⟨(toString k).toList ++ List.replicate e.toNat '0',
      digits_append hk.digits (digits_replicate _), by simp, ?_⟩
    simp [Decimal.positional, he]
  · -- There are digits enough for one in front of the point.
    have hpad : Digits (Decimal.padZeros ((-e).toNat + 1) (toString k)).toList := by
      rw [Decimal.padZeros, String.toList_append, String.toList_ofList]
      exact digits_append (digits_replicate _) hk.digits
    have hlength : (-e).toNat + 1 ≤
        (Decimal.padZeros ((-e).toNat + 1) (toString k)).toList.length := by
      simp only [Decimal.padZeros, String.toList_append, String.toList_ofList, List.length_append,
        List.length_replicate, String.length_toList]
      omega
    have hpositional : Decimal.positional k e =
        String.ofList ((Decimal.padZeros ((-e).toNat + 1) (toString k)).toList.take
          ((Decimal.padZeros ((-e).toNat + 1) (toString k)).length - (-e).toNat)) ++ "." ++
        String.ofList ((Decimal.padZeros ((-e).toNat + 1) (toString k)).toList.drop
          ((Decimal.padZeros ((-e).toNat + 1) (toString k)).length - (-e).toNat)) := by
      rw [Decimal.positional]
      exact if_neg he
    generalize Decimal.padZeros ((-e).toNat + 1) (toString k) = s at hpad hlength hpositional
    rw [String.length_toList] at hlength
    refine ⟨s.toList.take (s.length - (-e).toNat), fun c hc => hpad c (List.mem_of_mem_take hc),
      ?_, ?_⟩
    · rw [Ne, List.take_eq_nil_iff, ← List.length_eq_zero_iff, String.length_toList]
      omega
    · rw [if_neg he]
      refine ⟨s.toList.drop (s.length - (-e).toNat), fun c hc => hpad c (List.mem_of_mem_drop hc),
        ?_, ?_⟩
      · rw [Ne, List.drop_eq_nil_iff, String.length_toList]
        omega
      · simp [hpositional]

theorem floatText_text (x : Float) : FloatText (floatForm.text x).toList := by
  rw [Decimal.FloatForm.text]
  split
  · exact .nan
  · rename_i negative _
    have h := FloatText.inf negative
    cases negative <;> exact h
  · rename_i negative m q _
    have hsign : (if negative then "-" else "").toList = signText negative := by
      cases negative <;> rfl
    have hzero : Digits ['0'] := by simp [Digits]
    dsimp only [floatForm]
    split
    · have h := FloatText.point negative hzero (by simp) hzero (by simp)
      simpa [hsign] using h
    · obtain ⟨ds, hds, hds', hform⟩ :=
        toList_positional (Decimal.shortest m q).1 (Decimal.shortest m q).2
      rw [Option.any_none, Option.any_none, Bool.or_false, if_neg (by decide)]
      by_cases he : 0 ≤ (Decimal.shortest m q).2
      · rw [if_pos he] at hform
        have h := FloatText.point negative hds hds' hzero (by simp)
        simpa [hsign, he, hform] using h
      · rw [if_neg he] at hform
        obtain ⟨ps, hps, hps', hform⟩ := hform
        have h := FloatText.point negative hds hds' hps hps'
        simpa [hsign, he, hform] using h

/-- What is made of digits around a point depends on them alone. -/
theorem readFloat_point (negative : Bool) {ds ps : List Char} (hds : Digits ds) (hds' : ds ≠ [])
    (hps : Digits ps) (hps' : ps ≠ []) (hrest : EndsLine rest) :
    readFloat (signText negative ++ (ds ++ '.' :: (ps ++ rest))) =
      (readFloat (signText negative ++ (ds ++ '.' :: ps))).map fun r => (r.1, rest) := by
  have hnil : EndsLine [] := by simp [EndsLine]
  have halone := readDigits_append hps hps' endsDigits_nil ps.length
  rw [List.append_nil] at halone
  rw [readFloat, readFloat, readSign_append hds hds', readSign_append hds hds']
  simp only [bind, readWhole_append hds hds' (endsDigits_point _)]
  cases readWhole ds with
  | none => rfl
  | some r =>
      simp only [Option.map_some, Option.bind_some, halone,
        readDigits_append hps hps' hrest.endsDigits, readExponent_of_endsLine hrest,
        readExponent_of_endsLine hnil, Option.isNone_some, Bool.false_and, Bool.false_eq_true,
        if_false]
      -- Only a number out of range is refused, in either place.
      split <;> rfl

/-- No date and no time of day starts with a character that is no digit. -/
theorem readTime_of_not_isDigit {c : Char} (hc : c.isDigit = false) (cs : List Char) :
    readTime (c :: cs) = none := by
  have hfixed (n : Nat) : readFixed (n + 1) (c :: cs) = none := by
    rw [readFixed]
    exact if_neg fun h => by simp [hc] at h
  simp [readTime, readDate, readClock, readHourMinute, hfixed]

theorem readTime_point (negative : Bool) {ds : List Char} (hds : Digits ds) (rest : List Char) :
    readTime (signText negative ++ (ds ++ '.' :: rest)) = none := by
  cases negative with
  | true => exact readTime_of_not_isDigit rfl _
  | false =>
      show readTime (ds ++ '.' :: rest) = none
      exact readTime_append hds (endsDigits_point rest)

theorem readInt_ne_float (cs : List Char) (x : Float) (rest : List Char) :
    readInt cs ≠ some (float x, rest) := by
  unfold readInt
  split
  all_goals
    dsimp only
    intro h
    obtain ⟨r, -, h⟩ := Option.bind_eq_some_iff.mp h
    split at h <;> simp at h

theorem readNumber_nan (rest : List Char) :
    readNumber (['n', 'a', 'n'] ++ rest) = some (float (0.0 / 0.0), rest) := by
  rw [readNumber, List.cons_append, readTime_of_not_isDigit rfl]
  rfl

theorem readNumber_inf (negative : Bool) (rest : List Char) :
    readNumber (signText negative ++ ['i', 'n', 'f'] ++ rest) =
      some (float (if negative then -(1.0 / 0.0) else 1.0 / 0.0), rest) := by
  cases negative with
  | true =>
      show readNumber ('-' :: 'i' :: 'n' :: 'f' :: rest) = _
      rw [readNumber, readTime_of_not_isDigit rfl]
      rfl
  | false =>
      show readNumber ('i' :: 'n' :: 'f' :: rest) = _
      rw [readNumber, readTime_of_not_isDigit rfl]
      rfl

/-- The text of a number stands for it. -/
def Stands (x : Float) : Prop := readNumber (floatForm.text x).toList = some (float x, [])

theorem stands_of_text {x : Float} {t : String} (htext : floatForm.text x = t)
    (hread : readNumber t.toList = some (float x, [])) : Stands x := by
  rw [Stands, htext, hread]

/-- **A number for which its text stands is read from the text wherever a line has it.** -/
theorem readNumber_text {x : Float} (h : Stands x) (hrest : EndsLine rest) :
    readNumber ((floatForm.text x).toList ++ rest) = some (float x, rest) := by
  have htext := floatText_text x
  rw [Stands] at h
  generalize (floatForm.text x).toList = cs at h htext
  cases htext with
  | nan =>
      have hx := (readNumber_nan []).symm.trans h
      rw [readNumber_nan, (Prod.mk.inj (Option.some.inj hx)).1]
  | inf negative =>
      have halone := readNumber_inf negative []
      rw [List.append_nil] at halone
      have hx := halone.symm.trans h
      rw [readNumber_inf, (Prod.mk.inj (Option.some.inj hx)).1]
  | point negative hds hds' hps hps' =>
      rename_i ds ps
      have htime := readTime_point negative hds ps
      have hspecial := readSpecial_append hds hds' negative ('.' :: ps)
      have hread : readFloat (signText negative ++ (ds ++ '.' :: ps)) = some (float x, []) := by
        rw [readNumber, htime, hspecial, Option.none_or, Option.none_or, Option.or_eq_some_iff] at h
        exact h.resolve_right fun hint => readInt_ne_float _ _ _ hint.2
      rw [List.append_assoc, List.append_assoc, List.cons_append, readNumber,
        readTime_point negative hds, readFloat_point negative hds hds' hps hps' hrest, hread]
      rfl

end TunnelMesh.Toml
