/-
Numbers come back from their digits.

`Nat.toDigits` writes no leading zero, so that every form accepts what it writes as
long as the number fits.  A number ends where no digit follows; what is behind it is
left alone.
-/
import TunnelMesh.Proofs.Text.Graphic
import TunnelMesh.Text.Digits

namespace TunnelMesh.Text

/-- A text that does not go on with a digit. -/
def NoDigit (radix : Nat) (rest : List Char) : Prop :=
  ∀ c ∈ rest.head?, digitValue? radix c = none

theorem noDigit_nil (radix : Nat) : NoDigit radix [] := by simp [NoDigit]

theorem noDigit_cons {radix : Nat} {c : Char} (h : digitValue? radix c = none)
    (rest : List Char) : NoDigit radix (c :: rest) := by
  intro c' hc'
  rw [List.head?_cons, Option.mem_some_iff] at hc'
  exact hc' ▸ h

/-! ### Single digits -/

theorem toNat_digitChar {d : Nat} (h : d < 16) :
    d.digitChar.toNat = if d < 10 then 48 + d else 87 + d := by
  have hall : ∀ d : Fin 16, d.val.digitChar.toNat = if d.val < 10 then 48 + d.val else 87 + d.val := by
    decide
  exact hall ⟨d, h⟩

theorem digitValue?_digitChar {radix d : Nat} (h : d < radix) (hr : radix ≤ 16) :
    digitValue? radix d.digitChar = some d := by
  rw [digitValue?, toNat_digitChar (by omega)]
  by_cases hd : d < 10
  · have h1 : 48 + d ≤ 57 := by omega
    simp [hd, h, h1]
  · have h1 : ¬ (48 ≤ 87 + d ∧ 87 + d ≤ 57) := by omega
    have h2 : 97 ≤ 87 + d ∧ 87 + d ≤ 122 := by omega
    simp [hd, h1, h2, h]

theorem isGraphic_digitChar {d : Nat} (h : d < 16) : isGraphic d.digitChar = true := by
  rw [isGraphic, toNat_digitChar h, Bool.and_eq_true, decide_eq_true_eq, decide_eq_true_eq]
  split <;> omega

/-! ### Rows of digits -/

theorem ofDigits_concat (radix : Nat) (ds : List Nat) (d : Nat) :
    ofDigits radix (ds ++ [d]) = ofDigits radix ds * radix + d := by
  simp [ofDigits]

/-- The digits of a number stand for it, and only zero starts with a zero. -/
theorem exists_digits {b : Nat} (hb : 1 < b) (n : Nat) :
    ∃ ds : List Nat, Nat.toDigits b n = ds.map Nat.digitChar ∧ (∀ d ∈ ds, d < b) ∧
      ofDigits b ds = n ∧ (ds.head? = some 0 → ds = [0]) := by
  induction n using Nat.base_induction b hb with
  | single m hm =>
      refine ⟨[m], by simp [Nat.toDigits_of_lt_base hm], by simpa using hm, by simp [ofDigits], ?_⟩
      intro h0
      rw [List.head?_cons, Option.some.injEq] at h0
      rw [h0]
  | digit m k hk hm ih =>
      obtain ⟨ds, heq, hlt, hval, hhead⟩ := ih
      refine ⟨ds ++ [k], ?_, ?_, ?_, ?_⟩
      · rw [← Nat.toDigits_append_toDigits hb hm hk, heq, Nat.toDigits_of_lt_base hk]
        simp
      · intro d hd
        rcases List.mem_append.mp hd with hd | hd
        · exact hlt d hd
        · rw [List.mem_singleton.mp hd]
          exact hk
      · rw [ofDigits_concat, hval, Nat.mul_comm]
      · intro h0
        cases ds with
        | nil => exact absurd heq (by simp)
        | cons d ds =>
            -- A leading zero would make the number in front of the last digit zero.
            rw [hhead (by simpa using h0)] at hval
            simp only [ofDigits, List.foldl_cons, List.foldl_nil, Nat.zero_mul] at hval
            omega

theorem graphic_toDigits {b : Nat} (hb : 1 < b) (hb' : b ≤ 16) (n : Nat) :
    Graphic (Nat.toDigits b n) := by
  obtain ⟨ds, heq, hlt, -, -⟩ := exists_digits hb n
  rw [heq]
  intro c hc
  obtain ⟨d, hd, rfl⟩ := List.mem_map.mp hc
  exact isGraphic_digitChar (Nat.lt_of_lt_of_le (hlt d hd) hb')

theorem takeDigits_digits {radix : Nat} (hr : radix ≤ 16) {rest : List Char}
    (hrest : NoDigit radix rest) {ds : List Nat} (hds : ∀ d ∈ ds, d < radix) :
    takeDigits radix (ds.map Nat.digitChar ++ rest) = (ds, rest) := by
  induction ds with
  | nil =>
      cases rest with
      | nil => rfl
      | cons c rest =>
          have hc : digitValue? radix c = none := hrest c (by simp)
          simp [takeDigits, hc]
  | cons d ds ih =>
      have hd := digitValue?_digitChar (hds d (by simp)) hr
      have hrec := ih fun x hx => hds x (by simp [hx])
      simp [takeDigits, hd, hrec]

/-! ### Numbers -/

/-- **A number that fits a form is read back from its digits.** -/
theorem NumberForm.read_toDigits (form : NumberForm) (hb : 1 < form.radix)
    (hr : form.radix ≤ 16) {n : Nat} (hn : n < form.bound)
    (hmax : ∀ m ∈ form.maxDigits, 0 < m ∧ n < Nat.pow form.radix m) {rest : List Char}
    (hrest : NoDigit form.radix rest) :
    form.read (Nat.toDigits form.radix n ++ rest) = some (n, rest) := by
  obtain ⟨ds, heq, hlt, hval, hhead⟩ := exists_digits hb n
  have hne : ds ≠ [] := by
    rintro rfl
    exact Nat.toDigits_ne_nil heq
  have hlen : (Nat.toDigits form.radix n).length = ds.length := by rw [heq, List.length_map]
  have hzero : (!form.leadingZero && ds.head? == some 0 && decide (1 < ds.length)) = false := by
    by_cases h0 : ds.head? = some 0
    · rw [hhead h0]
      simp
    · have : (ds.head? == some 0) = false := by simpa using h0
      simp [this]
  have hempty : ds.isEmpty = false := List.isEmpty_eq_false_iff.mpr hne
  have hbound : decide (form.bound ≤ n) = false := by simpa using hn
  rw [read, heq, takeDigits_digits hr hrest hlt]
  cases hm : form.maxDigits with
  | none => simp only [hzero, hempty, hval, hbound, Bool.or_false, Bool.false_eq_true, if_false]
  | some m =>
      have hlong : decide (m < ds.length) = false := by
        obtain ⟨hpos, hpow⟩ := hmax m (by rw [hm]; rfl)
        have hle := (Nat.length_toDigits_le_iff hb hpos).mpr hpow
        rw [hlen] at hle
        simpa using hle
      simp only [hzero, hempty, hval, hbound, hlong, Bool.or_false, Bool.false_eq_true, if_false]

/-- Without a digit at its start a text is no number. -/
theorem NumberForm.read_of_noDigit (form : NumberForm) {cs : List Char}
    (h : NoDigit form.radix cs) : form.read cs = none := by
  have htake : takeDigits form.radix cs = ([], cs) := by
    cases cs with
    | nil => rfl
    | cons c cs =>
        have hc : digitValue? form.radix c = none := h c (by simp)
        simp [takeDigits, hc]
  rw [read, htake]
  simp

/-- A number is followed by what follows its digits. -/
theorem NumberForm.rest_of_read {form : NumberForm} {cs rest : List Char} {n : Nat}
    (h : form.read cs = some (n, rest)) : rest = (takeDigits form.radix cs).2 := by
  rw [read] at h
  dsimp only at h
  rw [Option.ite_none_left_eq_some] at h
  exact (Prod.mk.inj (Option.some.inj h.2)).2.symm

theorem isDecimal_toDigits (n : Nat) : isDecimal (Nat.toDigits 10 n) = true := by
  rw [isDecimal, Bool.and_eq_true, Bool.not_eq_true', List.isEmpty_eq_false_iff, List.all_eq_true]
  exact ⟨Nat.toDigits_ne_nil, fun c hc => Nat.isDigit_of_mem_toDigits (by omega) (by omega) hc⟩

/-- **A number is read back from its decimal text.** -/
theorem nat?_toString {bound n : Nat} (h : n < bound) : nat? bound (toString n) = some n := by
  obtain ⟨ds, heq, hlt, hval, -⟩ := exists_digits (show 1 < 10 by omega) n
  have htake : takeDigits 10 (Nat.toDigits 10 n) = (ds, []) := by
    have := takeDigits_digits (by omega) (noDigit_nil 10) hlt
    rwa [← heq, List.append_nil] at this
  have hplus : ∀ rest, Nat.toDigits 10 n ≠ '+' :: rest := by
    intro rest hc
    have := Nat.isDigit_of_mem_toDigits (by omega) (by omega) (show '+' ∈ Nat.toDigits 10 n by simp [hc])
    exact absurd this (by decide)
  rw [nat?, Nat.toString_eq_ofList_toDigits, String.toList_ofList]
  split
  · rename_i rest hc
    exact absurd hc (hplus rest)
  · rw [if_pos (isDecimal_toDigits n), htake, hval, if_pos h]

end TunnelMesh.Text
