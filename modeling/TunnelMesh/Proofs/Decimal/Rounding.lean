/-
How a number is rounded to the nearest floating point number.

A number is given as a mantissa and two bits for what was cut off: the first bit behind
the mantissa, and whether any bit after that is set.  Cutting off further bits keeps this
true, and at the end the mantissa is rounded to the nearest one, a half to the even one.
`Rounded` says what comes out: how many units of which power of two.  From it alone it is
decided on which side of two neighbouring floating point numbers the result lies.
-/
import Mathlib.Algebra.Order.Field.Rat
import Mathlib.Tactic.FieldSimp
import Mathlib.Tactic.Linarith
import Mathlib.Tactic.NormNum
import Mathlib.Tactic.Positivity
import Mathlib.Tactic.Ring

namespace TunnelMesh.Decimal

open Float.Model Float.Model.UnpackedFloat

/-! ### Cutting bits off -/

/-- A mantissa with its two bits tells a number as far as rounding needs to know it. -/
def Tells (em : ExtendedMantissa) (x : ℚ) : Prop :=
  match em.roundBit, em.stickyBit with
  | false, false => x = em.mantissa
  | false, true => em.mantissa < x ∧ x < em.mantissa + 1 / 2
  | true, false => x = em.mantissa + 1 / 2
  | true, true => em.mantissa + 1 / 2 < x ∧ x < em.mantissa + 1

variable {em : ExtendedMantissa} {x : ℚ}

theorem tells_exact (m : ℕ) : Tells (.ofMantissaAndAccuracy m .exact) m := rfl

theorem tells_fraction (num : ℕ) {den : ℕ} (hden : 0 < den) :
    Tells (.ofMantissaAndAccuracy (num / den) (accuracyOfFraction (num % den) den))
      ((num : ℚ) / den) := by
  have hdenq : (0 : ℚ) < den := by exact_mod_cast hden
  have hsplit : (num : ℚ) / den = (num / den : ℕ) + ((num % den : ℕ) : ℚ) / den := by
    have hnum : (num : ℚ) = den * (num / den : ℕ) + (num % den : ℕ) := by
      exact_mod_cast (Nat.div_add_mod num den).symm
    field_simp
    linarith
  have hlt : ((num % den : ℕ) : ℚ) / den < 1 := by
    rw [div_lt_one hdenq]
    exact_mod_cast Nat.mod_lt num hden
  rw [hsplit, accuracyOfFraction]
  generalize num / den = m at *
  generalize num % den = r at *
  split
  · rename_i hzero
    simp [Tells, ExtendedMantissa.ofMantissaAndAccuracy, hzero]
  · rename_i hzero
    have hpos : (0 : ℚ) < (r : ℚ) / den :=
      div_pos (by exact_mod_cast Nat.pos_of_ne_zero hzero) hdenq
    cases hcompare : compare (2 * r) den with
    | lt =>
        have hr : (2 * r : ℚ) < den := by exact_mod_cast Nat.compare_eq_lt.mp hcompare
        have hhalf : (r : ℚ) / den < 1 / 2 := by
          rw [div_lt_iff₀ hdenq]
          linarith
        change (m : ℚ) < m + r / den ∧ (m : ℚ) + r / den < m + 1 / 2
        exact ⟨by linarith, by linarith⟩
    | eq =>
        have hr : (2 * r : ℚ) = den := by exact_mod_cast Nat.compare_eq_eq.mp hcompare
        have hhalf : (r : ℚ) / den = 1 / 2 := by
          rw [div_eq_iff hdenq.ne']
          linarith
        change (m : ℚ) + r / den = m + 1 / 2
        rw [hhalf]
    | gt =>
        have hr : (den : ℚ) < 2 * r := by exact_mod_cast Nat.compare_eq_gt.mp hcompare
        have hhalf : 1 / 2 < (r : ℚ) / den := by
          rw [lt_div_iff₀ hdenq]
          linarith
        change (m : ℚ) + 1 / 2 < m + r / den ∧ (m : ℚ) + r / den < m + 1
        exact ⟨by linarith, by linarith⟩

theorem Tells.shiftRightOne (h : Tells em x) : Tells em.shiftRightOne (x / 2) := by
  obtain ⟨m, round, sticky⟩ := em
  have hm : (m : ℚ) = 2 * (m / 2 : ℕ) + (m % 2 : ℕ) := by
    exact_mod_cast (Nat.div_add_mod m 2).symm
  obtain hparity | hparity : m % 2 = 0 ∨ m % 2 = 1 := by omega
  all_goals
    have hround : (m % 2 != 0) = decide (m % 2 = 1) := by rw [hparity]; rfl
    rw [hparity] at hm hround
    cases round <;> cases sticky <;>
      simp only [Tells, ExtendedMantissa.shiftRightOne, hparity, hround] at h ⊢ <;>
      norm_num at hm h ⊢ <;> (try constructor) <;> linarith

theorem Tells.shiftRight (h : Tells em x) (n : ℕ) : Tells (em >>> n) (x / 2 ^ n) := by
  change Tells (n.repeat ExtendedMantissa.shiftRightOne em) _
  induction n with
  | zero => simpa [Nat.repeat] using h
  | succ n ih =>
      rw [Nat.repeat, pow_succ, ← div_div]
      exact ih.shiftRightOne

/-! ### The rounded mantissa -/

theorem Tells.floor (h : Tells em x) : em.mantissa ≤ x ∧ x < em.mantissa + 1 := by
  obtain ⟨m, round, sticky⟩ := em
  cases round <;> cases sticky <;> simp only [Tells] at h ⊢ <;> constructor <;> linarith

theorem roundedMantissa_bounds (em : ExtendedMantissa) :
    em.mantissa ≤ em.roundedMantissa ∧ em.roundedMantissa ≤ em.mantissa + 1 := by
  obtain ⟨m, round, sticky⟩ := em
  cases round <;> cases sticky <;>
    simp only [ExtendedMantissa.roundedMantissa, ExtendedMantissa.accuracy,
      Accuracy.roundToNearestEven] <;> omega

theorem Tells.le_roundedMantissa (h : Tells em x) {j : ℕ} (hj : (j : ℚ) ≤ x) :
    j ≤ em.roundedMantissa := by
  have hlt : (j : ℚ) < (em.mantissa + 1 : ℕ) := by
    push_cast
    linarith [h.floor.2]
  have : j < em.mantissa + 1 := by exact_mod_cast hlt
  have := (roundedMantissa_bounds em).1
  omega

theorem Tells.roundedMantissa_le (h : Tells em x) {j : ℕ} (hj : x ≤ j) :
    em.roundedMantissa ≤ j := by
  obtain ⟨m, round, sticky⟩ := em
  have hle : (m : ℚ) ≤ j := le_trans h.floor.1 hj
  have hle' : m ≤ j := by exact_mod_cast hle
  cases round <;> cases sticky <;>
    simp only [Tells, ExtendedMantissa.roundedMantissa, ExtendedMantissa.accuracy,
      Accuracy.roundToNearestEven] at h ⊢
  · exact hle'
  · exact hle'
  all_goals
    have hlt : (m : ℚ) < j := by linarith
    have : m < j := by exact_mod_cast hlt
    omega

/-- A half is rounded up if the mantissa is odd. -/
theorem Tells.lt_roundedMantissa_iff (h : Tells em x) {j : ℕ} (hj : j % 2 = 1) :
    j < em.roundedMantissa ↔ (j : ℚ) + 1 / 2 ≤ x := by
  obtain hlt | heq | hgt := Nat.lt_trichotomy j em.mantissa
  · have hle : (j : ℚ) + 1 ≤ em.mantissa := by exact_mod_cast hlt
    have := (roundedMantissa_bounds em).1
    exact ⟨fun _ => by linarith [h.floor.1], fun _ => by omega⟩
  · obtain ⟨m, round, sticky⟩ := em
    dsimp only at heq
    subst heq
    cases round <;> cases sticky <;>
      simp only [Tells, ExtendedMantissa.roundedMantissa, ExtendedMantissa.accuracy,
        Accuracy.roundToNearestEven, hj] at h ⊢
    · exact ⟨fun hlt => by omega, fun hle => by linarith⟩
    · exact ⟨fun hlt => by omega, fun hle => by linarith⟩
    · exact ⟨fun _ => h.ge, fun _ => by omega⟩
    · exact ⟨fun _ => h.1.le, fun _ => by omega⟩
  · have hle : (em.mantissa : ℚ) + 1 ≤ j := by exact_mod_cast hgt
    have := (roundedMantissa_bounds em).2
    exact ⟨fun _ => by omega, fun _ => by linarith [h.floor.2]⟩

/-! ### Rounded numbers -/

/-- So many units of a power of two; 2⁵³ units are 2⁵² of the next one. -/
def ofUnits (m : ℕ) (e : ℤ) : UnpackedFloat :=
  if h : m = 0 then .zero .positive
  else if m < 2 ^ 53 then .finite .positive m e (Nat.pos_of_ne_zero h)
  else .finite .positive (2 ^ 52) (e + 1) (by decide)

theorem carry_eq (e : ℤ) : ((2 ^ 52 : ℕ) : ℚ) * 2 ^ (e + 1) = (2 ^ 53 : ℕ) * 2 ^ e := by
  rw [zpow_add₀ two_ne_zero]
  push_cast
  ring

/-- A number is rounded to so many units of a power of two. -/
structure Rounded (x : ℚ) (m : ℕ) (e : ℤ) : Prop where
  least : -1074 ≤ e
  le_full : m ≤ 2 ^ 53
  lt_full : x < 2 ^ 53 * 2 ^ e
  /-- All 53 bits are used, unless the power is the least one. -/
  normal : e = -1074 ∨ 2 ^ 52 ≤ m ∧ 2 ^ 52 * 2 ^ e ≤ x
  le_of_le : ∀ j : ℕ, j * 2 ^ e ≤ x → j ≤ m
  ge_of_ge : ∀ j : ℕ, x ≤ j * 2 ^ e → m ≤ j
  /-- A half is rounded to the even number of units. -/
  lt_iff : ∀ j : ℕ, j % 2 = 1 → (j < m ↔ (j + 1 / 2) * 2 ^ e ≤ x)

theorem targetExponent_eq (m : ℕ) (e : ℤ) :
    Format.binary64.targetExponent (totalExponent m e) = max (m.log2 + 1 + e - 53) (-1074) := rfl

theorem shiftRight_zero (em : ExtendedMantissa) : em >>> 0 = em := rfl

/-- A mantissa of 53 bits stays as it is. -/
theorem shiftToTargetExponent_of_lt {m : ℕ} {e : ℤ} (hm : m < 2 ^ 53) (he : -1074 ≤ e) :
    shiftToTargetExponent .binary64 m e .exact = (.ofMantissaAndAccuracy m .exact, e) := by
  have hlog : m.log2 ≤ 52 := by
    by_cases hzero : m = 0
    · rw [hzero]
      decide
    · have := (Nat.log2_lt hzero).mpr hm
      omega
  have hshift : (Format.binary64.targetExponent (totalExponent m e) - e).toNat = 0 := by
    rw [targetExponent_eq]
    omega
  rw [shiftToTargetExponent, shiftToExponent, hshift, shiftRight_zero]
  simp

/-- A carry into the 54th bit is shifted out again. -/
theorem shiftToTargetExponent_full {e : ℤ} (he : -1074 ≤ e) :
    shiftToTargetExponent .binary64 (2 ^ 53) e .exact =
      (.ofMantissaAndAccuracy (2 ^ 52) .exact, e + 1) := by
  have hlog : (2 ^ 53).log2 = 53 := Nat.log2_two_pow
  have hshift : (Format.binary64.targetExponent (totalExponent (2 ^ 53) e) - e).toNat = 1 := by
    rw [targetExponent_eq, hlog]
    omega
  rw [shiftToTargetExponent, shiftToExponent, hshift]
  rfl

/-- The number is rounded once; a carry does not round it again. -/
theorem roundWithAccuracy_eq {m r : ℕ} {e t : ℤ} {acc : Accuracy}
    (h : shiftToTargetExponent .binary64 m e acc = (em, t)) (hr : em.roundedMantissa = r)
    (hfull : r ≤ 2 ^ 53) (ht : -1074 ≤ t) :
    roundWithAccuracy .binary64 .positive m e acc = ofUnits r t := by
  rw [roundWithAccuracy, h]
  dsimp only
  rw [hr]
  by_cases hlt : r < 2 ^ 53
  · rw [shiftToTargetExponent_of_lt hlt ht]
    by_cases hzero : r = 0
    · rw [hzero]
      rfl
    · rw [ofUnits, dif_neg hzero, if_pos hlt]
      exact dif_neg hzero
  · obtain rfl : r = 2 ^ 53 := by omega
    rw [shiftToTargetExponent_full ht]
    rfl

/-- A number is rounded to the nearest floating point number, were there no largest power of two. -/
def RoundsTo (x : ℚ) (f : UnpackedFloat) : Prop :=
  ∃ m e, Rounded x m e ∧ f = ofUnits m e

/-- A mantissa that has its 53 bits, or more, or the least power of two, is rounded to the nearest
number. -/
theorem roundsTo_roundWithAccuracy {m : ℕ} {e : ℤ} {acc : Accuracy} {y : ℚ}
    (h : Tells (.ofMantissaAndAccuracy m acc) y)
    (he : e ≤ Format.binary64.targetExponent (totalExponent m e)) :
    RoundsTo (y * 2 ^ e) (roundWithAccuracy .binary64 .positive m e acc) := by
  obtain ⟨t, ht⟩ : ∃ t, Format.binary64.targetExponent (totalExponent m e) = t := ⟨_, rfl⟩
  obtain ⟨s, hs⟩ : ∃ s : ℕ, (t - e).toNat = s := ⟨_, rfl⟩
  have hmax : t = max (m.log2 + 1 + e - 53) (-1074) := ht ▸ targetExponent_eq m e
  rw [ht] at he
  have hsum : e + s = t := by omega
  have htells := h.shiftRight s
  have hfloor := h.floor
  have hmantissa : (ExtendedMantissa.ofMantissaAndAccuracy m acc).mantissa = m := by
    cases acc with
    | exact => rfl
    | inexact o => cases o <;> rfl
  rw [hmantissa] at hfloor
  have hpow : (0 : ℚ) < 2 ^ t := zpow_pos two_pos t
  have hx : y * 2 ^ e = y / 2 ^ s * 2 ^ t := by
    rw [← hsum, zpow_add₀ two_ne_zero, zpow_natCast]
    field_simp
  -- The mantissa has as many bits as its logarithm says.
  have hupper : y / 2 ^ s < 2 ^ 53 := by
    have hbits : m + 1 ≤ 2 ^ (m.log2 + 1) := Nat.lt_log2_self
    have hle : 2 ^ (m.log2 + 1) ≤ 2 ^ (53 + s) := Nat.pow_le_pow_right two_pos (by omega)
    have : ((m : ℚ) + 1) ≤ 2 ^ (53 + s) := by exact_mod_cast hbits.trans hle
    rw [div_lt_iff₀ (by positivity), ← pow_add]
    linarith
  have hlower : t = -1074 ∨ 2 ^ 52 ≤ y / 2 ^ s := by
    refine or_iff_not_imp_left.mpr fun hne => ?_
    have hlog : m.log2 = 52 + s := by omega
    have hpos : m ≠ 0 := by
      rintro rfl
      rw [Nat.log2_zero] at hlog
      omega
    have hbits : 2 ^ (52 + s) ≤ m := hlog ▸ Nat.log2_self_le hpos
    have : (2 : ℚ) ^ (52 + s) ≤ m := by exact_mod_cast hbits
    rw [le_div_iff₀ (by positivity), ← pow_add]
    linarith
  obtain ⟨r, hr⟩ : ∃ r,
      (ExtendedMantissa.ofMantissaAndAccuracy m acc >>> s).roundedMantissa = r := ⟨_, rfl⟩
  have hle_full : r ≤ 2 ^ 53 := by
    rw [← hr]
    refine htells.roundedMantissa_le ?_
    push_cast
    exact hupper.le
  refine ⟨r, t, ⟨by omega, hle_full, ?_, ?_, ?_, ?_, ?_⟩, ?_⟩
  · rw [hx]
    exact mul_lt_mul_of_pos_right hupper hpow
  · refine hlower.imp_right fun hlower => ⟨?_, ?_⟩
    · rw [← hr]
      refine htells.le_roundedMantissa ?_
      push_cast
      exact hlower
    · rw [hx]
      exact mul_le_mul_of_nonneg_right hlower hpow.le
  · intro j hj
    rw [hx, mul_le_mul_iff_left₀ hpow] at hj
    rw [← hr]
    exact htells.le_roundedMantissa hj
  · intro j hj
    rw [hx, mul_le_mul_iff_left₀ hpow] at hj
    rw [← hr]
    exact htells.roundedMantissa_le hj
  · intro j hj
    rw [hx, mul_le_mul_iff_left₀ hpow, ← hr]
    exact htells.lt_roundedMantissa_iff hj
  · refine roundWithAccuracy_eq ?_ hr hle_full (by omega)
    rw [shiftToTargetExponent, shiftToExponent, ht, hs, hsum]

/-! ### Neighbours -/

theorem full_mul_zpow_le {e t : ℤ} (h : e < t) : (2 : ℚ) ^ 53 * 2 ^ e ≤ 2 ^ 52 * 2 ^ t := by
  have hle : (2 : ℚ) ^ (e + 1) ≤ 2 ^ t := zpow_le_zpow_right₀ one_le_two h
  rw [zpow_add₀ two_ne_zero, zpow_one] at hle
  linarith

namespace Rounded

variable {m : ℕ} {e : ℤ} {j : ℕ} {t : ℤ}

/-- Below the middle of two neighbours a number is rounded down at least to the lower one. -/
theorem le_of_lt_middle (h : Rounded x m e) (ht : -1074 ≤ t) (hlow : 2 ^ 52 ≤ j)
    (hhigh : j < 2 ^ 53) (hodd : j % 2 = 1) (hx : x < (j + 1 / 2) * 2 ^ t) :
    (m : ℚ) * 2 ^ e ≤ j * 2 ^ t := by
  have hpow : (0 : ℚ) < 2 ^ t := zpow_pos two_pos t
  obtain hlt | rfl | hgt := lt_trichotomy e t
  · calc (m : ℚ) * 2 ^ e
        ≤ 2 ^ 53 * 2 ^ e :=
          mul_le_mul_of_nonneg_right (by exact_mod_cast h.le_full) (zpow_pos two_pos e).le
      _ ≤ 2 ^ 52 * 2 ^ t := full_mul_zpow_le hlt
      _ ≤ j * 2 ^ t := mul_le_mul_of_nonneg_right (by exact_mod_cast hlow) hpow.le
  · have hle : m ≤ j := not_lt.mp fun hlt => absurd hx (not_lt.mpr ((h.lt_iff j hodd).mp hlt))
    exact mul_le_mul_of_nonneg_right (by exact_mod_cast hle) hpow.le
  · obtain hleast | ⟨-, hnormal⟩ := h.normal
    · omega
    · have hfull : (j : ℚ) + 1 ≤ 2 ^ 53 := by exact_mod_cast hhigh
      have := full_mul_zpow_le hgt
      nlinarith

/-- From the middle of two neighbours on, where the lower one is odd, a number is rounded up at
least to the upper one. -/
theorem le_of_middle_le (h : Rounded x m e) (ht : -1074 ≤ t) (hlow : 2 ^ 52 ≤ j)
    (hhigh : j < 2 ^ 53) (hodd : j % 2 = 1) (hx : ((j : ℚ) + 1 / 2) * 2 ^ t ≤ x) :
    ((j : ℚ) + 1) * 2 ^ t ≤ m * 2 ^ e := by
  have hpow : (0 : ℚ) < 2 ^ t := zpow_pos two_pos t
  obtain hlt | rfl | hgt := lt_trichotomy e t
  · have hlow' : (2 : ℚ) ^ 52 ≤ j := by exact_mod_cast hlow
    have := full_mul_zpow_le hlt
    nlinarith [h.lt_full]
  · have hlt : j + 1 ≤ m := (h.lt_iff j hodd).mpr hx
    exact mul_le_mul_of_nonneg_right (by exact_mod_cast hlt) hpow.le
  · obtain hleast | ⟨hnormal, -⟩ := h.normal
    · omega
    · calc ((j : ℚ) + 1) * 2 ^ t
          ≤ 2 ^ 53 * 2 ^ t := mul_le_mul_of_nonneg_right (by exact_mod_cast hhigh) hpow.le
        _ ≤ 2 ^ 52 * 2 ^ e := full_mul_zpow_le hgt
        _ ≤ m * 2 ^ e :=
          mul_le_mul_of_nonneg_right (by exact_mod_cast hnormal) (zpow_pos two_pos e).le

/-- Where a number lies to the middle of two neighbours decides where it is rounded to. -/
theorem upper_le_iff (h : Rounded x m e) (ht : -1074 ≤ t) (hlow : 2 ^ 52 ≤ j) (hhigh : j < 2 ^ 53)
    (hodd : j % 2 = 1) : ((j : ℚ) + 1) * 2 ^ t ≤ m * 2 ^ e ↔ ((j : ℚ) + 1 / 2) * 2 ^ t ≤ x := by
  refine ⟨fun hupper => ?_, h.le_of_middle_le ht hlow hhigh hodd⟩
  by_contra hlt
  have hlower := h.le_of_lt_middle ht hlow hhigh hodd (not_le.mp hlt)
  have hpow : (0 : ℚ) < 2 ^ t := zpow_pos two_pos t
  linarith

end Rounded

end TunnelMesh.Decimal
