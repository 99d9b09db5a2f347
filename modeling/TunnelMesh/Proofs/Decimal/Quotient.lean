/-
Decimals as floating point numbers.

A decimal is a natural number over a power of ten.  Whichever way it is computed, as one
quotient of two exact numbers or as a scaled product, it comes out as the floating point
number nearest to it, and so does any further quotient.
-/
import TunnelMesh.Proofs.Decimal.Packing

namespace TunnelMesh.Decimal

open Float.Model Float.Model.UnpackedFloat

/-! ### Quotients -/

/-- Less than half of the least unit is rounded to zero. -/
theorem rounded_zero {x : ℚ} (hsmall : x < 1 / 2 * 2 ^ (-1074 : ℤ)) :
    Rounded x 0 (-1074) where
  least := le_refl _
  le_full := Nat.zero_le _
  lt_full := hsmall.trans (mul_lt_mul_of_pos_right (by norm_num) (zpow_pos two_pos _))
  normal := .inl rfl
  le_of_le j hj := by
    refine Nat.lt_one_iff.mp ?_ |>.le
    have hlt : (j : ℚ) < 1 / 2 :=
      lt_of_mul_lt_mul_right (hj.trans_lt hsmall) (zpow_pos two_pos _).le
    have : (j : ℚ) < 1 := by linarith
    exact_mod_cast this
  ge_of_ge j _ := Nat.zero_le j
  lt_iff j _ := by
    have hj : (0 : ℚ) ≤ j := j.cast_nonneg
    refine iff_of_false (by omega) (not_le.mpr (hsmall.trans_le ?_))
    exact mul_le_mul_of_nonneg_right (by linarith) (zpow_pos two_pos _).le

theorem roundsTo_zero : RoundsTo 0 (.zero .positive) :=
  ⟨0, -1074, rounded_zero (mul_pos (by norm_num) (zpow_pos two_pos _)), rfl⟩

theorem roundsTo_div_finite {m₁ m₂ : ℕ} (e₁ e₂ : ℤ) (h₁ : 0 < m₁) (h₂ : 0 < m₂) :
    RoundsTo (m₁ * 2 ^ e₁ / (m₂ * 2 ^ e₂))
      (UnpackedFloat.div .binary64 (.finite .positive m₁ e₁ h₁) (.finite .positive m₂ e₂ h₂)) := by
  obtain ⟨e, he⟩ : ∃ e, min (e₁ - e₂) (Format.binary64.targetExponent
      (totalExponent m₁ e₁ - totalExponent m₂ e₂)) = e := ⟨_, rfl⟩
  obtain ⟨s, hs⟩ : ∃ s, (e₁ - e₂ - e).toNat = s := ⟨_, rfl⟩
  have hcore : divCore .binary64 m₁ e₁ m₂ e₂ =
      (m₁ * 2 ^ s / m₂, e, accuracyOfFraction (m₁ * 2 ^ s % m₂) m₂) := by
    rw [divCore, he, hs]
    simp only [Nat.shiftLeft_eq]
  have hmin : e = min (e₁ - e₂) (max (m₁.log2 + 1 + e₁ - (m₂.log2 + 1 + e₂) - 53) (-1074)) :=
    he.symm
  have hsum : e₁ = s + e + e₂ := by omega
  have hvalue : (m₁ : ℚ) * 2 ^ e₁ / (m₂ * 2 ^ e₂) = (m₁ * 2 ^ s : ℕ) / m₂ * 2 ^ e := by
    have : (m₂ : ℚ) ≠ 0 := by exact_mod_cast h₂.ne'
    rw [hsum, zpow_add₀ two_ne_zero, zpow_add₀ two_ne_zero, zpow_natCast]
    push_cast
    field_simp
  have hdiv : UnpackedFloat.div .binary64 (.finite .positive m₁ e₁ h₁) (.finite .positive m₂ e₂ h₂) =
      roundWithAccuracy .binary64 .positive (m₁ * 2 ^ s / m₂) e
        (accuracyOfFraction (m₁ * 2 ^ s % m₂) m₂) := by
    rw [UnpackedFloat.div, hcore]
    rfl
  rw [hvalue, hdiv]
  refine roundsTo_roundWithAccuracy (tells_fraction _ h₂) ?_
  rw [targetExponent_eq]
  -- The shift gives the quotient its 53 bits, unless the power of two is the least one already.
  obtain hleast | hlarge := le_or_gt e (-1074)
  · omega
  · have hbits : 2 ^ 52 ≤ m₁ * 2 ^ s / m₂ := by
      rw [Nat.le_div_iff_mul_le h₂]
      calc 2 ^ 52 * m₂
          ≤ 2 ^ 52 * 2 ^ (m₂.log2 + 1) := Nat.mul_le_mul_left _ Nat.lt_log2_self.le
        _ ≤ 2 ^ (m₁.log2 + s) := by
            rw [← pow_add]
            exact Nat.pow_le_pow_right two_pos (by omega)
        _ = 2 ^ m₁.log2 * 2 ^ s := pow_add _ _ _
        _ ≤ m₁ * 2 ^ s := Nat.mul_le_mul_right _ (Nat.log2_self_le h₁.ne')
    have := (Nat.le_log2 (by omega)).mpr hbits
    omega

/-- A rounded number over another number is rounded again. -/
theorem roundsTo_div {m m' : ℕ} {e e' : ℤ} (hm : m ≤ 2 ^ 53) (h : 0 < m') :
    RoundsTo (m * 2 ^ e / (m' * 2 ^ e'))
      (UnpackedFloat.div .binary64 (ofUnits m e) (.finite .positive m' e' h)) := by
  unfold ofUnits
  split
  · rename_i hzero
    rw [hzero, Nat.cast_zero, zero_mul, zero_div]
    exact roundsTo_zero
  · split
    · exact roundsTo_div_finite e e' _ h
    · obtain rfl : m = 2 ^ 53 := by omega
      rw [← carry_eq]
      exact roundsTo_div_finite (e + 1) e' _ h

/-! ### Decimals -/

theorem log2_shiftLeft {n : ℕ} (hn : 0 < n) (s : ℕ) : (n <<< s).log2 = n.log2 + s := by
  have hpos : n <<< s ≠ 0 := (Nat.shiftLeft_pos_iff.mpr hn).ne'
  obtain ⟨hlow, hhigh⟩ := (Nat.log2_eq_iff hn.ne').mp rfl
  rw [Nat.log2_eq_iff hpos, Nat.shiftLeft_eq, add_right_comm, pow_add, pow_add (n := s)]
  exact ⟨Nat.mul_le_mul_right _ hlow, Nat.mul_lt_mul_of_pos_right hhigh (by positivity)⟩

/-- Bits may be put behind a mantissa. -/
theorem roundsTo_shiftLeft {n s : ℕ} {e : ℤ} (hn : 0 < n) (he : e + s = 0)
    (hs : e ≤ Format.binary64.targetExponent (totalExponent n 0)) :
    RoundsTo n (roundWithAccuracy .binary64 .positive (n <<< s) e .exact) := by
  have hvalue : (n : ℚ) = (n <<< s : ℕ) * 2 ^ e := by
    rw [Nat.shiftLeft_eq, eq_neg_of_add_eq_zero_left he, zpow_neg, zpow_natCast]
    push_cast
    field_simp
  rw [hvalue]
  refine roundsTo_roundWithAccuracy (tells_exact _) ?_
  rw [targetExponent_eq] at hs ⊢
  rw [log2_shiftLeft hn]
  omega

theorem roundsTo_ofNat (n : ℕ) : RoundsTo n (UnpackedFloat.ofNat .binary64 n) := by
  unfold UnpackedFloat.ofNat UnpackedFloat.ofInt UnpackedFloat.normalize
  obtain rfl | hpos := Nat.eq_zero_or_pos n
  · exact roundsTo_zero
  · rw [Int.compare_eq_gt.mpr (by omega)]
    dsimp only [Int.toNat_natCast, UnpackedFloat.round, decreaseExponent]
    exact roundsTo_shiftLeft hpos (by omega) (by omega)

/-- Decimals with very many places are less than half of the least unit. -/
theorem div_pow_lt_of_log2_lt {n k : ℕ} (h : 2048 + n.log2 < k) :
    (n / 10 ^ k : ℚ) < 1 / 2 * 2 ^ (-1074 : ℤ) := by
  have hlt : n * 2 ^ 1075 < 10 ^ k := by
    calc n * 2 ^ 1075
        < 2 ^ (n.log2 + 1) * 2 ^ 1075 := Nat.mul_lt_mul_of_pos_right Nat.lt_log2_self (by positivity)
      _ ≤ 2 ^ (3 * k) := by
          rw [← pow_add]
          exact Nat.pow_le_pow_right two_pos (by omega)
      _ = 8 ^ k := pow_mul 2 3 k
      _ ≤ 10 ^ k := Nat.pow_le_pow_left (by decide) k
  have hltq : (n : ℚ) * 2 ^ 1075 < 10 ^ k := by exact_mod_cast hlt
  have hhalf : (1 / 2 : ℚ) * 2 ^ (-1074 : ℤ) = 1 / 2 ^ 1075 := by
    rw [zpow_neg, zpow_ofNat, pow_succ _ 1074]
    field_simp
  rw [hhalf, div_lt_div_iff₀ (by positivity) (by positivity), one_mul]
  exact hltq

/-- A power of ten is divided by once; with no places the number is only put into place. -/
theorem roundsTo_ofScientific (n k : ℕ) :
    RoundsTo (n / 10 ^ k) (UnpackedFloat.ofScientific .binary64 n (Int.negOfNat k)) := by
  have hneg : Int.negOfNat k = -(k : ℤ) := Int.negOfNat_eq
  rw [hneg]
  unfold UnpackedFloat.ofScientific
  split
  · rename_i hzero
    rw [hzero, Nat.cast_zero, zero_div]
    exact roundsTo_zero
  · rename_i hzero
    have hpos := Nat.pos_of_ne_zero hzero
    have hbits : (2 : ℤ) ^ Format.binary64.exponentBits = 2048 := rfl
    rw [hbits, if_neg (by omega)]
    split
    · rename_i hsmall
      exact ⟨0, -1074, rounded_zero (div_pow_lt_of_log2_lt (by omega)), rfl⟩
    · split
      · obtain rfl : k = 0 := by omega
        have hshifted : RoundsTo n (roundWithAccuracy .binary64 .positive (n <<< 53) (-53) .exact) :=
          roundsTo_shiftLeft hpos rfl (by rw [targetExponent_eq]; omega)
        have hone : 10 ^ (-((0 : ℕ) : ℤ)).toNat = 1 := rfl
        have hmantissa : Format.binary64.mantissaBits = 53 := rfl
        rw [pow_zero, div_one, UnpackedFloat.mul, hone, hmantissa, mul_one, add_zero]
        exact hshifted
      · have hquotient : (n : ℚ) / 10 ^ k = n * 2 ^ (0 : ℤ) / ((10 ^ k : ℕ) * 2 ^ (0 : ℤ)) := by
          push_cast
          ring
        have hpower : 10 ^ (-(-(k : ℤ))).toNat = 10 ^ k := by rw [neg_neg, Int.toNat_natCast]
        rw [hquotient, finite_congr hpower rfl]
        exact roundsTo_div_finite 0 0 hpos (Nat.pow_pos (by decide))

/-! ### Exact numbers -/

/-- A number of at most 53 bits is not changed. -/
theorem Rounded.eq_of_lt {n m : ℕ} {e : ℤ} (h : Rounded n m e) (hn : n < 2 ^ 53) :
    (m : ℚ) * 2 ^ e = n := by
  have hnonpos : e ≤ 0 := by
    by_contra hpos
    obtain hleast | ⟨-, hle⟩ := h.normal
    · omega
    · have hfull := full_mul_zpow_le (not_le.mp hpos)
      have : (n : ℚ) < 2 ^ 53 := by exact_mod_cast hn
      rw [zpow_zero, mul_one] at hfull
      linarith
  have hunits : ((n * 2 ^ (-e).toNat : ℕ) : ℚ) * 2 ^ e = n := by
    obtain ⟨s, rfl⟩ : ∃ s : ℕ, e = -s := ⟨(-e).toNat, by omega⟩
    rw [neg_neg, Int.toNat_natCast, zpow_neg, zpow_natCast]
    push_cast
    field_simp
  rw [le_antisymm (h.ge_of_ge _ hunits.ge) (h.le_of_le _ hunits.le)]
  exact hunits

/-- Whether a number taken apart is the given one, with a power of two from 2⁻⁵² on. -/
def isExactly (n : ℕ) : UnpackedFloat → Bool
  | .finite .positive m e _ => decide (-52 ≤ e) && m * 2 ^ (e + 52).toNat == n * 2 ^ 52
  | _ => false

theorem eq_of_isExactly {n : ℕ} {f : UnpackedFloat} (h : isExactly n f = true) :
    ∃ m e, ∃ hm : 0 < m, f = .finite .positive m e hm ∧ (m : ℚ) * 2 ^ e = n := by
  unfold isExactly at h
  split at h
  · rename_i m e hm
    rw [Bool.and_eq_true, decide_eq_true_eq, beq_iff_eq] at h
    obtain ⟨hleast, hvalue⟩ := h
    refine ⟨m, e, hm, rfl, ?_⟩
    obtain ⟨s, hs⟩ : ∃ s : ℕ, e + 52 = s := ⟨(e + 52).toNat, by omega⟩
    rw [hs, Int.toNat_natCast] at hvalue
    have hvalueq : (m : ℚ) * 2 ^ s = n * 2 ^ 52 := by exact_mod_cast hvalue
    rw [eq_sub_of_add_eq hs, zpow_sub₀ two_ne_zero, zpow_natCast, ← mul_div_assoc, hvalueq]
    exact mul_div_cancel_right₀ _ (by positivity)
  · cases h

set_option maxRecDepth 10000 in
/-- The table of powers of ten is right. -/
theorem isExactly_powerOfTen :
    ∀ k : Fin 23,
      isExactly (10 ^ k.val) Float.exactlyRepresentablePowersOfTen[k].toModel.unpack = true := by
  decide

/-- **A decimal is the floating point number nearest to it.** -/
theorem exists_toModel_ofScientific (n k : ℕ) :
    ∃ f, RoundsTo (n / 10 ^ k) f ∧ (Float.ofScientific n true k).toModel = .pack f := by
  unfold Float.ofScientific
  split
  · rename_i hexact
    obtain ⟨hn, hk⟩ := hexact
    obtain ⟨m, e, hrounded, hunits⟩ := roundsTo_ofNat n
    obtain ⟨m', e', hpos, hpower, hvalue⟩ :=
      eq_of_isExactly (isExactly_powerOfTen ⟨k, Nat.lt_succ_of_le hk⟩)
    have hnat : n.toUInt64.toNat = n := Nat.mod_eq_of_lt (by omega)
    have hnumerator : n.toUInt64.toFloat.toModel.unpack = ofUnits m e := by
      change (Float.Model.pack (UnpackedFloat.ofNat .binary64 n.toUInt64.toNat)).unpack = _
      rw [hnat, hunits]
      exact hrounded.unpack_pack (lt_leastInfinite (by exact_mod_cast hn))
    refine ⟨_, ?_, congrArg₂ (fun a b => Float.Model.pack (UnpackedFloat.div .binary64 a b))
      hnumerator hpower⟩
    have hquotient : RoundsTo (m * 2 ^ e / (m' * 2 ^ e')) _ := roundsTo_div hrounded.le_full hpos
    rw [hrounded.eq_of_lt hn, hvalue, Nat.cast_pow, Nat.cast_ofNat] at hquotient
    exact hquotient
  · exact ⟨_, roundsTo_ofScientific n k, rfl⟩

/-- A decimal is finite below the middle between the largest number and the power of two above it;
then it is a number of units. -/
theorem exists_unpack_ofScientific {n k : ℕ} (h : (n / 10 ^ k : ℚ) < leastInfinite) :
    ∃ m e, Rounded (n / 10 ^ k) m e ∧
      (Float.ofScientific n true k).toModel.unpack = ofUnits m e := by
  obtain ⟨_, ⟨m, e, hrounded, rfl⟩, hmodel⟩ := exists_toModel_ofScientific n k
  exact ⟨m, e, hrounded, hmodel ▸ hrounded.unpack_pack h⟩

theorem isFinite_ofUnits (m : ℕ) (e : ℤ) : (ofUnits m e).isFinite = true := by
  unfold ofUnits
  split
  · rfl
  · split <;> rfl

theorem isFinite_ofScientific_iff (n k : ℕ) :
    (Float.ofScientific n true k).isFinite = true ↔ (n / 10 ^ k : ℚ) < leastInfinite := by
  change (Float.ofScientific n true k).toModel.unpack.isFinite = true ↔ _
  constructor
  · intro hfinite
    by_contra hle
    obtain ⟨_, ⟨m, e, hrounded, rfl⟩, hmodel⟩ := exists_toModel_ofScientific n k
    rw [hmodel, hrounded.unpack_pack_of_le (not_lt.mp hle)] at hfinite
    cases hfinite
  · intro hlt
    obtain ⟨m, e, -, hunpack⟩ := exists_unpack_ofScientific hlt
    rw [hunpack]
    exact isFinite_ofUnits m e

end TunnelMesh.Decimal
