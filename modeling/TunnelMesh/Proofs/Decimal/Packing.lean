/-
Floating point numbers in their 64 bits.

A number that was rounded is put into 64 bits: a sign, an exponent and the bits of the
mantissa behind the first one.  Taken apart again it is the same, unless its power of two
was too high for the exponent; then it has become infinite.  That happens from the middle
between the largest number and the power of two above it on.
-/
import Mathlib
import TunnelMesh.Decimal.Binary
import TunnelMesh.Proofs.Decimal.Rounding

namespace TunnelMesh.Decimal

open Float.Model Float.Model.UnpackedFloat

/-! ### Fields -/

theorem toNat_one_append (m : BitVec 52) : (1#1 ++ m).toNat = 2 ^ 52 + m.toNat := by
  rw [BitVec.toNat_append, ← Nat.shiftLeft_add_eq_or_of_lt m.isLt]
  rfl

theorem finite_congr {s : Sign} {m m' : ℕ} {e e' : ℤ} (hm : m = m') (he : e = e') {h : 0 < m}
    {h' : 0 < m'} : UnpackedFloat.finite s m e h = .finite s m' e' h' := by
  subst hm he
  rfl

theorem unpack_pack_normal {m : ℕ} {e : ℤ} (hpos : 0 < m) (hlow : 2 ^ 52 ≤ m) (hhigh : m < 2 ^ 53)
    (he : -1074 ≤ e) (he' : e ≤ 971) :
    (Float.Model.pack (.finite .positive m e hpos)).unpack = .finite .positive m e hpos := by
  have hlog : m.log2 + 1 = Format.binary64.mantissaBits :=
    congrArg (· + 1) ((Nat.log2_eq_iff (by omega)).mpr ⟨hlow, hhigh⟩)
  obtain ⟨b, hb⟩ : ∃ b, (e + Format.binary64.exponentBias +
      Format.binary64.mantissaBitsWithoutImplicit).toNat = b := ⟨_, rfl⟩
  have hbias : (e + 1023 + 52).toNat = b := hb
  have hfits : ¬2 ^ Format.binary64.exponentBits ≤ b + 1 := by
    change ¬2048 ≤ b + 1
    omega
  have hexponent : (BitVec.ofNat 11 b).toNat = b := by
    rw [BitVec.toNat_ofNat]
    omega
  have hmantissa : (1#1 ++ BitVec.ofNat 52 m).toNat = m := by
    rw [toNat_one_append, BitVec.toNat_ofNat]
    omega
  have hne : ∀ k < 2048, b ≠ k → BitVec.ofNat 11 b ≠ BitVec.ofNat 11 k := by
    intro k hk hbk heq
    have := congrArg BitVec.toNat heq
    rw [hexponent, BitVec.toNat_ofNat] at this
    omega
  have hfull : BitVec.ofNat 11 b ≠ -1#11 := hne 2047 (by decide) (by omega)
  have hzero : BitVec.ofNat 11 b ≠ 0#11 := hne 0 (by decide) (by omega)
  change UnpackedFloat.unpack .binary64 (UnpackedFloat.pack .binary64 _) = _
  simp only [UnpackedFloat.pack]
  rw [hb, if_neg hfits, if_pos hlog]
  simp only [UnpackedFloat.unpack, unpackMantissa_packComponents, unpackExponent_packComponents,
    unpackSign_packComponents]
  rw [if_neg hfull, if_neg hzero]
  have hback : ((BitVec.ofNat 11 b).toNat : ℤ) - (Format.binary64.exponentBias + 52 : ℕ) = e := by
    rw [hexponent]
    change (b : ℤ) - 1075 = e
    omega
  exact finite_congr hmantissa hback

theorem unpack_pack_subnormal {m : ℕ} (hpos : 0 < m) (hm : m < 2 ^ 52) :
    (Float.Model.pack (.finite .positive m (-1074) hpos)).unpack =
      .finite .positive m (-1074) hpos := by
  have hlog : m.log2 + 1 ≠ Format.binary64.mantissaBits := by
    have := (Nat.log2_lt hpos.ne').mpr hm
    change m.log2 + 1 ≠ 53
    omega
  have hmantissa : (BitVec.ofNat 52 m).toNat = m := by
    rw [BitVec.toNat_ofNat]
    omega
  have hzero : BitVec.ofNat 52 m ≠ 0#52 := by
    intro h
    have := congrArg BitVec.toNat h
    rw [hmantissa] at this
    exact hpos.ne' this
  change UnpackedFloat.unpack .binary64 (UnpackedFloat.pack .binary64 _) = _
  simp only [UnpackedFloat.pack]
  rw [if_neg (by decide), if_neg hlog]
  simp only [UnpackedFloat.unpack, unpackMantissa_packComponents, unpackExponent_packComponents,
    unpackSign_packComponents]
  rw [if_neg (by decide), if_pos trivial, dif_neg hzero]
  exact finite_congr hmantissa rfl

theorem unpack_pack_infinite {m : ℕ} {e : ℤ} (hpos : 0 < m) (he : 972 ≤ e) :
    (Float.Model.pack (.finite .positive m e hpos)).unpack = .infinity .positive := by
  have hfits : 2 ^ Format.binary64.exponentBits ≤ (e + Format.binary64.exponentBias +
      Format.binary64.mantissaBitsWithoutImplicit).toNat + 1 := by
    change 2048 ≤ (e + 1023 + 52).toNat + 1
    omega
  change UnpackedFloat.unpack .binary64 (UnpackedFloat.pack .binary64 _) = _
  simp only [UnpackedFloat.pack]
  rw [if_pos hfits]
  rfl

/-! ### Rounded numbers in 64 bits -/

/-- The middle between the largest number and the power of two above it. -/
def leastInfinite : ℚ := ((2 ^ 53 - 1 : ℕ) + 1 / 2) * 2 ^ (971 : ℤ)

theorem leastInfinite_eq : leastInfinite = (2 ^ 1024 - 2 ^ 970 : ℕ) := by
  have hmiddle : 2 ^ 1024 - 2 ^ 970 = (2 ^ 54 - 1) * 2 ^ 970 := by
    rw [Nat.sub_mul, ← pow_add, one_mul]
  rw [hmiddle, leastInfinite, zpow_ofNat, pow_succ 2 970, Nat.cast_mul, Nat.cast_pow]
  rw [Nat.cast_ofNat]
  generalize (2 : ℚ) ^ 970 = p
  norm_num
  ring

theorem lt_leastInfinite {x : ℚ} (hx : x < 2 ^ 53) : x < leastInfinite := by
  refine hx.trans ?_
  have hmiddle : (2 : ℚ) ^ 53 < ((2 ^ 53 - 1 : ℕ) + 1 / 2) * 2 := by norm_num
  refine hmiddle.trans_le (mul_le_mul_of_nonneg_left ?_ (by norm_num))
  rw [zpow_ofNat]
  exact le_self_pow₀ one_le_two (by decide)

namespace Rounded

variable {x : ℚ} {m : ℕ} {e : ℤ}

/-- Up to the middle between the largest number and the power of two above it, a rounded number fits
into 64 bits. -/
theorem unpack_pack (h : Rounded x m e) (hx : x < leastInfinite) :
    (Float.Model.pack (ofUnits m e)).unpack = ofUnits m e := by
  have hmax := h.le_of_lt_middle (by decide) (by decide) (by decide) (by decide) hx
  have hbound : ∀ {k : ℕ} {t : ℤ}, 2 ^ 52 ≤ k →
      (k : ℚ) * 2 ^ t ≤ (2 ^ 53 - 1 : ℕ) * 2 ^ (971 : ℤ) → t ≤ 971 := by
    intro k t hk hkt
    by_contra hgt
    refine absurd ?_ (lt_irrefl ((2 : ℚ) ^ 53 * 2 ^ (971 : ℤ)))
    calc (2 : ℚ) ^ 53 * 2 ^ (971 : ℤ)
        ≤ 2 ^ 52 * 2 ^ t := full_mul_zpow_le (not_le.mp hgt)
      _ ≤ k * 2 ^ t := mul_le_mul_of_nonneg_right (by exact_mod_cast hk) (zpow_pos two_pos t).le
      _ ≤ (2 ^ 53 - 1 : ℕ) * 2 ^ (971 : ℤ) := hkt
      _ < 2 ^ 53 * 2 ^ (971 : ℤ) := mul_lt_mul_of_pos_right (by norm_num) (zpow_pos two_pos 971)
  have hleast := h.least
  unfold ofUnits
  split
  · rfl
  · split
    · rename_i hlt
      by_cases hlow : 2 ^ 52 ≤ m
      · exact unpack_pack_normal _ hlow hlt hleast (hbound hlow hmax)
      · obtain rfl : e = -1074 := h.normal.resolve_right fun hn => hlow hn.1
        exact unpack_pack_subnormal _ (by omega)
    · obtain rfl : m = 2 ^ 53 := by
        have := h.le_full
        omega
      refine unpack_pack_normal _ (le_refl _) (by decide) (by omega) (hbound (le_refl _) ?_)
      rw [carry_eq]
      exact hmax

theorem mul_lt_leastInfinite (h : Rounded x m e) (hx : x < leastInfinite) :
    (m : ℚ) * 2 ^ e < leastInfinite := by
  have hmax := h.le_of_lt_middle (by decide) (by decide) (by decide) (by decide) hx
  refine hmax.trans_lt (mul_lt_mul_of_pos_right ?_ (zpow_pos two_pos 971))
  exact lt_add_of_pos_right _ (by norm_num)

/-- From that middle on a number becomes infinite. -/
theorem unpack_pack_of_le (h : Rounded x m e) (hx : leastInfinite ≤ x) :
    (Float.Model.pack (ofUnits m e)).unpack = .infinity .positive := by
  have hmin := h.le_of_middle_le (by decide) (by decide) (by decide) (by decide) hx
  have hfull : ((2 ^ 53 - 1 : ℕ) : ℚ) + 1 = 2 ^ 53 := by norm_num
  rw [hfull] at hmin
  have hpos : m ≠ 0 := by
    rintro rfl
    rw [Nat.cast_zero, zero_mul] at hmin
    exact absurd hmin (not_le.mpr (mul_pos (by norm_num) (zpow_pos two_pos 971)))
  unfold ofUnits
  rw [dif_neg hpos]
  split
  · rename_i hlt
    refine unpack_pack_infinite _ ?_
    by_contra hle
    refine absurd ?_ (lt_irrefl ((2 : ℚ) ^ 53 * 2 ^ (971 : ℤ)))
    calc (2 : ℚ) ^ 53 * 2 ^ (971 : ℤ)
        ≤ m * 2 ^ e := hmin
      _ < 2 ^ 53 * 2 ^ e :=
          mul_lt_mul_of_pos_right (by exact_mod_cast hlt) (zpow_pos two_pos e)
      _ ≤ 2 ^ 53 * 2 ^ (971 : ℤ) :=
          mul_le_mul_of_nonneg_left (zpow_le_zpow_right₀ one_le_two (by omega)) (by norm_num)
  · refine unpack_pack_infinite _ ?_
    by_contra hlt
    refine absurd ?_ (lt_irrefl ((2 : ℚ) ^ 53 * 2 ^ (971 : ℤ)))
    calc (2 : ℚ) ^ 53 * 2 ^ (971 : ℤ)
        ≤ m * 2 ^ e := hmin
      _ ≤ 2 ^ 53 * 2 ^ e :=
          mul_le_mul_of_nonneg_right (by exact_mod_cast h.le_full) (zpow_pos two_pos e).le
      _ < 2 ^ 53 * 2 ^ (971 : ℤ) :=
          mul_lt_mul_of_pos_left (zpow_lt_zpow_right₀ one_lt_two (by omega)) (by norm_num)

end Rounded

/-! ### The parts of a number -/

/-- Whether a sign is a minus. -/
def isMinus : Sign → Bool
  | .negative => true
  | .positive => false

/-- The parts of a number that has been taken apart already. -/
def Parts.ofUnpacked : UnpackedFloat → Parts
  | .notANumber => .nan
  | .infinity s => .infinite (isMinus s)
  | .zero s => .finite (isMinus s) 0 (-1074)
  | .finite s m e _ => .finite (isMinus s) m e

section Fields

variable (b : BitVec 64)

theorem toNat_unpackMantissa : (@unpackMantissa .binary64 b).toNat = b.toNat % 2 ^ 52 := by
  change (b.extractLsb 51 0).toNat = _
  rw [BitVec.extractLsb_toNat]
  rfl

theorem toNat_unpackExponent :
    (@unpackExponent .binary64 b).toNat = b.toNat / 2 ^ 52 % 2048 := by
  change (b.extractLsb 62 52).toNat = _
  rw [BitVec.extractLsb_toNat, Nat.shiftRight_eq_div_pow]

theorem isMinus_unpackSign :
    isMinus (.ofBitVec (@unpackSign .binary64 b)) = (b.toNat / 2 ^ 63 == 1) := by
  have hsign : (@unpackSign .binary64 b).toNat = b.toNat / 2 ^ 63 := by
    change (b.extractLsb 63 63).toNat = _
    rw [BitVec.extractLsb_toNat, Nat.shiftRight_eq_div_pow]
    have := b.isLt
    omega
  rw [← hsign]
  generalize @unpackSign .binary64 b = s
  obtain rfl | rfl : s = 0#1 ∨ s = 1#1 := by
    have hlt : s.toNat < 2 := s.isLt
    rw [← BitVec.toNat_inj, ← BitVec.toNat_inj]
    change s.toNat = 0 ∨ s.toNat = 1
    omega
  · rfl
  · rfl

end Fields

/-- The parts of a number are what its 64 bits are taken apart into. -/
theorem Parts.ofFloat_eq (x : Float) : Parts.ofFloat x = .ofUnpacked x.toModel.unpack := by
  have hbits : x.toModel.unpack = UnpackedFloat.unpack .binary64 x.toBits.toBitVec := rfl
  have hmantissa := toNat_unpackMantissa x.toBits.toBitVec
  have hexponent := toNat_unpackExponent x.toBits.toBitVec
  have hsign := isMinus_unpackSign x.toBits.toBitVec
  have hfull : @unpackExponent .binary64 x.toBits.toBitVec = -1#11 ↔
      x.toBits.toNat / 2 ^ 52 % 2048 = 2047 := by
    rw [← BitVec.toNat_inj, hexponent]
    rfl
  have hleast : @unpackExponent .binary64 x.toBits.toBitVec = 0#11 ↔
      x.toBits.toNat / 2 ^ 52 % 2048 = 0 := by
    rw [← BitVec.toNat_inj, hexponent]
    rfl
  have hzero : @unpackMantissa .binary64 x.toBits.toBitVec = 0#52 ↔
      x.toBits.toNat % 2 ^ 52 = 0 := by
    rw [← BitVec.toNat_inj, hmantissa]
    rfl
  rw [hbits]
  unfold Parts.ofFloat UnpackedFloat.unpack
  dsimp only
  change (if x.toBits.toNat / 2 ^ 52 % 2048 = 2047 then _ else _) = _
  by_cases h : x.toBits.toNat / 2 ^ 52 % 2048 = 2047
  · rw [if_pos h, if_pos (hfull.mpr h)]
    by_cases hm : x.toBits.toNat % 2 ^ 52 = 0
    · rw [if_pos (hzero.mpr hm)]
      exact (if_pos hm).trans (congrArg Parts.infinite hsign.symm)
    · rw [if_neg (mt hzero.mp hm)]
      exact if_neg hm
  · rw [if_neg h, if_neg (mt hfull.mp h)]
    by_cases he : x.toBits.toNat / 2 ^ 52 % 2048 = 0
    · rw [if_pos (hleast.mpr he)]
      refine (if_pos he).trans ?_
      by_cases hm : x.toBits.toNat % 2 ^ 52 = 0
      · rw [dif_pos (hzero.mpr hm)]
        exact congrArg₂ (fun s m => Parts.finite s m (-1074)) hsign.symm hm
      · rw [dif_neg (mt hzero.mp hm)]
        have hpower : ((@unpackExponent .binary64 x.toBits.toBitVec).toNat : ℤ) - 1075 + 1 =
            -1074 := by
          rw [hleast.mpr he]
          rfl
        rw [Parts.ofUnpacked, hsign]
        exact congrArg₂ (Parts.finite _) hmantissa.symm hpower.symm
    · rw [if_neg (mt hleast.mp he)]
      refine (if_neg he).trans ?_
      have hnormal := toNat_one_append (@unpackMantissa .binary64 x.toBits.toBitVec)
      rw [hmantissa] at hnormal
      have hpower : ((@unpackExponent .binary64 x.toBits.toBitVec).toNat : ℤ) - 1075 =
          (x.toBits.toNat / 2 ^ 52 % 2048 : ℕ) - 1075 := by
        rw [hexponent]
        rfl
      rw [Parts.ofUnpacked, hsign]
      exact congrArg₂ (Parts.finite _) hnormal.symm hpower.symm

/-- A number of units has no sign, and stands for that many. -/
theorem Parts.ofUnpacked_ofUnits {m : ℕ} (hm : m ≤ 2 ^ 53) (e : ℤ) :
    ∃ k q, Parts.ofUnpacked (ofUnits m e) = .finite false k q ∧ (k : ℚ) * 2 ^ q = m * 2 ^ e := by
  unfold ofUnits
  split
  · rename_i hzero
    exact ⟨0, -1074, rfl, by rw [hzero, Nat.cast_zero, zero_mul, zero_mul]⟩
  · split
    · exact ⟨m, e, rfl, rfl⟩
    · obtain rfl : m = 2 ^ 53 := by omega
      exact ⟨2 ^ 52, e + 1, rfl, carry_eq e⟩

/-- The fraction of a finite number. -/
theorem fraction_eq (m : ℕ) (q : ℤ) :
    0 < (fraction m q).2 ∧ ((fraction m q).1 : ℚ) = m * 2 ^ q * (fraction m q).2 := by
  unfold fraction
  split
  · rename_i hq
    obtain ⟨s, rfl⟩ := Int.eq_ofNat_of_zero_le hq
    refine ⟨Nat.one_pos, ?_⟩
    change ((m * 2 ^ s : ℕ) : ℚ) = m * 2 ^ (s : ℤ) * (1 : ℕ)
    rw [zpow_natCast]
    push_cast
    ring
  · rename_i hq
    obtain ⟨s, rfl⟩ : ∃ s : ℕ, q = -s := ⟨(-q).toNat, by omega⟩
    have hs : (-(-(s : ℤ))).toNat = s := by omega
    rw [hs]
    refine ⟨Nat.pow_pos two_pos, ?_⟩
    change (m : ℚ) = m * 2 ^ (-(s : ℤ)) * (2 ^ s : ℕ)
    rw [zpow_neg, zpow_natCast]
    push_cast
    field_simp

end TunnelMesh.Decimal
