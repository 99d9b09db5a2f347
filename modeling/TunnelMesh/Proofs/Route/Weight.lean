/-
What edges cost, in exact numbers.

The numbers are those of any ordered field with whole parts, and any function that is zero
at zero and falls nowhere above may take the place of the logarithm.  For a policy that is
accepted each step from a latency to its cost keeps the order: clamping, rounding to a
bucket, clamping again, the logarithm, scaling.  None leaves the numbers from zero up, as
clamped latencies are above zero.  The cost of a bandwidth falls as the bandwidth grows,
and an old handshake costs a penalty or nothing.

That nothing is divided by zero is said in arithmetic that notices it: there such a
division has no result, and nothing computed from it has one.
-/
import Mathlib.Algebra.Order.Floor.Ring
import Mathlib.Analysis.SpecialFunctions.Log.Basic
import Mathlib.Data.Option.NAry
import TunnelMesh.Route.Policy

namespace TunnelMesh

/-! ### Exact numbers -/

/-- The numbers of a field, with a function in the place of the logarithm. -/
def Exact {K : Type} (_ : K → K) : Type := K

namespace Exact

variable {K : Type} {log : K → K}

instance [Field K] : Field (Exact log) := inferInstanceAs (Field K)

instance [LinearOrder K] : LinearOrder (Exact log) := inferInstanceAs (LinearOrder K)

variable [Field K] [LinearOrder K]

instance [IsStrictOrderedRing K] : IsStrictOrderedRing (Exact log) :=
  inferInstanceAs (IsStrictOrderedRing K)

instance [FloorRing K] : FloorRing (Exact log) := inferInstanceAs (FloorRing K)

variable [FloorRing K]

/-- The nearest whole number, of two the one further from zero. -/
def nearest (x : Exact log) : Exact log :=
  if x < 0 then -(⌊-x + 1 / 2⌋ : ℤ) else (⌊x + 1 / 2⌋ : ℤ)

instance : Quantity (Exact log) where
  ofNat n := n
  add a b := a + b
  mul a b := a * b
  div a b := a / b
  max a b := max a b
  min a b := min a b
  round := nearest
  log1p := log
  less a b := decide (a < b)
  leq a b := decide (a ≤ b)
  finite _ := true
  belowTop _ := true

theorem monotone_nearest [IsStrictOrderedRing K] : Monotone (nearest : Exact log → Exact log) := by
  intro x y h
  unfold nearest
  by_cases hx : x < 0
  · by_cases hy : y < 0
    · rw [if_pos hx, if_pos hy, neg_le_neg_iff, Int.cast_le]
      exact Int.floor_mono (by linarith)
    · have hx' : (0 : ℤ) ≤ ⌊-x + 1 / 2⌋ := Int.floor_nonneg.mpr (by linarith)
      have hy' : (0 : ℤ) ≤ ⌊y + 1 / 2⌋ := Int.floor_nonneg.mpr (by linarith)
      rw [if_pos hx, if_neg hy]
      exact le_trans (neg_nonpos.mpr (Int.cast_nonneg hx')) (Int.cast_nonneg hy')
  · rw [if_neg hx, if_neg (fun hy => hx (h.trans_lt hy)), Int.cast_le]
    exact Int.floor_mono (by linarith)

end Exact

/-- Arithmetic that notices divisions by zero: they have no result, nor has what is computed from
them. -/
instance {α : Type} [Quantity α] [Zero α] [DecidableEq α] : Quantity (Option α) where
  ofNat n := some (Quantity.ofNat n)
  add := Option.map₂ Quantity.add
  mul := Option.map₂ Quantity.mul
  div a b := a.bind fun x => b.bind fun y => if y = 0 then none else some (Quantity.div x y)
  max := Option.map₂ Quantity.max
  min := Option.map₂ Quantity.min
  round := Option.map Quantity.round
  log1p := Option.map Quantity.log1p
  less a b := (Option.map₂ Quantity.less a b).getD false
  leq a b := (Option.map₂ Quantity.leq a b).getD false
  finite a := a.any Quantity.finite
  belowTop a := a.any Quantity.belowTop

/-- The age of a handshake is at most another one. What nobody told about counts as youngest. -/
def NoOlder : Option Duration → Option Duration → Prop
  | none, _ => True
  | some _, none => False
  | some a, some b => a ≤ b

namespace Policy

/-- A policy with other numbers. -/
def map {α β : Type} (f : α → β) (p : Policy α) : Policy β where
  minLatencyMs := f p.minLatencyMs
  maxLatencyMs := f p.maxLatencyMs
  latencyBucketMs := f p.latencyBucketMs
  latencyLogScale := p.latencyLogScale
  latencyScale := f p.latencyScale
  inverseBandwidthWeight := f p.inverseBandwidthWeight
  minUpMbps := f p.minUpMbps
  defaultUpMbps := f p.defaultUpMbps
  hopWeight := f p.hopWeight
  handshakeStaleSecs := p.handshakeStaleSecs
  handshakePenalty := f p.handshakePenalty
  defaultLatencyMs := f p.defaultLatencyMs
  offlineThresholdSecs := p.offlineThresholdSecs
  keepalive := p.keepalive

variable {K : Type} [Field K] [LinearOrder K] [FloorRing K] {log : K → K} {p : Policy (Exact log)}

/-! ### Accepted policies -/

/-- The bounds that a policy has to keep. -/
structure InRange (p : Policy (Exact log)) : Prop where
  latencyBucketMs : 0 ≤ p.latencyBucketMs
  latencyScale : 0 ≤ p.latencyScale
  inverseBandwidthWeight : 0 ≤ p.inverseBandwidthWeight
  hopWeight : 0 ≤ p.hopWeight
  handshakePenalty : 0 ≤ p.handshakePenalty
  defaultLatencyMs : 0 ≤ p.defaultLatencyMs
  minLatencyMs : 0 < p.minLatencyMs
  minLatencyMs_le : p.minLatencyMs ≤ p.maxLatencyMs
  minUpMbps : 0 < p.minUpMbps
  defaultUpMbps : 0 < p.defaultUpMbps

theorem isPositive_eq (x : Exact log) : isPositive x = decide (0 < x) := by
  simp [isPositive, Quantity.less, Quantity.ofNat]

theorem isNonNegative_eq (x : Exact log) : isNonNegative x = decide (0 ≤ x) := by
  simp [isNonNegative, Quantity.less, Quantity.ofNat, Quantity.finite, ← decide_not]

theorem find?_nonNegative_eq_none :
    p.nonNegative.find? (fun f => !isNonNegative f.2) = none ↔
      0 ≤ p.latencyBucketMs ∧ 0 ≤ p.latencyScale ∧ 0 ≤ p.inverseBandwidthWeight ∧
        0 ≤ p.hopWeight ∧ 0 ≤ p.handshakePenalty ∧ 0 ≤ p.defaultLatencyMs := by
  simp [List.find?_eq_none, nonNegative, isNonNegative_eq]

theorem validate_eq_ok : p.validate = .ok () ↔ p.InRange := by
  have hleq : ∀ a b : Exact log, Quantity.leq a b = decide (a ≤ b) := fun _ _ => rfl
  rw [validate]
  cases hfault : p.nonNegative.find? fun f => !isNonNegative f.2 with
  | some f =>
      refine iff_of_false (by simp) fun h => ?_
      have hnone := find?_nonNegative_eq_none.mpr ⟨h.latencyBucketMs, h.latencyScale,
        h.inverseBandwidthWeight, h.hopWeight, h.handshakePenalty, h.defaultLatencyMs⟩
      rw [hfault] at hnone
      cases hnone
  | none =>
      obtain ⟨hbucket, hscale, hbandwidth, hhop, hpenalty, hdefault⟩ :=
        find?_nonNegative_eq_none.mp hfault
      simp only [isPositive_eq, hleq, Bool.not_eq_true', Bool.and_eq_false_iff,
        decide_eq_false_iff_not]
      split
      · rename_i hbounds
        refine iff_of_false (by simp) fun h => ?_
        exact hbounds.elim (· h.minLatencyMs) (· h.minLatencyMs_le)
      · rename_i hbounds
        split
        · rename_i hmbps
          refine iff_of_false (by simp) fun h => ?_
          exact hmbps.elim (· h.minUpMbps) (· h.defaultUpMbps)
        · rename_i hmbps
          simp only [not_or, not_not] at hbounds hmbps
          exact iff_of_true rfl ⟨hbucket, hscale, hbandwidth, hhop, hpenalty, hdefault, hbounds.1,
            hbounds.2, hmbps.1, hmbps.2⟩

/-! ### Bounds -/

theorem monotone_clampLatency (p : Policy (Exact log)) : Monotone p.clampLatency := by
  intro x y h
  exact min_le_min_right _ (max_le_max_right _ h)

namespace InRange

theorem le_clampLatency (h : p.InRange) (ms : Exact log) : p.minLatencyMs ≤ p.clampLatency ms :=
  le_min (le_max_right _ _) h.minLatencyMs_le

theorem bucketLatency_pos (h : p.InRange) (ms : Exact log) : 0 < p.bucketLatency ms := by
  refine h.minLatencyMs.trans_le ?_
  unfold bucketLatency
  dsimp only
  split
  · exact h.le_clampLatency _
  · exact h.le_clampLatency _

theorem max_minUpMbps_pos (h : p.InRange) (mbps : Exact log) :
    0 < Quantity.max mbps p.minUpMbps :=
  lt_max_of_lt_right h.minUpMbps

end InRange

/-! ### Handshakes -/

namespace InRange

theorem handshakeTerm_nonneg (h : p.InRange) (age : Option Duration) :
    0 ≤ p.handshakeTerm age := by
  cases age with
  | none => simp [handshakeTerm, Quantity.ofNat]
  | some a =>
      rw [handshakeTerm]
      split
      · exact h.handshakePenalty
      · simp [Quantity.ofNat]

theorem handshakeTerm_le_penalty (h : p.InRange) (age : Option Duration) :
    p.handshakeTerm age ≤ p.handshakePenalty := by
  cases age with
  | none => simpa [handshakeTerm, Quantity.ofNat] using h.handshakePenalty
  | some a =>
      rw [handshakeTerm]
      split
      · exact le_rfl
      · simpa [Quantity.ofNat] using h.handshakePenalty

theorem handshakeTerm_le (h : p.InRange) {age age' : Option Duration} (hage : NoOlder age age') :
    p.handshakeTerm age ≤ p.handshakeTerm age' := by
  match age, age', hage with
  | none, age', _ => simpa [handshakeTerm, Quantity.ofNat] using h.handshakeTerm_nonneg age'
  | some a, some b, hab =>
      by_cases ha : Duration.ofSecs p.handshakeStaleSecs.toNat < a
      · have hb : Duration.ofSecs p.handshakeStaleSecs.toNat < b := Nat.lt_of_lt_of_le ha hab
        rw [handshakeTerm, handshakeTerm, if_pos ha, if_pos hb]
      · rw [handshakeTerm, if_neg ha]
        simpa [Quantity.ofNat] using h.handshakeTerm_nonneg (some b)

end InRange

/-- A tunnel without any handshake is penalised, whatever counts as recent. -/
theorem handshakeTerm_max (p : Policy (Exact log)) :
    p.handshakeTerm (some Duration.max) = p.handshakePenalty := by
  have hstale : p.handshakeStaleSecs.toNat < 18446744073709551616 :=
    p.handshakeStaleSecs.toNat_lt
  refine if_pos ?_
  show p.handshakeStaleSecs.toNat * Duration.second < 18446744073709551616 * Duration.second - 1
  unfold Duration.second
  omega

/-! ### Divisions -/

theorem div_some {x y : Exact log} (hy : y ≠ 0) :
    Quantity.div (some x) (some y) = some (Quantity.div x y) :=
  if_neg hy

theorem bucketLatency_some (p : Policy (Exact log)) (ms : Exact log) :
    (p.map some).bucketLatency (some ms) = some (p.bucketLatency ms) := by
  have hclamp : ∀ x, (p.map some).clampLatency (some x) = some (p.clampLatency x) := fun _ => rfl
  have hpositive : isPositive (p.map some).latencyBucketMs = isPositive p.latencyBucketMs := rfl
  unfold bucketLatency
  rw [hclamp, hpositive]
  dsimp only
  split
  · -- Buckets without width are not used.
    rename_i hbucket
    rw [isPositive_eq, decide_eq_true_eq] at hbucket
    have hdiv : Quantity.div (some (p.clampLatency ms)) (p.map some).latencyBucketMs =
        some (Quantity.div (p.clampLatency ms) p.latencyBucketMs) := div_some hbucket.ne'
    rw [hdiv]
    rfl
  · rfl

theorem latencyTerm_some (p : Policy (Exact log)) (ms : Exact log) :
    (p.map some).latencyTerm (some ms) = some (p.latencyTerm ms) := by
  have hscale : (p.map some).latencyLogScale = p.latencyLogScale := rfl
  unfold latencyTerm
  rw [bucketLatency_some, hscale]
  cases p.latencyLogScale <;> rfl

theorem InRange.bandwidthTerm_some (h : p.InRange) (mbps : Exact log) :
    (p.map some).bandwidthTerm (some mbps) = some (p.bandwidthTerm mbps) :=
  div_some (h.max_minUpMbps_pos mbps).ne'

theorem handshakeTerm_some (p : Policy (Exact log)) (age : Option Duration) :
    (p.map some).handshakeTerm age = some (p.handshakeTerm age) := by
  cases age with
  | none => rfl
  | some a => exact (apply_ite some _ _ _).symm

/-- **No division by zero occurs.** -/
theorem InRange.edgeWeight_some (h : p.InRange) (ms mbps : Exact log) (age : Option Duration) :
    (p.map some).edgeWeight (some ms) (some mbps) age = some (p.edgeWeight ms mbps age) := by
  rw [edgeWeight, latencyTerm_some, h.bandwidthTerm_some, handshakeTerm_some]
  rfl

variable [IsStrictOrderedRing K]

/-! ### Orders -/

theorem monotone_bucketLatency (p : Policy (Exact log)) : Monotone p.bucketLatency := by
  intro x y h
  have hclamp := p.monotone_clampLatency h
  unfold bucketLatency
  dsimp only
  split
  · rename_i hbucket
    rw [isPositive_eq, decide_eq_true_eq] at hbucket
    have hround := Exact.monotone_nearest (div_le_div_of_nonneg_right hclamp hbucket.le)
    exact p.monotone_clampLatency (mul_le_mul_of_nonneg_right hround hbucket.le)
  · exact hclamp

namespace InRange

theorem monotone_latencyTerm (hlog : MonotoneOn log (Set.Ici 0)) (h : p.InRange) :
    Monotone p.latencyTerm := by
  intro x y hxy
  have hbucket := p.monotone_bucketLatency hxy
  refine mul_le_mul_of_nonneg_right ?_ h.latencyScale
  split
  · exact hlog (h.bucketLatency_pos x).le (h.bucketLatency_pos y).le hbucket
  · exact hbucket

theorem latencyTerm_nonneg (hlog : MonotoneOn log (Set.Ici 0)) (hzero : log 0 = 0)
    (h : p.InRange) (ms : Exact log) : 0 ≤ p.latencyTerm ms := by
  have hms := (h.bucketLatency_pos ms).le
  refine mul_nonneg ?_ h.latencyScale
  split
  · exact hzero.symm.trans_le (hlog (Set.mem_Ici.mpr le_rfl) hms hms)
  · exact hms

theorem antitone_bandwidthTerm (h : p.InRange) : Antitone p.bandwidthTerm := by
  intro x y hxy
  exact div_le_div_of_nonneg_left h.inverseBandwidthWeight (h.max_minUpMbps_pos x)
    (max_le_max_right _ hxy)

theorem bandwidthTerm_nonneg (h : p.InRange) (mbps : Exact log) : 0 ≤ p.bandwidthTerm mbps :=
  div_nonneg h.inverseBandwidthWeight (h.max_minUpMbps_pos mbps).le

end InRange

/-! ### Weights -/

/-- How the cost of an edge depends on what is known about it. -/
structure Sensible (p : Policy (Exact log)) : Prop where
  hopWeight_le : ∀ ms mbps age, p.hopWeight ≤ p.edgeWeight ms mbps age
  nonneg : ∀ ms mbps age, 0 ≤ p.edgeWeight ms mbps age
  /-- Arithmetic that notices divisions by zero comes to the same cost. -/
  divides : ∀ ms mbps age,
    (p.map some).edgeWeight (some ms) (some mbps) age = some (p.edgeWeight ms mbps age)
  /-- A higher latency, a lower bandwidth or an older handshake never makes an edge cheaper. -/
  mono : ∀ ms ms' mbps mbps' age age', ms ≤ ms' → mbps' ≤ mbps → NoOlder age age' →
    p.edgeWeight ms mbps age ≤ p.edgeWeight ms' mbps' age'
  /-- No tunnel costs more than one that never completed a handshake. -/
  never : ∀ ms mbps age, p.edgeWeight ms mbps age ≤ p.edgeWeight ms mbps (some Duration.max)

/-- **An accepted policy charges sensibly, with any monotone function for the logarithm.** -/
theorem sensible_of_validate (hlog : MonotoneOn log (Set.Ici 0)) (hzero : log 0 = 0)
    (h : p.validate = .ok ()) : p.Sensible := by
  have hp := validate_eq_ok.mp h
  have hsum : ∀ ms mbps age, p.edgeWeight ms mbps age =
      p.latencyTerm ms + p.bandwidthTerm mbps + p.hopWeight + p.handshakeTerm age :=
    fun _ _ _ => rfl
  have hhop : ∀ ms mbps age, p.hopWeight ≤ p.edgeWeight ms mbps age := by
    intro ms mbps age
    have hlatency := hp.latencyTerm_nonneg hlog hzero ms
    have hbandwidth := hp.bandwidthTerm_nonneg mbps
    have hhandshake := hp.handshakeTerm_nonneg age
    rw [hsum]
    linarith
  constructor
  case hopWeight_le => exact hhop
  case nonneg => exact fun ms mbps age => hp.hopWeight.trans (hhop ms mbps age)
  case divides => exact hp.edgeWeight_some
  case mono =>
    intro ms ms' mbps mbps' age age' hms hmbps hage
    have hlatency := hp.monotone_latencyTerm hlog hms
    have hbandwidth := hp.antitone_bandwidthTerm hmbps
    have hhandshake := hp.handshakeTerm_le hage
    rw [hsum, hsum]
    linarith
  case never =>
    intro ms mbps age
    have hhandshake := hp.handshakeTerm_le_penalty age
    rw [hsum, hsum, handshakeTerm_max]
    linarith

/-- The parameters that hold where none are given, with the logarithm itself. -/
theorem sensible_of_validate_standard :
    MonotoneOn (fun x : ℝ => Real.log (1 + x)) (Set.Ici 0) ∧ Real.log (1 + 0) = 0 ∧
      (standard : Policy (Exact fun x : ℝ => Real.log (1 + x))).validate = .ok () ∧
      (standard : Policy (Exact fun x : ℝ => Real.log (1 + x))).Sensible := by
  have hlog : MonotoneOn (fun x : ℝ => Real.log (1 + x)) (Set.Ici 0) := by
    intro x hx y _ hxy
    have hx' : 0 ≤ x := hx
    exact Real.log_le_log (by linarith) (by linarith)
  have hzero : Real.log (1 + 0) = 0 := by simp
  have hvalid : (standard : Policy (Exact fun x : ℝ => Real.log (1 + x))).validate = .ok () := by
    rw [validate_eq_ok]
    constructor <;> norm_num [standard, Quantity.ofNat]
  exact ⟨hlog, hzero, hvalid, sensible_of_validate hlog hzero hvalid⟩

end Policy

end TunnelMesh
