/-
What has to hold of weights.

Three classes of laws.  `OrderedQuantity` is what shortest paths rest on: numbers
that are not negative are totally ordered, addition keeps the order and never
lowers its left argument.  Nothing is said about associativity, so rounding sums
and a top element are allowed, and what is no number is never compared.

`ExactQuantity` adds that finite numbers are added without loss.  Then the cost of
a path is the cost of its first edge plus the cost of the rest, which is what the
plans of different nodes have in common.

`StrictQuantity` adds that a sum is less when a summand is, so that no part of a
shortest path can be replaced by a cheaper one.

The rational numbers satisfy all of them.
-/
import Mathlib.Data.Rat.Floor
import Mathlib.Tactic.Linarith
import TunnelMesh.Route.Quantity

namespace TunnelMesh

open Quantity

/-- Numbers from zero up are totally ordered, and addition respects the order. -/
class OrderedQuantity (α : Type) [Quantity α] : Prop where
  zero_leq_zero : leq (ofNat 0 : α) (ofNat 0) = true
  finite_zero : finite (ofNat 0 : α) = true
  leq_of_less {a b : α} : less a b = true → leq a b = true
  not_less_of_leq {a b : α} : leq a b = true → less b a = false
  /-- Only numbers that are not negative are promised to be comparable. -/
  leq_or_less {a b : α} :
    leq (ofNat 0) a = true → leq (ofNat 0) b = true → leq a b = true ∨ less b a = true
  leq_trans {a b c : α} : leq a b = true → leq b c = true → leq a c = true
  add_leq_add {a b w : α} : leq (ofNat 0) a = true → leq (ofNat 0) w = true → leq a b = true →
    leq (add a w) (add b w) = true
  leq_add {a w : α} :
    leq (ofNat 0) a = true → leq (ofNat 0) w = true → leq a (add a w) = true
  belowTop_of_finite {a : α} : finite a = true → belowTop a = true

/-- Finite numbers are added without loss. -/
class ExactQuantity (α : Type) [Quantity α] : Prop extends OrderedQuantity α where
  finite_add {a b : α} : finite a = true → finite b = true → finite (add a b) = true
  add_assoc {a b c : α} : finite a = true → finite b = true → finite c = true →
    add (add a b) c = add a (add b c)
  add_comm {a b : α} : finite a = true → finite b = true → add a b = add b a
  /-- A positive weight counts, however small it is. -/
  less_add {a w : α} : finite a = true → finite w = true → less (ofNat 0) w = true →
    less a (add a w) = true

/-- Finite sums tell their summands apart. -/
class StrictQuantity (α : Type) [Quantity α] : Prop extends ExactQuantity α where
  less_add_less {a b w : α} : finite a = true → finite b = true → finite w = true →
    less a b = true → less (add a w) (add b w) = true

namespace OrderedQuantity

variable {α : Type} [Quantity α] [OrderedQuantity α] {a b c : α}

theorem leq_refl (h : leq (ofNat 0) a = true) : leq a a = true := by
  rcases leq_or_less h h with hle | hlt
  · exact hle
  · exact leq_of_less hlt

theorem leq_of_not_less (ha : leq (ofNat 0) a = true) (hb : leq (ofNat 0) b = true)
    (h : less b a = false) : leq a b = true := by
  rcases leq_or_less ha hb with hle | hlt
  · exact hle
  · rw [h] at hlt
    exact absurd hlt (by simp)

theorem less_of_less_of_leq (ha : leq (ofNat 0) a = true) (hab : less a b = true)
    (hbc : leq b c = true) : less a c = true := by
  have hac : leq a c = true := leq_trans (leq_of_less hab) hbc
  rcases leq_or_less (leq_trans ha hac) ha with hca | hlt
  · -- Then `b` would be below `a` as well.
    have hba := not_less_of_leq (leq_trans hbc hca)
    rw [hab] at hba
    exact absurd hba (by simp)
  · exact hlt

theorem less_of_leq_of_less (ha : leq (ofNat 0) a = true) (hab : leq a b = true)
    (hbc : less b c = true) : less a c = true := by
  have hac : leq a c = true := leq_trans hab (leq_of_less hbc)
  rcases leq_or_less (leq_trans ha hac) ha with hca | hlt
  · have hcb := not_less_of_leq (leq_trans hca hab)
    rw [hbc] at hcb
    exact absurd hcb (by simp)
  · exact hlt

theorem zero_leq_add (ha : leq (ofNat 0) a = true) (hb : leq (ofNat 0) b = true) :
    leq (ofNat 0) (add a b) = true :=
  leq_trans ha (leq_add ha hb)

end OrderedQuantity

/-! ### Rational numbers -/

/-- Exact arithmetic. The logarithm of a rational number is not one, so that latencies count as they
are; halves are rounded away from zero. -/
instance : Quantity ℚ where
  ofNat n := n
  add a b := a + b
  mul a b := a * b
  div a b := a / b
  max a b := if a < b then b else a
  min a b := if b < a then b else a
  round a := if a < 0 then -(⌊-a + 1 / 2⌋ : ℤ) else (⌊a + 1 / 2⌋ : ℤ)
  log1p a := a
  less a b := decide (a < b)
  leq a b := decide (a ≤ b)
  finite _ := true
  belowTop _ := true

instance : ExactQuantity ℚ where
  zero_leq_zero := by simp [leq]
  finite_zero := rfl
  leq_of_less h := by
    simp only [less, leq, decide_eq_true_eq] at h ⊢
    exact le_of_lt h
  not_less_of_leq h := by
    simp only [less, leq, decide_eq_true_eq, decide_eq_false_iff_not, not_lt] at h ⊢
    exact h
  leq_or_less _ _ := by
    simp only [less, leq, decide_eq_true_eq]
    exact le_or_gt _ _
  leq_trans h h' := by
    simp only [leq, decide_eq_true_eq] at h h' ⊢
    exact le_trans h h'
  add_leq_add _ _ h := by
    simp only [leq, add, decide_eq_true_eq] at h ⊢
    linarith
  leq_add _ h := by
    simp only [leq, add, ofNat, decide_eq_true_eq, Nat.cast_zero] at h ⊢
    linarith
  belowTop_of_finite _ := rfl
  finite_add _ _ := rfl
  add_assoc _ _ _ := Rat.add_assoc _ _ _
  add_comm _ _ := Rat.add_comm _ _
  less_add _ _ h := by
    simp only [less, add, ofNat, decide_eq_true_eq, Nat.cast_zero] at h ⊢
    linarith

instance : StrictQuantity ℚ where
  less_add_less _ _ _ h := by
    simp only [less, add, decide_eq_true_eq] at h ⊢
    linarith

end TunnelMesh
