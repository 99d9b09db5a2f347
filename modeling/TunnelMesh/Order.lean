/-
Orders built from keys.

A type is ordered by a function into an ordered type, or by two of them one after
the other.  The order tells two values apart exactly when the functions do.
-/
import Std.Data.ExtTreeMap
import Std.Data.ExtTreeSet

namespace TunnelMesh.Order

variable {α β γ : Type}

/-- An order by one key tells values apart if the key does. -/
theorem lawful_compareOn [Ord β] [Std.TransOrd β] [Std.LawfulEqOrd β] {f : α → β}
    (inj : ∀ a b, f a = f b → a = b) : Std.LawfulEqCmp (compareOn f) where
  compare_self := Std.ReflCmp.compare_self
  eq_of_compare := fun h => inj _ _ (Std.LawfulEqCmp.eq_of_compare h)

/-- An order by two keys tells values apart if the keys do together. -/
theorem lawful_compareLex [Ord β] [Std.TransOrd β] [Std.LawfulEqOrd β]
    [Ord γ] [Std.TransOrd γ] [Std.LawfulEqOrd γ] {f : α → β} {g : α → γ}
    (inj : ∀ a b, f a = f b → g a = g b → a = b) :
    Std.LawfulEqCmp (compareLex (compareOn f) (compareOn g)) where
  compare_self := Std.ReflCmp.compare_self
  eq_of_compare := fun {a b} h => by
    have h' : (compareOn f a b).then (compareOn g a b) = .eq := h
    rw [Ordering.then_eq_eq] at h'
    exact inj a b (Std.LawfulEqCmp.eq_of_compare h'.1) (Std.LawfulEqCmp.eq_of_compare h'.2)

end TunnelMesh.Order
