/-
  This file defines strict linear orders with a test, and the
  order of texts by code points.

  Key definitions include:
    * `KeyOrder`
-/

namespace TraversalPlanner

------------------------------------------------------------
-- Strict Linear Orders
------------------------------------------------------------

/- A strict linear order with a test. -/
class KeyOrder (K : Type) where
  before : K → K → Bool
  before_irrefl : ∀ a, before a a = false
  before_trans :
    ∀ {a b c}, before a b = true → before b c = true → before a c = true
  eq_of_not_before :
    ∀ {a b}, before a b = false → before b a = false → a = b

namespace KeyOrder

variable {K : Type} [KeyOrder K]

/- Two keys cannot precede each other. -/
theorem before_asymm
    {a b : K}
    (h : before a b = true) :
    before b a = false := by
  cases hba : before b a with
  | false => rfl
  | true =>
      have hSelf := before_trans h hba
      rw [before_irrefl] at hSelf
      cases hSelf

/- A key that precedes another differs from it. -/
theorem ne_of_before
    {a b : K}
    (h : before a b = true) :
    a ≠ b := by
  intro hEq
  subst hEq
  rw [before_irrefl] at h
  cases h

end KeyOrder

------------------------------------------------------------
-- Texts
------------------------------------------------------------

/- Texts are ordered by their code points. -/
instance : KeyOrder String where
  before := fun a b => decide (a < b)
  before_irrefl := by
    intro a
    exact decide_eq_false (String.lt_irrefl a)
  before_trans := by
    intro a b c hab hbc
    simp only [decide_eq_true_eq] at *
    exact String.lt_trans hab hbc
  eq_of_not_before := by
    intro a b hab hba
    simp only [decide_eq_false_iff_not] at *
    exact String.le_antisymm (String.not_lt.mp hba) (String.not_lt.mp hab)

end TraversalPlanner
