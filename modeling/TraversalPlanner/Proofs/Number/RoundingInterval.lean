import Mathlib.Algebra.Order.Field.Rat
import Mathlib.Algebra.Order.Field.Power
import Mathlib.Data.Nat.Cast.Order.Field
import Mathlib.Tactic.FieldSimp
import Mathlib.Tactic.Linarith
import Mathlib.Tactic.NormNum
import Mathlib.Tactic.Ring
import TraversalPlanner.Number.Shortest

/-
  The reals that round to a finite number form an interval.  The
  intervals of neighbouring numbers touch, and a shared end
  belongs to the one with an even significand, so no real rounds
  to two numbers.

  Main declarations:
    * `DecimalPoint.value`
    * `Binary64.Absorbs`
    * `Binary64.rounds_iff_absorbs`
    * `Binary64.upperQuarters_eq_lowerQuarters`
    * `Binary64.magnitude_eq_of_absorbs`
-/

namespace TraversalPlanner

------------------------------------------------------------
-- Powers
------------------------------------------------------------

/- Powers of two are powers. -/
theorem twoTo_eq_pow (n : Nat) :
    twoTo n = 2 ^ n :=
  rfl

/- Powers of ten are the same for whole and rational numbers. -/
theorem cast_tenTo (n : Nat) :
    ((tenTo n : Nat) : ℚ) = (10 : ℚ) ^ n := by
  have hPow : tenTo n = 10 ^ n := rfl
  rw [hPow]
  push_cast
  rfl

/- The size that a decimal point stands for. -/
def DecimalPoint.value (p : DecimalPoint) : ℚ :=
  p.coefficient * (10 : ℚ) ^ p.exponent

namespace Binary64

------------------------------------------------------------
-- Words
------------------------------------------------------------

/- The magnitude of a word leaves out its sign bit. -/
theorem magnitude_lt (x : Binary64) :
    x.magnitude < twoTo 63 :=
  Nat.mod_lt _ (twoTo_pos 63)

/- A word is its sign bit and its magnitude. -/
theorem word_toNat (x : Binary64) :
    x.word.toNat =
      (if x.isNegative then twoTo 63 else 0) + x.magnitude := by
  have hWord : x.word.toNat < 2 ^ 64 := x.word.toNat_lt
  unfold isNegative magnitude
  rw [twoTo_eq_pow]
  by_cases h : 2 ^ 63 ≤ x.word.toNat
  · rw [decide_eq_true h, if_pos rfl]
    omega
  · rw [decide_eq_false h, if_neg Bool.false_ne_true]
    omega

/- Numbers with the same sign and magnitude are the same. -/
theorem eq_of_magnitude_eq
    {x y : Binary64}
    (hSign : x.isNegative = y.isNegative)
    (hMagnitude : x.magnitude = y.magnitude) :
    x = y := by
  have hWord : x.word.toNat = y.word.toNat := by
    rw [word_toNat, word_toNat, hSign, hMagnitude]
  cases x
  cases y
  exact congrArg Binary64.mk (UInt64.toNat_inj.mp hWord)

/- A positive number has the magnitude that it was made with. -/
theorem magnitude_ofMagnitude
    {m : Nat}
    (hm : m < twoTo 63) :
    (ofMagnitude false m).magnitude = m := by
  rw [twoTo_eq_pow] at hm
  have hMod : m % 2 ^ 64 = m := Nat.mod_eq_of_lt (by omega)
  simp only [magnitude, ofMagnitude, Bool.false_eq_true, if_false,
    UInt64.toNat_ofNat']
  rw [twoTo_eq_pow, hMod]
  exact Nat.mod_eq_of_lt hm

------------------------------------------------------------
-- Significands
------------------------------------------------------------

/- Significands and magnitudes are odd at the same time. -/
theorem significand_mod_two (x : Binary64) :
    x.significand % 2 = x.magnitude % 2 := by
  unfold significand
  rw [twoTo_eq_pow]
  split <;> omega

/- A significand has fifty-three bits at most. -/
theorem significand_lt (x : Binary64) :
    x.significand < twoTo 53 := by
  unfold significand
  rw [twoTo_eq_pow, twoTo_eq_pow]
  split <;> omega

/- The significand of a number other than zero is positive. -/
theorem significand_pos
    {x : Binary64}
    (h : 0 < x.magnitude) :
    0 < x.significand := by
  unfold significand
  rw [twoTo_eq_pow]
  split <;> omega

------------------------------------------------------------
-- Intervals
------------------------------------------------------------

/-
  A real number of quarters of quanta rounds to the size of a
  number.
-/
def Absorbs
    (x : Binary64)
    (v : ℚ) : Prop :=
  if x.significand % 2 = 0 then
    (x.lowerQuarters : ℚ) ≤ v ∧ v ≤ x.upperQuarters
  else
    (x.lowerQuarters : ℚ) < v ∧ v < x.upperQuarters

/- What a number absorbs lies between its ends. -/
theorem Absorbs.bounds
    {x : Binary64}
    {v : ℚ}
    (h : x.Absorbs v) :
    (x.lowerQuarters : ℚ) ≤ v ∧ v ≤ x.upperQuarters := by
  unfold Absorbs at h
  split at h
  · exact h
  · exact ⟨h.1.le, h.2.le⟩

/- What lies strictly between the ends is absorbed. -/
theorem absorbs_of_lt
    {x : Binary64}
    {v : ℚ}
    (hLower : (x.lowerQuarters : ℚ) < v)
    (hUpper : v < x.upperQuarters) :
    x.Absorbs v := by
  unfold Absorbs
  split
  · exact ⟨hLower.le, hUpper.le⟩
  · exact ⟨hLower, hUpper⟩

/- An end is absorbed by an even number only. -/
theorem Absorbs.even_of_eq_end
    {x : Binary64}
    {v : ℚ}
    (h : x.Absorbs v)
    (hEnd : v = x.lowerQuarters ∨ v = x.upperQuarters) :
    x.magnitude % 2 = 0 := by
  rw [← significand_mod_two]
  unfold Absorbs at h
  split at h
  · assumption
  · rcases hEnd with hEq | hEq
    · exact absurd hEq h.1.ne'
    · exact absurd hEq h.2.ne

/- The last place of a number is that of the one below or twice it. -/
theorem fields_of_magnitude_succ
    {x y : Binary64}
    (h : y.magnitude = x.magnitude + 1) :
    (y.placeExponent = x.placeExponent ∧
        y.significand = x.significand + 1 ∧
        (y.significand = twoTo 52 → y.placeExponent = 0)) ∨
      (y.placeExponent = x.placeExponent + 1 ∧
        y.significand = twoTo 52 ∧
        x.significand + 1 = twoTo 53) := by
  unfold placeExponent significand
  rw [h, twoTo_eq_pow, twoTo_eq_pow]
  split <;> split <;> omega

/- The intervals of neighbouring numbers touch. -/
theorem upperQuarters_eq_lowerQuarters
    {x y : Binary64}
    (h : y.magnitude = x.magnitude + 1) :
    x.upperQuarters = y.lowerQuarters := by
  have hGap : 0 < twoTo x.placeExponent := twoTo_pos _
  unfold upperQuarters lowerQuarters quanta
  rcases fields_of_magnitude_succ h with
    ⟨hPlace, hSignificand, hBinade⟩ | ⟨hPlace, hSignificand, hLast⟩
  · have hSame :
        ¬ (y.significand = twoTo 52 ∧ 0 < y.placeExponent) := by
      rintro ⟨hPower, hPos⟩
      have hZero := hBinade hPower
      omega
    rw [if_neg hSame, hPlace, hSignificand]
    have hMul :
        (x.significand + 1) * twoTo x.placeExponent =
          x.significand * twoTo x.placeExponent +
            twoTo x.placeExponent :=
      Nat.succ_mul _ _
    omega
  · have hUpper : y.significand = twoTo 52 ∧ 0 < y.placeExponent :=
      ⟨hSignificand, by omega⟩
    have hTwice :
        twoTo (x.placeExponent + 1) = twoTo x.placeExponent * 2 :=
      Nat.pow_succ 2 x.placeExponent
    have hx : x.significand = 2 ^ 53 - 1 := by
      rw [twoTo_eq_pow] at hLast
      omega
    rw [if_pos hUpper, hSignificand, hPlace, hTwice, hx, twoTo_eq_pow 52]
    omega

/- The interval of a number other than zero has two ends. -/
theorem lowerQuarters_lt_upperQuarters (x : Binary64) :
    x.lowerQuarters < x.upperQuarters := by
  have hGap : 0 < twoTo x.placeExponent := twoTo_pos _
  unfold upperQuarters lowerQuarters
  simp only
  split <;> omega

/- The interval of a greater number starts later. -/
theorem upperQuarters_le_lowerQuarters
    {x y : Binary64}
    (h : x.magnitude < y.magnitude) :
    x.upperQuarters ≤ y.lowerQuarters ∧
      (y.magnitude ≠ x.magnitude + 1 →
        x.upperQuarters < y.lowerQuarters) := by
  rcases Nat.exists_eq_add_of_le h with ⟨n, hn⟩
  induction n generalizing y with
  | zero =>
      have hEq := upperQuarters_eq_lowerQuarters hn
      exact ⟨hEq.le, fun hne => absurd hn hne⟩
  | succ n ih =>
      -- the number just below `y`
      have hBelow : x.magnitude + 1 + n < twoTo 63 := by
        have hy := y.magnitude_lt
        omega
      have hMagnitude := magnitude_ofMagnitude hBelow
      have hLe : x.upperQuarters ≤
          (ofMagnitude false (x.magnitude + 1 + n)).lowerQuarters :=
        (ih (by omega) hMagnitude).1
      have hLt := lowerQuarters_lt_upperQuarters
        (ofMagnitude false (x.magnitude + 1 + n))
      have hEq : (ofMagnitude false (x.magnitude + 1 + n)).upperQuarters =
          y.lowerQuarters :=
        upperQuarters_eq_lowerQuarters (by omega)
      constructor
      · omega
      · intro _
        omega

/- A real rounds to the smaller of two numbers only if they are equal. -/
theorem not_absorbs_of_lt
    {x y : Binary64}
    {v : ℚ}
    (hx : x.Absorbs v)
    (hy : y.Absorbs v) :
    ¬ x.magnitude < y.magnitude := by
  intro hLt
  rcases upperQuarters_le_lowerQuarters hLt with ⟨hLe, hGap⟩
  have hLe' : (x.upperQuarters : ℚ) ≤ y.lowerQuarters :=
    Nat.cast_le.mpr hLe
  have hvx := hx.bounds.2
  have hvy := hy.bounds.1
  by_cases hNext : y.magnitude = x.magnitude + 1
  · -- the shared end belongs to one of the two
    have hEndX := hx.even_of_eq_end (Or.inr (by linarith))
    have hEndY := hy.even_of_eq_end (Or.inl (by linarith))
    omega
  · have hLt' : (x.upperQuarters : ℚ) < y.lowerQuarters :=
      Nat.cast_lt.mpr (hGap hNext)
    linarith

/- No real rounds to two sizes. -/
theorem magnitude_eq_of_absorbs
    {x y : Binary64}
    {v : ℚ}
    (hx : x.Absorbs v)
    (hy : y.Absorbs v) :
    x.magnitude = y.magnitude := by
  have hNotLt := not_absorbs_of_lt hx hy
  have hNotGt := not_absorbs_of_lt hy hx
  omega

------------------------------------------------------------
-- Decimal Grids
------------------------------------------------------------

/- A size in quarters of quanta. -/
def quarters (v : ℚ) : ℚ :=
  4 * quantaPerOne * v

/- The scale of a grid is positive. -/
theorem gridDenominator_pos (k : Int) :
    0 < gridDenominator k := by
  unfold gridDenominator quantaPerOne
  exact Nat.mul_pos (twoTo_pos 1074) (tenTo_pos _)

/- Grids of decimal points are scaled to whole numbers. -/
theorem gridDenominator_eq (k : Int) :
    (gridDenominator k : ℚ) =
      quantaPerOne * (10 : ℚ) ^ k * tenTo (-k).toNat := by
  unfold gridDenominator
  rw [Nat.cast_mul, cast_tenTo, cast_tenTo, mul_assoc]
  congr 1
  rw [← zpow_natCast, ← zpow_natCast, ← zpow_add₀ (by norm_num)]
  congr 1
  omega

/- The decimal sizes that round to a number are those it absorbs. -/
theorem rounds_iff_absorbs
    {x : Binary64}
    {k : Int}
    {c : Nat} :
    x.Rounds k c ↔ x.Absorbs (quarters (DecimalPoint.mk c k).value) := by
  have hScale : (0 : ℚ) < tenTo (-k).toNat :=
    Nat.cast_pos.mpr (tenTo_pos _)
  have hPoint :
      ((4 * c * gridDenominator k : Nat) : ℚ) =
        quarters (DecimalPoint.mk c k).value * tenTo (-k).toNat := by
    rw [Nat.cast_mul, Nat.cast_mul, gridDenominator_eq]
    unfold quarters DecimalPoint.value
    push_cast
    ring
  unfold Rounds Absorbs
  simp only
  split
  · rw [← @Nat.cast_le ℚ, ← @Nat.cast_le ℚ, hPoint, Nat.cast_mul,
      Nat.cast_mul, mul_le_mul_iff_left₀ hScale,
      mul_le_mul_iff_left₀ hScale]
  · rw [← @Nat.cast_lt ℚ, ← @Nat.cast_lt ℚ, hPoint, Nat.cast_mul,
      Nat.cast_mul, mul_lt_mul_iff_left₀ hScale,
      mul_lt_mul_iff_left₀ hScale]

end Binary64

end TraversalPlanner
