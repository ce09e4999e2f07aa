import Mathlib.Data.Int.Log
import TraversalPlanner.Proofs.Number.RoundingInterval

/-
  The shortest decimal of a finite number rounds to that number.
  Among seventeen digits some point of the grid does, since the
  grid is finer than the interval of the reals that round to the
  number.

  Main declarations:
    * `Binary64.reachesPower_leadingExponent`
    * `Binary64.exists_neighbour_of_fine`
    * `Binary64.shortest_absorbs`
-/

namespace TraversalPlanner

------------------------------------------------------------
-- Trailing Zeros
------------------------------------------------------------

namespace DecimalPoint

/- Removing trailing zeros keeps the size. -/
theorem value_trim
    (n : Nat) :
    ∀ p : DecimalPoint, (p.trim n).value = p.value := by
  induction n with
  | zero =>
      intro p
      rfl
  | succ n ih =>
      intro p
      rw [trim]
      split
      · rename_i h
        rw [ih]
        have hTen : p.coefficient = 10 * (p.coefficient / 10) := by
          omega
        have hCast :
            (p.coefficient : ℚ) =
              10 * ((p.coefficient / 10 : Nat) : ℚ) := by
          exact_mod_cast hTen
        unfold value
        rw [zpow_add_one₀ (by norm_num), hCast]
        ring
      · rfl

end DecimalPoint

namespace Binary64

------------------------------------------------------------
-- Leading Exponents
------------------------------------------------------------

/- The leading exponent of ten that a leading exponent of two suggests. -/
def suggestedExponent (b : Nat) : Int :=
  Int.fdiv (((b : Int) - 1074) * 30103) 100000

/-
  A power of two among the sizes of finite numbers reaches the
  power of ten that it suggests.
-/
theorem reaches_suggestedExponent :
    ∀ b < 2098,
      gridDenominator (suggestedExponent b) ≤
        twoTo b * tenTo (-suggestedExponent b).toNat := by
  decide +kernel

/- A number other than zero has a size. -/
theorem quanta_pos
    {x : Binary64}
    (h : 0 < x.magnitude) :
    0 < x.quanta :=
  Nat.mul_pos (significand_pos h) (twoTo_pos _)

/- A size has as many bits as its significand and its place. -/
theorem log2_quanta_lt
    {x : Binary64}
    {n : Nat}
    (h : 0 < x.magnitude)
    (hPlace : x.placeExponent ≤ n) :
    x.quanta.log2 < 53 + n := by
  rw [Nat.log2_lt (quanta_pos h).ne', Nat.pow_add]
  calc x.quanta
      < 2 ^ 53 * twoTo x.placeExponent :=
        Nat.mul_lt_mul_of_pos_right x.significand_lt (twoTo_pos _)
    _ ≤ 2 ^ 53 * 2 ^ n :=
        Nat.mul_le_mul_left _ (Nat.pow_le_pow_right (by decide) hPlace)

/- The last place of a finite number. -/
theorem placeExponent_le
    {x : Binary64}
    (hFinite : x.isFinite = true) :
    x.placeExponent ≤ 2045 := by
  have hMagnitude : x.magnitude < 0x7FF * 2 ^ 52 :=
    of_decide_eq_true hFinite
  unfold placeExponent
  rw [twoTo_eq_pow]
  omega

/- A number reaches the power of ten of its leading digit. -/
theorem reachesPower_leadingExponent
    {x : Binary64}
    (hFinite : x.isFinite = true)
    (h : 0 < x.magnitude) :
    x.ReachesPower x.leadingExponent := by
  have hSize : x.quanta ≠ 0 := (quanta_pos h).ne'
  have hLog : x.quanta.log2 < 53 + 2045 :=
    log2_quanta_lt h (placeExponent_le hFinite)
  unfold leadingExponent
  simp only
  split
  · assumption
  · have hSuggested := reaches_suggestedExponent _ hLog
    have hPower : twoTo x.quanta.log2 ≤ x.quanta :=
      Nat.log2_self_le hSize
    exact hSuggested.trans (Nat.mul_le_mul_right _ hPower)

/- A number reaches the powers of ten up to its size. -/
theorem reachesPower_iff
    {x : Binary64}
    {k : Int} :
    x.ReachesPower k ↔
      quarters ((10 : ℚ) ^ k) ≤ ((4 * x.quanta : Nat) : ℚ) := by
  have hScale : (0 : ℚ) < tenTo (-k).toNat :=
    Nat.cast_pos.mpr (tenTo_pos _)
  unfold ReachesPower gridNumerator quarters
  rw [← @Nat.cast_le ℚ, gridDenominator_eq, Nat.cast_mul,
    mul_le_mul_iff_left₀ hScale]
  push_cast
  constructor
  · intro h
    linarith
  · intro h
    linarith

------------------------------------------------------------
-- Seventeen Digits
------------------------------------------------------------

/- The size of a number lies between the ends of its interval. -/
theorem quanta_between
    {x : Binary64}
    (h : 0 < x.magnitude) :
    x.lowerQuarters < 4 * x.quanta ∧
      4 * x.quanta < x.upperQuarters := by
  have hGap : 0 < twoTo x.placeExponent := twoTo_pos _
  have hPos := quanta_pos h
  unfold upperQuarters lowerQuarters
  simp only
  constructor
  · split <;> omega
  · omega

/-
  The interval of a number is wide: more than the number's size
  when it is taken ten million million million times.
-/
theorem quanta_lt_width
    {x : Binary64}
    (h : 0 < x.magnitude) :
    4 * x.quanta + 10 ^ 16 * x.lowerQuarters <
      10 ^ 16 * x.upperQuarters := by
  have hGap : 0 < twoTo x.placeExponent := twoTo_pos _
  have hLt : x.significand < 2 ^ 53 := x.significand_lt
  have hPos := significand_pos h
  have hLeast : twoTo x.placeExponent ≤ x.quanta :=
    Nat.le_mul_of_pos_left _ hPos
  unfold upperQuarters lowerQuarters
  simp only
  split
  · rename_i hPower
    have hQuanta : x.quanta = 2 ^ 52 * twoTo x.placeExponent := by
      unfold quanta
      rw [hPower.1, twoTo_eq_pow]
    omega
  · have hQuanta : x.quanta < 2 ^ 53 * twoTo x.placeExponent :=
      Nat.mul_lt_mul_of_pos_right hLt hGap
    omega

/- The neighbours of a number on a grid enclose its size. -/
theorem grid_neighbours
    (x : Binary64)
    (k : Int) :
    quarters (DecimalPoint.mk
          (x.gridNumerator k / gridDenominator k) k).value ≤
        ((4 * x.quanta : Nat) : ℚ) ∧
      ((4 * x.quanta : Nat) : ℚ) <
        quarters (DecimalPoint.mk
          (x.gridNumerator k / gridDenominator k + 1) k).value := by
  have hScale : (0 : ℚ) < tenTo (-k).toNat :=
    Nat.cast_pos.mpr (tenTo_pos _)
  have hNumerator :
      (x.gridNumerator k : ℚ) = x.quanta * tenTo (-k).toNat := by
    unfold gridNumerator
    push_cast
    rfl
  have hLe : x.gridNumerator k / gridDenominator k *
      gridDenominator k ≤ x.gridNumerator k :=
    Nat.div_mul_le_self _ _
  have hLt : x.gridNumerator k <
      (x.gridNumerator k / gridDenominator k + 1) * gridDenominator k :=
    Nat.lt_mul_of_div_lt (Nat.lt_succ_self _) (gridDenominator_pos k)
  unfold quarters DecimalPoint.value
  constructor
  · rw [← @Nat.cast_le ℚ, Nat.cast_mul, gridDenominator_eq, hNumerator,
      ← mul_assoc, mul_le_mul_iff_left₀ hScale] at hLe
    push_cast
    linarith
  · rw [← @Nat.cast_lt ℚ, Nat.cast_mul, gridDenominator_eq, hNumerator,
      ← mul_assoc, mul_lt_mul_iff_left₀ hScale] at hLt
    push_cast at hLt ⊢
    linarith

/-
  If a grid is finer than the interval of a number, a neighbour
  of the number on the grid rounds to it.
-/
theorem exists_neighbour_of_fine
    {x : Binary64}
    {k : Int}
    (h : 0 < x.magnitude)
    (hFine :
      x.lowerQuarters + quarters ((10 : ℚ) ^ k) < x.upperQuarters) :
    x.Rounds k (x.gridNumerator k / gridDenominator k) ∨
      x.Rounds k (x.gridNumerator k / gridDenominator k + 1) := by
  rcases quanta_between h with ⟨hLower, hUpper⟩
  rcases x.grid_neighbours k with ⟨hBelow, hAbove⟩
  have hLower' :
      (x.lowerQuarters : ℚ) < ((4 * x.quanta : Nat) : ℚ) :=
    Nat.cast_lt.mpr hLower
  have hUpper' :
      ((4 * x.quanta : Nat) : ℚ) < (x.upperQuarters : ℚ) :=
    Nat.cast_lt.mpr hUpper
  rw [rounds_iff_absorbs, rounds_iff_absorbs]
  by_cases hCase :
      (x.lowerQuarters : ℚ) <
        quarters (DecimalPoint.mk
          (x.gridNumerator k / gridDenominator k) k).value
  · exact Or.inl (absorbs_of_lt hCase (by linarith))
  · -- the next point is one step further, within the interval
    have hStep :
        quarters (DecimalPoint.mk
            (x.gridNumerator k / gridDenominator k + 1) k).value =
          quarters (DecimalPoint.mk
              (x.gridNumerator k / gridDenominator k) k).value +
            quarters ((10 : ℚ) ^ k) := by
      unfold quarters DecimalPoint.value
      push_cast
      ring
    rw [not_lt] at hCase
    exact Or.inr (absorbs_of_lt (by linarith) (by linarith))

/- Seventeen digits suffice. -/
theorem exists_neighbour_seventeen
    {x : Binary64}
    (hFinite : x.isFinite = true)
    (h : 0 < x.magnitude) :
    x.Rounds (x.leadingExponent - 16)
        (x.gridNumerator (x.leadingExponent - 16) /
          gridDenominator (x.leadingExponent - 16)) ∨
      x.Rounds (x.leadingExponent - 16)
        (x.gridNumerator (x.leadingExponent - 16) /
          gridDenominator (x.leadingExponent - 16) + 1) := by
  apply exists_neighbour_of_fine h
  have hReaches :=
    reachesPower_iff.mp (reachesPower_leadingExponent hFinite h)
  have hWidth :
      ((4 * x.quanta : Nat) : ℚ) + 10 ^ 16 * x.lowerQuarters <
        10 ^ 16 * x.upperQuarters := by
    exact_mod_cast quanta_lt_width h
  have hStep :
      quarters ((10 : ℚ) ^ x.leadingExponent) =
        10 ^ 16 * quarters ((10 : ℚ) ^ (x.leadingExponent - 16)) := by
    have hPower :
        (10 : ℚ) ^ x.leadingExponent =
          10 ^ 16 * 10 ^ (x.leadingExponent - 16) := by
      calc
        (10 : ℚ) ^ x.leadingExponent =
            10 ^ (((16 : Nat) : Int) + (x.leadingExponent - 16)) :=
          congrArg _ (by omega)
        _ = 10 ^ 16 * 10 ^ (x.leadingExponent - 16) := by
          rw [zpow_add₀ (by norm_num), zpow_natCast]
    unfold quarters
    rw [hPower]
    exact mul_left_comm _ _ _
  rw [hStep] at hReaches
  linarith

------------------------------------------------------------
-- Shortest Decimals
------------------------------------------------------------

/- A neighbour that is found rounds to the number. -/
theorem rounds_of_neighbour?
    {tie : Tie}
    {x : Binary64}
    {k : Int}
    {c : Nat}
    (h : x.neighbour? tie k = some c) :
    x.Rounds k c := by
  unfold neighbour? at h
  simp only at h
  split at h
  · rename_i hBelow
    split at h
    · rename_i hAbove
      split at h
      · cases h
        exact hBelow
      · split at h
        · cases h
          exact hAbove
        · -- a tie goes to one of the two neighbours
          cases tie with
          | up =>
              cases h
              exact hAbove
          | even =>
              cases h
              rcases Nat.mod_two_eq_zero_or_one
                  (x.gridNumerator k / gridDenominator k) with hMod | hMod
              · rw [hMod, Nat.add_zero]
                exact hBelow
              · rw [hMod]
                exact hAbove
    · cases h
      exact hBelow
  · split at h
    · rename_i hAbove
      cases h
      exact hAbove
    · cases h

/- A neighbour is found if one of the two rounds to the number. -/
theorem neighbour?_ne_none
    {tie : Tie}
    {x : Binary64}
    {k : Int}
    (h :
      x.Rounds k (x.gridNumerator k / gridDenominator k) ∨
        x.Rounds k (x.gridNumerator k / gridDenominator k + 1)) :
    x.neighbour? tie k ≠ none := by
  unfold neighbour?
  simp only
  split
  · split
    · split
      · simp
      · split
        · simp
        · cases tie <;> simp
    · simp
  · rename_i hBelow
    rw [if_pos (h.resolve_left hBelow)]
    simp

/- The shortest decimal of a number rounds to it. -/
theorem shortest_absorbs
    {x : Binary64}
    (tie : Tie)
    (hFinite : x.isFinite = true)
    (h : 0 < x.magnitude) :
    x.Absorbs (quarters (x.shortest tie).value) := by
  unfold shortest
  simp only
  split
  · rename_i p hFound
    rcases List.exists_of_findSome?_eq_some hFound with ⟨k, _, hk⟩
    rcases Option.map_eq_some_iff.mp hk with ⟨c, hc, rfl⟩
    rw [DecimalPoint.value_trim]
    exact rounds_iff_absorbs.mp (rounds_of_neighbour? hc)
  · rename_i hNone
    -- the finest grid has a neighbour that rounds to the number
    have hGrid :
        x.leadingExponent - 16 ∈
          (List.range 17).map fun (n : Nat) =>
            x.leadingExponent - (n : Int) :=
      List.mem_map.mpr ⟨16, by simp, rfl⟩
    have hMissing := List.findSome?_eq_none_iff.mp hNone _ hGrid
    exact absurd (Option.map_eq_none_iff.mp hMissing)
      (neighbour?_ne_none (exists_neighbour_seventeen hFinite h))

end Binary64

end TraversalPlanner
