import TraversalPlanner.Number.Style
import TraversalPlanner.Proofs.Number.NumeralText
import TraversalPlanner.Proofs.Number.ShortestDecimal

/-
  A written number shows which number it is.  The numeral of a
  finite number stands for a size that rounds to that number
  only, and words that are no finite number are not written with
  digits.  Words that stand for no number are written alike.

  Main declarations:
    * `Numeral.value`
    * `Binary64.toNumeral_absorbs`
    * `Binary64.canonical`
    * `Binary64.canonical_eq_of_render_eq`
-/

namespace TraversalPlanner

------------------------------------------------------------
-- Sizes of Numerals
------------------------------------------------------------

namespace Digit

/- The size of digits behind a point. -/
def fractionValue (ds : List Digit) : ℚ :=
  toNat ds / (10 : ℚ) ^ ds.length

end Digit

namespace Numeral

/- The size that a numeral stands for, without its sign. -/
def value (n : Numeral) : ℚ :=
  (n.whole + Digit.fractionValue n.fraction) *
    (10 : ℚ) ^ (n.exponent.getD 0)

end Numeral

namespace DecimalPoint

/- The digits behind the point of a positional numeral. -/
theorem fractionValue_behind
    {n places : Nat}
    (hPlaces : 0 < places)
    (h : n < 10 ^ places) :
    Digit.fractionValue
        (List.replicate (places - (Digit.ofNat n).length) 0 ++
          Digit.ofNat n) =
      n / (10 : ℚ) ^ places := by
  have hLength : (Digit.ofNat n).length ≤ places :=
    Digit.length_ofNat_le hPlaces h
  unfold Digit.fractionValue
  rw [Digit.toNat_replicate_append, Digit.toNat_ofNat, List.length_append,
    List.length_replicate, Nat.sub_add_cancel hLength]

/- The positional numeral of a decimal number stands for its size. -/
theorem value_positional
    (negative keepsFraction : Bool)
    (p : DecimalPoint) :
    (p.positional negative keepsFraction).value = p.value := by
  have hTen : (10 : ℚ) ≠ 0 := by norm_num
  unfold positional
  split
  · rename_i hNegative
    have hPlaces : 0 < p.exponent.natAbs := by omega
    have hBehind : p.coefficient % tenTo p.exponent.natAbs <
        10 ^ p.exponent.natAbs :=
      Nat.mod_lt _ (tenTo_pos _)
    have hExponent : p.exponent = -(p.exponent.natAbs : Int) := by omega
    have hDivMod :
        ((p.coefficient / tenTo p.exponent.natAbs : Nat) : ℚ) *
              (10 : ℚ) ^ p.exponent.natAbs +
            ((p.coefficient % tenTo p.exponent.natAbs : Nat) : ℚ) =
          p.coefficient := by
      rw [← cast_tenTo]
      exact_mod_cast Nat.div_add_mod' _ _
    have hPower : (10 : ℚ) ^ p.exponent.natAbs ≠ 0 :=
      pow_ne_zero _ hTen
    have hValue : p.value =
        p.coefficient / (10 : ℚ) ^ p.exponent.natAbs := by
      unfold value
      rw [hExponent, zpow_neg, zpow_natCast, Int.natAbs_neg,
        Int.natAbs_natCast]
      rfl
    unfold Numeral.value
    simp only [Option.getD_none, zpow_zero, mul_one]
    rw [fractionValue_behind hPlaces hBehind, hValue, ← hDivMod]
    field_simp
  · rename_i hNegative
    have hExponent : p.exponent = (p.exponent.natAbs : Int) := by omega
    have hFraction :
        Digit.fractionValue (if keepsFraction then [0] else []) = 0 := by
      cases keepsFraction <;> simp [Digit.fractionValue, Digit.toNat]
    have hValue : p.value =
        p.coefficient * (10 : ℚ) ^ p.exponent.natAbs := by
      unfold value
      rw [hExponent, zpow_natCast, Int.natAbs_natCast]
    unfold Numeral.value
    simp only [Option.getD_none, zpow_zero, mul_one]
    rw [hFraction, hValue, Nat.cast_mul, cast_tenTo, add_zero]

/- The scientific numeral of a decimal number stands for its size. -/
theorem value_scientific
    (negative : Bool)
    (p : DecimalPoint) :
    (p.scientific negative).value = p.value := by
  have hTen : (10 : ℚ) ≠ 0 := by norm_num
  unfold scientific
  split
  · rename_i hDigits
    exact absurd hDigits (Digit.ofNat_ne_nil _)
  · rename_i d ds hDigits
    have hCoefficient :
        (p.coefficient : ℚ) =
          d.val * (10 : ℚ) ^ ds.length + Digit.toNat ds := by
      have hAppend := Digit.toNat_append [d] ds
      rw [List.singleton_append, ← hDigits, Digit.toNat_ofNat] at hAppend
      have hSingle : Digit.toNat [d] = d.val := Nat.zero_add d.val
      rw [hSingle] at hAppend
      exact_mod_cast hAppend
    have hPower : (10 : ℚ) ^ ds.length ≠ 0 := pow_ne_zero _ hTen
    unfold Numeral.value DecimalPoint.value Digit.fractionValue
    simp only [Option.getD_some]
    rw [zpow_add₀ hTen, zpow_natCast, hCoefficient]
    field_simp

end DecimalPoint

------------------------------------------------------------
-- Written Numbers
------------------------------------------------------------

namespace Binary64

/- The numeral of a number has its sign. -/
theorem negative_toNumeral
    (style : NumberStyle)
    (x : Binary64) :
    (x.toNumeral style).negative = x.isNegative := by
  unfold toNumeral
  split
  · rfl
  · simp only
    split
    · unfold DecimalPoint.positional
      split <;> rfl
    · unfold DecimalPoint.scientific
      split <;> rfl

/- The numeral of a finite number stands for a size that rounds to it. -/
theorem toNumeral_absorbs
    {style : NumberStyle}
    {x : Binary64}
    (hFinite : x.isFinite = true) :
    x.Absorbs (quarters (x.toNumeral style).value) := by
  by_cases hZero : x.magnitude = 0
  · have hIsZero : x.isZero = true := decide_eq_true hZero
    have hValue : (x.toNumeral style).value = 0 := by
      unfold toNumeral Numeral.value Digit.fractionValue
      rw [if_pos hIsZero]
      cases style.keepsFraction <;> simp [Digit.toNat]
    have hSignificand : x.significand = 0 := by
      unfold significand
      rw [hZero, if_pos (twoTo_pos 52)]
    have hLower : x.lowerQuarters = 0 := by
      unfold lowerQuarters quanta
      rw [hSignificand]
      simp only
      split <;> omega
    have hQuarters : quarters 0 = 0 := mul_zero _
    unfold Absorbs
    rw [hSignificand, hValue, hLower, hQuarters, if_pos rfl]
    simp
  · have hPos : 0 < x.magnitude := Nat.pos_of_ne_zero hZero
    have hIsZero : ¬ x.isZero = true := by
      simp [isZero, hZero]
    have hShortest := shortest_absorbs style.tie hFinite hPos
    unfold toNumeral
    rw [if_neg hIsZero]
    simp only
    split
    · rw [DecimalPoint.value_positional]
      exact hShortest
    · rw [DecimalPoint.value_scientific]
      exact hShortest

/- Finite numbers with the same numeral are the same. -/
theorem eq_of_toNumeral_eq
    {style : NumberStyle}
    {x y : Binary64}
    (hx : x.isFinite = true)
    (hy : y.isFinite = true)
    (h : x.toNumeral style = y.toNumeral style) :
    x = y := by
  have hAbsorbsX := @toNumeral_absorbs style x hx
  have hAbsorbsY := @toNumeral_absorbs style y hy
  rw [h] at hAbsorbsX
  apply eq_of_magnitude_eq
  · rw [← negative_toNumeral style, h, negative_toNumeral]
  · exact magnitude_eq_of_absorbs hAbsorbsX hAbsorbsY

/- A finite number is written with a digit. -/
theorem exists_digit_of_isFinite
    {style : NumberStyle}
    {x : Binary64}
    (hFinite : x.isFinite = true) :
    ∃ c ∈ (x.render style).toList, c.isDigit = true := by
  unfold render
  rw [if_pos hFinite]
  exact Numeral.exists_digit_of_render _

/- What is no finite number is written without digits. -/
theorem not_isDigit_of_not_isFinite
    {style : NumberStyle}
    {x : Binary64}
    (hFinite : x.isFinite = false) :
    ∀ c ∈ (x.render style).toList, c.isDigit = false := by
  have hPlain : ∀ text : String,
      text.toList.any Char.isDigit = false →
        ∀ c ∈ text.toList, c.isDigit = false := by
    intro text hText c hc
    exact Bool.eq_false_of_not_eq_true (List.any_eq_false.mp hText c hc)
  unfold render renderNonfinite
  rw [hFinite, if_neg Bool.false_ne_true]
  split
  · exact hPlain "NaN" (by decide)
  · split
    · exact hPlain "-inf" (by decide)
    · exact hPlain "inf" (by decide)

/- A number is finite exactly if it is written with a digit. -/
theorem isFinite_eq_of_render_eq
    {style : NumberStyle}
    {x y : Binary64}
    (h : x.render style = y.render style) :
    x.isFinite = y.isFinite := by
  cases hx : x.isFinite with
  | false =>
      cases hy : y.isFinite with
      | false => rfl
      | true =>
          rcases @exists_digit_of_isFinite style y hy with ⟨c, hc, hDigit⟩
          rw [← h] at hc
          rw [not_isDigit_of_not_isFinite hx c hc] at hDigit
          cases hDigit
  | true =>
      cases hy : y.isFinite with
      | false =>
          rcases @exists_digit_of_isFinite style x hx with ⟨c, hc, hDigit⟩
          rw [h] at hc
          rw [not_isDigit_of_not_isFinite hy c hc] at hDigit
          cases hDigit
      | true => rfl

/-
  A word, where all words that stand for no number are taken as
  one.
-/
def canonical (x : Binary64) : Binary64 :=
  if x.isNaN then nan false else x

/- Taking words as one does not change what is written. -/
theorem render_canonical
    (style : NumberStyle)
    (x : Binary64) :
    x.canonical.render style = x.render style := by
  unfold canonical
  split
  · rename_i hNaN
    have hFinite : x.isFinite = false := by
      unfold isNaN at hNaN
      unfold isFinite
      simp only [decide_eq_true_eq] at hNaN
      exact decide_eq_false (by omega)
    have hCanonical : (nan false).isFinite = false := by decide
    have hCanonicalNaN : (nan false).isNaN = true := by decide
    unfold render renderNonfinite
    simp only [hFinite, hCanonical, hNaN, hCanonicalNaN,
      Bool.false_eq_true, if_false, if_true]
  · rfl

/- What is neither finite nor no number is infinite. -/
theorem magnitude_eq_infinite
    {x : Binary64}
    (hFinite : x.isFinite = false)
    (hNaN : x.isNaN = false) :
    x.magnitude = infiniteMagnitude := by
  have hLe := of_decide_eq_false hFinite
  have hGe := of_decide_eq_false hNaN
  omega

/- The texts of words that are no finite number. -/
theorem fields_eq_of_renderNonfinite_eq
    {x y : Binary64}
    (h : x.renderNonfinite = y.renderNonfinite) :
    x.isNaN = y.isNaN ∧
      (x.isNaN = false → x.isNegative = y.isNegative) := by
  have hTexts : ∀ a b c d : Bool,
      (if a then "NaN" else if b then "-inf" else "inf") =
          (if c then "NaN" else if d then "-inf" else "inf") →
        a = c ∧ (a = false → b = d) := by
    decide
  exact hTexts _ _ _ _ h

/-
  Numbers that are written alike are the same, if all words that
  stand for no number are taken as one.
-/
theorem canonical_eq_of_render_eq
    {style : NumberStyle}
    {x y : Binary64}
    (h : x.render style = y.render style) :
    x.canonical = y.canonical := by
  have hFinite := isFinite_eq_of_render_eq h
  unfold render at h
  rw [← hFinite] at h
  cases hx : x.isFinite with
  | true =>
      rw [hx] at hFinite
      rw [hx, if_pos rfl, if_pos rfl] at h
      have hNumeral := Numeral.eq_of_render_eq h
      rw [eq_of_toNumeral_eq hx hFinite.symm hNumeral]
  | false =>
      rw [hx] at hFinite
      rw [hx, if_neg Bool.false_ne_true, if_neg Bool.false_ne_true] at h
      rcases fields_eq_of_renderNonfinite_eq h with ⟨hNaN, hSign⟩
      unfold canonical
      rw [← hNaN]
      cases hxNaN : x.isNaN with
      | true => rfl
      | false =>
          rw [hxNaN] at hNaN
          apply eq_of_magnitude_eq (hSign hxNaN)
          rw [magnitude_eq_infinite hx hxNaN,
            magnitude_eq_infinite hFinite.symm hNaN.symm]

end Binary64

end TraversalPlanner
