import TraversalPlanner.Pattern.Value
import TraversalPlanner.Proofs.Number.WrittenNumber

/-
  The characters that numbers are written with.  An integer is
  written with digits and its sign alone; no other number is, as
  a literal.

  Main declarations:
    * `Text.isNumberPart`
    * `Numeral.isNumberPart_of_mem_render`
    * `Binary64.isNumberPart_of_mem_render`
    * `Numeral.renderInt_injective`
    * `Binary64.render_ne_renderInt`
-/

namespace TraversalPlanner

------------------------------------------------------------
-- Characters of Numbers
------------------------------------------------------------

namespace Text

/- A character that occurs in written numbers. -/
def isNumberPart (c : Char) : Bool :=
  c.isDigit || decide (c ∈ "+-.eNainf".toList)

/- Digits occur in numbers. -/
theorem isNumberPart_of_isDigit
    {c : Char}
    (hc : c.isDigit = true) :
    isNumberPart c = true := by
  unfold isNumberPart
  rw [hc, Bool.true_or]

/- What occurs in numbers differs from all that does not. -/
theorem ne_of_isNumberPart
    {c d : Char}
    (hc : isNumberPart c = true)
    (hd : isNumberPart d = false) :
    c ≠ d := by
  rintro rfl
  rw [hc] at hd
  cases hd

end Text

------------------------------------------------------------
-- Numerals
------------------------------------------------------------

namespace Numeral

open Text

/- Fractions are written with such characters. -/
theorem isNumberPart_of_mem_fractionText
    {ds : List Digit} :
    ∀ c ∈ fractionText ds, isNumberPart c = true := by
  intro c hc
  unfold fractionText at hc
  split at hc
  · cases hc
  · rcases List.mem_cons.mp hc with rfl | hc
    · rfl
    · exact isNumberPart_of_isDigit (isDigit_of_mem_map_toChar ds c hc)

/- The signs of exponents are such characters. -/
theorem isNumberPart_of_mem_exponentSign
    {plus : Bool}
    {e : Int} :
    ∀ c ∈ exponentSign plus e, isNumberPart c = true := by
  intro c hc
  unfold exponentSign at hc
  split at hc
  · rw [List.mem_singleton.mp hc]
    rfl
  · split at hc
    · rw [List.mem_singleton.mp hc]
      rfl
    · cases hc

/- Exponents are written with such characters. -/
theorem isNumberPart_of_mem_exponentText
    {plus : Bool}
    {e : Option Int} :
    ∀ c ∈ exponentText plus e, isNumberPart c = true := by
  intro c hc
  cases e with
  | none => cases hc
  | some e =>
      rcases List.mem_cons.mp hc with rfl | hc
      · rfl
      · rcases List.mem_append.mp hc with hc | hc
        · exact isNumberPart_of_mem_exponentSign c hc
        · exact isNumberPart_of_isDigit (isDigit_of_mem_toDigits _ c hc)

/- Numerals are written with such characters. -/
theorem isNumberPart_of_mem_render
    {plus : Bool}
    {n : Numeral} :
    ∀ c ∈ (n.render plus).toList, isNumberPart c = true := by
  intro c hc
  rw [toList_render] at hc
  rcases List.mem_append.mp hc with hc | hc
  · cases hSign : n.negative with
    | false =>
        rw [hSign] at hc
        cases hc
    | true =>
        rw [hSign] at hc
        rw [List.mem_singleton.mp hc]
        rfl
  · rcases List.mem_append.mp hc with hc | hc
    · exact isNumberPart_of_isDigit (isDigit_of_mem_toDigits _ c hc)
    · rcases List.mem_append.mp hc with hc | hc
      · exact isNumberPart_of_mem_fractionText c hc
      · exact isNumberPart_of_mem_exponentText c hc

/- Integers are written with such characters. -/
theorem isNumberPart_of_mem_renderInt
    {n : Int} :
    ∀ c ∈ (renderInt n).toList, isNumberPart c = true :=
  isNumberPart_of_mem_render

/- Integers that are written alike are the same. -/
theorem renderInt_injective
    {m n : Int}
    (h : renderInt m = renderInt n) :
    m = n := by
  have hNumeral : ofInt m = ofInt n := eq_of_render_eq h
  have hInt := congrArg toInt? hNumeral
  rw [toInt?_ofInt, toInt?_ofInt] at hInt
  exact Option.some.inj hInt

end Numeral

------------------------------------------------------------
-- Numbers
------------------------------------------------------------

namespace Binary64

open Text

/- Numbers are written with such characters. -/
theorem isNumberPart_of_mem_render
    {style : NumberStyle}
    {x : Binary64} :
    ∀ c ∈ (x.render style).toList, isNumberPart c = true := by
  unfold render renderNonfinite
  split
  · exact Numeral.isNumberPart_of_mem_render
  · split
    · exact List.all_eq_true.mp (by decide)
    · split
      · exact List.all_eq_true.mp (by decide)
      · exact List.all_eq_true.mp (by decide)

/- Every number is written with some character. -/
theorem toList_render_ne_nil
    (style : NumberStyle)
    (x : Binary64) :
    (x.render style).toList ≠ [] := by
  unfold render renderNonfinite
  split
  · intro h
    rcases (x.toNumeral style).exists_digit_of_render with ⟨c, hc, _⟩
    rw [h] at hc
    cases hc
  · split
    · decide
    · split <;> decide

/- A literal has a fraction or an exponent. -/
theorem fraction_or_exponent_of_literal (x : Binary64) :
    (x.toNumeral .literal).fraction ≠ [] ∨
      (x.toNumeral .literal).exponent ≠ none := by
  unfold toNumeral
  split
  · exact Or.inl (List.cons_ne_nil _ _)
  · simp only
    split
    · apply Or.inl
      unfold DecimalPoint.positional
      split
      · rename_i hPlaces
        -- at least one digit stands behind the point
        intro h
        have hBehind := List.append_eq_nil_iff.mp h
        exact Digit.ofNat_ne_nil _ hBehind.2
      · exact List.cons_ne_nil _ _
    · apply Or.inr
      unfold DecimalPoint.scientific
      split <;> exact Option.some_ne_none _

/- No literal for a number is written like an integer. -/
theorem render_ne_renderInt
    (x : Binary64)
    (n : Int) :
    x.render .literal ≠ Numeral.renderInt n := by
  intro h
  cases hFinite : x.isFinite with
  | false =>
      rcases @Numeral.exists_digit_of_render false (Numeral.ofInt n)
        with ⟨c, hc, hDigit⟩
      have hText : (Numeral.ofInt n).render false = x.render .literal :=
        h.symm
      rw [hText] at hc
      rw [not_isDigit_of_not_isFinite hFinite c hc] at hDigit
      cases hDigit
  | true =>
      unfold render at h
      rw [hFinite, if_pos rfl] at h
      have hNumeral : x.toNumeral .literal = Numeral.ofInt n :=
        Numeral.eq_of_render_eq h
      rcases x.fraction_or_exponent_of_literal with hFraction | hExponent
      · exact hFraction (by rw [hNumeral]; rfl)
      · exact hExponent (by rw [hNumeral]; rfl)

end Binary64

end TraversalPlanner
