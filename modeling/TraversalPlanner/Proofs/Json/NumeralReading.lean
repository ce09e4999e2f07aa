import TraversalPlanner.Json.Reader
import TraversalPlanner.Proofs.Number.NumeralText

/-
  A written numeral is read as that numeral, up to a character
  that cannot continue it.

  Main declarations:
    * `Json.readDigits_append`
    * `Json.EndsNumeral`
    * `Json.readNumber_render`
-/

namespace TraversalPlanner

------------------------------------------------------------
-- Digits
------------------------------------------------------------

namespace Digit

/- The character of a digit is read as that digit. -/
theorem ofChar?_toChar :
    ∀ d : Digit, ofChar? (toChar d) = some d := by
  decide

/- Other characters are read as none. -/
theorem ofChar?_eq_none
    {c : Char}
    (hc : c.isDigit = false) :
    ofChar? c = none := by
  unfold ofChar?
  rw [dif_neg]
  rintro ⟨hLow, hHigh⟩
  have hDigit : c.isDigit = true := by
    simp [Char.isDigit, UInt32.le_iff_toNat_le] at *
    omega
  rw [hc] at hDigit
  cases hDigit

/- The digits of a number, written out. -/
theorem map_toChar_ofNat (n : Nat) :
    (ofNat n).map toChar = Nat.toDigits 10 n := by
  have hChar : ∀ d : Digit, toChar d = Nat.digitChar d.val := by
    decide
  induction n using Nat.strongRecOn with
  | ind n ih =>
      by_cases h : n < 10
      · rw [ofNat_of_lt h, Nat.toDigits_of_lt_base h]
        exact congrArg (fun c => [c]) (hChar _)
      · have hStep := Nat.toDigits_of_base_le (by decide)
          (Nat.le_of_not_lt h)
        rw [ofNat_of_le (Nat.le_of_not_lt h), List.map_append,
          ih (n / 10) (by omega), hStep]
        exact congrArg (fun c => _ ++ [c]) (hChar _)

/- Only zero starts with a zero. -/
theorem head?_ofNat_ne_zero
    {n : Nat}
    (hn : n ≠ 0) :
    (ofNat n).head? ≠ some 0 := by
  induction n using Nat.strongRecOn with
  | ind n ih =>
      by_cases h : n < 10
      · rw [ofNat_of_lt h]
        intro hHead
        injection hHead with hZero
        exact hn (congrArg Fin.val hZero)
      · rw [ofNat_of_le (by omega)]
        have hHead := ih (n / 10) (by omega) (by omega)
        cases hDigits : ofNat (n / 10) with
        | nil => exact absurd hDigits (ofNat_ne_nil _)
        | cons d ds =>
            rw [hDigits] at hHead
            exact hHead

/- A number has no leading zero. -/
theorem leading_of_ofNat_eq_cons
    {n : Nat}
    {d : Digit}
    {ds : List Digit}
    (h : ofNat n = d :: ds) :
    (d.val == 0 && !ds.isEmpty) = false := by
  by_cases hn : n = 0
  · rw [hn, ofNat_of_lt (by decide)] at h
    cases h
    rfl
  · have hHead := head?_ofNat_ne_zero hn
    rw [h] at hHead
    have hd : d.val ≠ 0 := by
      intro hZero
      exact hHead (congrArg some (Fin.ext hZero))
    simp [hd]

end Digit

namespace Json

/- Written digits are read, up to a character that is none. -/
theorem readDigits_append
    (ds : List Digit)
    {rest : List Char}
    (hRest : ∀ c ∈ rest.head?, c.isDigit = false) :
    readDigits (ds.map Digit.toChar ++ rest) = (ds, rest) := by
  induction ds with
  | nil =>
      cases rest with
      | nil => rfl
      | cons c cs =>
          have hNone := Digit.ofChar?_eq_none (hRest c rfl)
          simp only [List.map_nil, List.nil_append, readDigits, hNone]
  | cons d ds ih =>
      simp only [List.map_cons, List.cons_append, readDigits,
        Digit.ofChar?_toChar, ih]

------------------------------------------------------------
-- Parts of Numerals
------------------------------------------------------------

/- The text does not go on with a numeral that ends before it. -/
def EndsNumeral (rest : List Char) : Prop :=
  ∀ c ∈ rest.head?, c.isDigit = false ∧ c ≠ '.' ∧ c ≠ 'e' ∧ c ≠ 'E'

/- A written fraction is read. -/
theorem readFraction_append
    {ds : List Digit}
    {rest : List Char}
    (hRest : ∀ c ∈ rest.head?, c.isDigit = false ∧ c ≠ '.') :
    readFraction (Numeral.fractionText ds ++ rest) = some (ds, rest) := by
  cases ds with
  | nil =>
      cases rest with
      | nil => rfl
      | cons c cs =>
          have hPoint := (hRest c rfl).2
          unfold readFraction
          split
          · rename_i cs' hText
            cases hText
            exact absurd rfl hPoint
          · rfl
  | cons d ds =>
      have hDigits : readDigits ((d :: ds).map Digit.toChar ++ rest) =
          (d :: ds, rest) :=
        readDigits_append _ fun c hc => (hRest c hc).1
      have hText : Numeral.fractionText (d :: ds) ++ rest =
          '.' :: ((d :: ds).map Digit.toChar ++ rest) := rfl
      rw [hText]
      simp only [readFraction, hDigits]

/- The written digits of an exponent are read. -/
theorem readExponentDigits_append
    {negative : Bool}
    {n : Nat}
    {rest : List Char}
    (hRest : ∀ c ∈ rest.head?, c.isDigit = false) :
    readExponentDigits negative (Nat.toDigits 10 n ++ rest) =
      some (some (if negative then -(n : Int) else n), rest) := by
  have hDigits := readDigits_append (Digit.ofNat n) hRest
  have hNumber : digitsToNat (Digit.ofNat n) = n := Digit.toNat_ofNat n
  rw [Digit.map_toChar_ofNat] at hDigits
  unfold readExponentDigits
  rw [hDigits]
  cases hText : Digit.ofNat n with
  | nil => exact absurd hText (Digit.ofNat_ne_nil n)
  | cons d ds =>
      rw [hText] at hNumber
      simp only [hNumber]

/- A written exponent is read. -/
theorem readExponent_append
    {e : Option Int}
    {rest : List Char}
    (hRest : EndsNumeral rest) :
    readExponent (Numeral.exponentText true e ++ rest) =
      some (e, rest) := by
  have hDigits : ∀ c ∈ rest.head?, c.isDigit = false :=
    fun c hc => (hRest c hc).1
  cases e with
  | none =>
      cases rest with
      | nil => rfl
      | cons c cs =>
          rcases (hRest c rfl).2.2 with ⟨hLower, hUpper⟩
          simp [Numeral.exponentText, readExponent, hLower, hUpper]
  | some e =>
      by_cases hSign : e < 0
      · have hText : Numeral.exponentText true (some e) ++ rest =
            'e' :: '-' :: (Nat.toDigits 10 e.natAbs ++ rest) := by
          simp [Numeral.exponentText, Numeral.exponentSign, hSign]
        have hValue : -(e.natAbs : Int) = e := by
          omega
        rw [hText, readExponent, readExponentDigits_append hDigits, if_pos rfl,
          hValue]
      · have hText : Numeral.exponentText true (some e) ++ rest =
            'e' :: '+' :: (Nat.toDigits 10 e.natAbs ++ rest) := by
          simp [Numeral.exponentText, Numeral.exponentSign, hSign]
        have hValue : (e.natAbs : Int) = e := by
          omega
        rw [hText, readExponent, readExponentDigits_append hDigits,
          if_neg Bool.false_ne_true, hValue]

------------------------------------------------------------
-- Numerals
------------------------------------------------------------

/- What follows the whole part of a numeral does not go on with it. -/
theorem head?_behind_whole
    (ds : List Digit)
    (e : Option Int)
    {rest : List Char}
    (hRest : EndsNumeral rest) :
    ∀ c ∈ (Numeral.fractionText ds ++
        (Numeral.exponentText true e ++ rest)).head?,
      c.isDigit = false := by
  intro c hc
  rw [← List.append_assoc, List.head?_append] at hc
  cases hBehind : (Numeral.fractionText ds ++
      Numeral.exponentText true e).head? with
  | some d =>
      rw [hBehind] at hc
      cases hc
      exact Numeral.head?_fractionText_append _ hBehind
  | none =>
      rw [hBehind] at hc
      exact (hRest c hc).1

/- What follows the fraction of a numeral does not go on with it. -/
theorem head?_behind_fraction
    {e : Option Int}
    {rest : List Char}
    (hRest : EndsNumeral rest) :
    ∀ c ∈ (Numeral.exponentText true e ++ rest).head?,
      c.isDigit = false ∧ c ≠ '.' := by
  intro c hc
  cases e with
  | none => exact ⟨(hRest c hc).1, (hRest c hc).2.1⟩
  | some e =>
      cases hc
      decide

/- A written numeral is read behind its sign. -/
theorem readUnsigned_append
    (n : Numeral)
    {rest : List Char}
    (hRest : EndsNumeral rest) :
    readUnsigned n.negative
        (Nat.toDigits 10 n.whole ++
          (Numeral.fractionText n.fraction ++
            (Numeral.exponentText true n.exponent ++ rest))) =
      some (n, rest) := by
  have hDigits := readDigits_append (Digit.ofNat n.whole)
    (head?_behind_whole n.fraction n.exponent hRest)
  rw [Digit.map_toChar_ofNat] at hDigits
  unfold readUnsigned
  rw [hDigits]
  cases hText : Digit.ofNat n.whole with
  | nil => exact absurd hText (Digit.ofNat_ne_nil _)
  | cons d ds =>
      have hNumber : digitsToNat (d :: ds) = n.whole := by
        rw [← hText]
        exact Digit.toNat_ofNat n.whole
      simp only [Digit.leading_of_ofNat_eq_cons hText, Bool.false_eq_true,
        if_false, readFraction_append (head?_behind_fraction hRest),
        Option.bind_eq_bind, Option.bind_some, readExponent_append hRest,
        hNumber]
      rfl

/- A written numeral is read. -/
theorem readNumber_render
    (n : Numeral)
    {rest : List Char}
    (hRest : EndsNumeral rest) :
    readNumber ((n.render true).toList ++ rest) = some (n, rest) := by
  rw [Numeral.toList_render]
  simp only [List.append_assoc]
  have hUnsigned := readUnsigned_append n hRest
  cases hSign : n.negative with
  | true =>
      rw [hSign] at hUnsigned
      exact hUnsigned
  | false =>
      rw [hSign] at hUnsigned
      -- a digit is no minus sign
      have hPlain : ∀ cs, Nat.toDigits 10 n.whole ++
          (Numeral.fractionText n.fraction ++
            (Numeral.exponentText true n.exponent ++ rest)) ≠ '-' :: cs :=
        fun cs => Numeral.toDigits_append_ne_cons rfl _ _ _
      rw [if_neg Bool.false_ne_true, List.nil_append]
      unfold readNumber
      split
      · rename_i cs hText
        exact absurd hText (hPlain cs)
      · exact hUnsigned

end Json

end TraversalPlanner
