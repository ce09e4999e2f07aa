import TraversalPlanner.Json.Printer
import TraversalPlanner.Json.Reader

/-
  A quoted string is read as that string, whatever its characters
  are.

  Main declarations:
    * `Json.StringUnit.StandsFor`
    * `Json.readString_spell`
-/

namespace TraversalPlanner

namespace Json

------------------------------------------------------------
-- Characters
------------------------------------------------------------

/-
  What a character is written with: itself, or its code if it is a
  control character.
-/
inductive StringUnit.StandsFor : StringUnit → Char → Prop where
| plain
    (c : Char) :
    StandsFor (.plain c) c
| code
    {c : Char} :
    c.toNat < 32 →
    StandsFor (.code c.toNat) c

/- The two digits of a control character are its code. -/
theorem codeUnit?_controlDigits
    {c : Char}
    (hc : c.toNat < 32) :
    ∃ a b, controlDigits c = [a, b] ∧
      codeUnit? '0' '0' a b = some c.toNat := by
  have hCodes : ∀ n < 32,
      controlDigits (Char.ofNat n) =
          [Nat.digitChar (n / 16), Nat.digitChar (n % 16)] ∧
        codeUnit? '0' '0' (Nat.digitChar (n / 16)) (Nat.digitChar (n % 16)) =
          some n := by
    decide
  have hCode := hCodes c.toNat hc
  rw [Char.ofNat_toNat] at hCode
  exact ⟨_, _, hCode⟩

/- A spelled character is read as one unit that stands for it. -/
theorem readUnits_spell
    (c : Char)
    {cs rest : List Char}
    {us : List StringUnit}
    (h : readUnits cs = some (us, rest)) :
    ∃ u : StringUnit, u.StandsFor c ∧
      readUnits (spell c ++ cs) = some (u :: us, rest) := by
  by_cases hQuote : c = '"'
  · subst hQuote
    exact ⟨_, .plain _, by simp [spell, readUnits, escaped?, h]⟩
  by_cases hBackslash : c = '\\'
  · subst hBackslash
    exact ⟨_, .plain _, by simp [spell, readUnits, escaped?, h]⟩
  by_cases hLine : c = '\n'
  · subst hLine
    exact ⟨_, .plain _, by simp [spell, readUnits, escaped?, h]⟩
  by_cases hReturn : c = '\r'
  · subst hReturn
    exact ⟨_, .plain _, by simp [spell, readUnits, escaped?, h]⟩
  by_cases hTab : c = '\t'
  · subst hTab
    exact ⟨_, .plain _, by simp [spell, readUnits, escaped?, h]⟩
  by_cases hBack : c.toNat = 8
  · obtain rfl : c = Char.ofNat 8 := by
      rw [← hBack, Char.ofNat_toNat]
    exact ⟨_, .plain _, by simp [spell, readUnits, escaped?, h]⟩
  by_cases hForm : c.toNat = 12
  · obtain rfl : c = Char.ofNat 12 := by
      rw [← hForm, Char.ofNat_toNat]
    exact ⟨_, .plain _, by simp [spell, readUnits, escaped?, h]⟩
  by_cases hControl : c.toNat < 32
  · rcases codeUnit?_controlDigits hControl with ⟨a, b, hDigits, hCode⟩
    refine ⟨_, .code hControl, ?_⟩
    simp [spell, hQuote, hBackslash, hLine, hReturn, hTab, hBack, hForm,
      hControl, hDigits, readUnits, hCode, h]
  · refine ⟨_, .plain c, ?_⟩
    simp [spell, hQuote, hBackslash, hLine, hReturn, hTab, hBack, hForm,
      hControl, readUnits, h]

/- A unit that stands for a character is read as it. -/
theorem StringUnit.StandsFor.charsOfUnits_cons
    {u : StringUnit}
    {c : Char}
    (hUnit : u.StandsFor c)
    (us : List StringUnit) :
    charsOfUnits (u :: us) = (charsOfUnits us).map (c :: ·) := by
  cases hUnit with
  | plain => simp [charsOfUnits]
  | code hc =>
      -- no control character is half of a surrogate pair
      have hHigh : isHighSurrogate c.toNat = false := by
        simp [isHighSurrogate]
        omega
      have hLow : isLowSurrogate c.toNat = false := by
        simp [isLowSurrogate]
        omega
      rw [charsOfUnits.eq_def]
      simp only [hHigh, hLow, Bool.false_eq_true, if_false,
        Char.ofNat_toNat]

------------------------------------------------------------
-- Strings
------------------------------------------------------------

/- The units of a spelled text stand for its characters. -/
theorem readUnits_flatMap_spell
    (cs rest : List Char) :
    ∃ us, readUnits (cs.flatMap spell ++ '"' :: rest) = some (us, rest) ∧
      charsOfUnits us = some cs := by
  induction cs with
  | nil => exact ⟨[], by simp [readUnits], by simp [charsOfUnits]⟩
  | cons c cs ih =>
      rcases ih with ⟨us, hRead, hChars⟩
      rcases readUnits_spell c hRead with ⟨u, hUnit, hRead⟩
      refine ⟨u :: us, ?_, ?_⟩
      · rw [List.flatMap_cons, List.append_assoc]
        exact hRead
      · rw [hUnit.charsOfUnits_cons, hChars]
        rfl

/- A quoted string is read behind its opening quote. -/
theorem readString_spell
    (s : String)
    (rest : List Char) :
    readString (s.toList.flatMap spell ++ '"' :: rest) =
      some (some s, rest) := by
  rcases readUnits_flatMap_spell s.toList rest with ⟨us, hRead, hChars⟩
  unfold readString
  rw [hRead]
  simp only [Option.map_some, hChars, String.ofList_toList]

end Json

end TraversalPlanner
