import Mathlib.Algebra.Group.Nat.Defs
import TraversalPlanner.Number.Numeral
import TraversalPlanner.Proofs.Text.ReadingBack

/-
  The text of a numeral shows the numeral: its digits end at a
  point, at the mark of an exponent, or with the text.

  Main declarations:
    * `Digit.toNat`
    * `Digit.toNat_ofNat`
    * `Numeral.eq_of_render_eq`
-/

namespace TraversalPlanner

------------------------------------------------------------
-- Digits
------------------------------------------------------------

namespace Digit

/- The number that digits write, the first one counting most. -/
def toNat (ds : List Digit) : Nat :=
  ds.foldl (fun n d => 10 * n + d.val) 0

/- The digits of a number below ten. -/
theorem ofNat_of_lt
    {n : Nat}
    (h : n < 10) :
    ofNat n = [⟨n, h⟩] := by
  have hDigit : ∀ d : Fin 10, ofChar? (Nat.digitChar d.val) = some d := by
    decide
  unfold ofNat
  rw [Nat.toDigits_of_lt_base h]
  simp [hDigit ⟨n, h⟩]

/- The last digit of a greater number. -/
theorem ofNat_of_le
    {n : Nat}
    (h : 10 ≤ n) :
    ofNat n = ofNat (n / 10) ++ [⟨n % 10, Nat.mod_lt n (by decide)⟩] := by
  have hLast := ofNat_of_lt (Nat.mod_lt n (by decide : 0 < 10))
  unfold ofNat at hLast ⊢
  rw [Nat.toDigits_of_lt_base (Nat.mod_lt n (by decide))] at hLast
  rw [Nat.toDigits_of_base_le (by decide) h, List.filterMap_append, hLast]

/- The number after a further digit. -/
theorem toNat_append_singleton
    (ds : List Digit)
    (d : Digit) :
    toNat (ds ++ [d]) = 10 * toNat ds + d.val := by
  unfold toNat
  rw [List.foldl_append]
  rfl

/- The digits of a number write it. -/
theorem toNat_ofNat (n : Nat) :
    toNat (ofNat n) = n := by
  induction n using Nat.strongRecOn with
  | ind n ih =>
      by_cases h : n < 10
      · rw [ofNat_of_lt h]
        exact Nat.zero_add n
      · rw [ofNat_of_le (by omega), toNat_append_singleton,
          ih (n / 10) (by omega)]
        exact Nat.div_add_mod n 10

/- Reading digits on from a number. -/
theorem foldl_eq
    {ds : List Digit} :
    ∀ n : Nat,
      ds.foldl (fun n d => 10 * n + d.val) n =
        n * 10 ^ ds.length + toNat ds := by
  unfold toNat
  induction ds with
  | nil =>
      intro n
      simp
  | cons d ds ih =>
      intro n
      rw [List.foldl_cons, List.foldl_cons, ih, ih (10 * 0 + d.val),
        List.length_cons, Nat.pow_succ, Nat.add_mul, Nat.mul_zero,
        Nat.zero_add, Nat.mul_comm 10 n, Nat.mul_assoc,
        Nat.mul_comm 10, Nat.add_assoc]

/- Digits before other digits count more. -/
theorem toNat_append
    (ds es : List Digit) :
    toNat (ds ++ es) = toNat ds * 10 ^ es.length + toNat es := by
  have hAppend :
      toNat (ds ++ es) =
        es.foldl (fun n d => 10 * n + d.val) (toNat ds) :=
    List.foldl_append
  rw [hAppend, foldl_eq]

/- Leading zeros do not count. -/
theorem toNat_replicate_append
    (n : Nat)
    (ds : List Digit) :
    toNat (List.replicate n 0 ++ ds) = toNat ds := by
  have hZeros : toNat (List.replicate n 0) = 0 := by
    induction n with
    | zero => rfl
    | succ n ih =>
        rw [List.replicate_succ', toNat_append_singleton, ih]
        rfl
  rw [toNat_append, hZeros, Nat.zero_mul, Nat.zero_add]

/- Every number has digits. -/
theorem ofNat_ne_nil (n : Nat) :
    ofNat n ≠ [] := by
  by_cases h : n < 10
  · rw [ofNat_of_lt h]
    exact List.cons_ne_nil _ _
  · rw [ofNat_of_le (by omega)]
    exact List.append_ne_nil_of_right_ne_nil _ (List.cons_ne_nil _ _)

/- A number below a power of ten has no more digits than its zeros. -/
theorem length_ofNat_le
    {n k : Nat}
    (hk : 0 < k)
    (h : n < 10 ^ k) :
    (ofNat n).length ≤ k :=
  calc (ofNat n).length
      ≤ (Nat.toDigits 10 n).length := List.length_filterMap_le _ _
    _ ≤ k := (Nat.length_toDigits_le_iff (by decide) hk).mpr h

/- Digits are written as digits. -/
theorem isDigit_toChar :
    ∀ d : Digit, (toChar d).isDigit = true := by
  decide

/- Digits that are written alike are the same. -/
theorem toChar_injective :
    Function.Injective toChar := by
  have hChars : ∀ d e : Digit, toChar d = toChar e → d = e := by
    decide
  exact fun d e => hChars d e

end Digit

------------------------------------------------------------
-- Parts of Numerals
------------------------------------------------------------

namespace Numeral

/- The characters of the fraction of a numeral. -/
def fractionText (ds : List Digit) : List Char :=
  if ds.isEmpty then [] else '.' :: ds.map Digit.toChar

/- The digits of a fraction are written as digits. -/
theorem isDigit_of_mem_map_toChar
    (ds : List Digit) :
    ∀ c ∈ ds.map Digit.toChar, c.isDigit = true := by
  intro c hc
  rcases List.mem_map.mp hc with ⟨d, _, rfl⟩
  exact Digit.isDigit_toChar d

/- The sign of an exponent. -/
def exponentSign
    (plus : Bool)
    (e : Int) : List Char :=
  if e < 0 then ['-'] else if plus then ['+'] else []

/- The characters of the exponent of a numeral. -/
def exponentText
    (plus : Bool) : Option Int → List Char
| none => []
| some e => 'e' :: (exponentSign plus e ++ Nat.toDigits 10 e.natAbs)

/- The characters of a numeral, part by part. -/
theorem toList_render
    (plus : Bool)
    (n : Numeral) :
    (n.render plus).toList =
      (if n.negative then ['-'] else []) ++
        (Nat.toDigits 10 n.whole ++
          (fractionText n.fraction ++ exponentText plus n.exponent)) := by
  have hSign :
      (if n.negative then "-" else "").toList =
        if n.negative then ['-'] else [] := by
    cases n.negative <;> rfl
  have hFraction :
      (if n.fraction.isEmpty then
            ""
          else
            "." ++ Digit.render n.fraction).toList =
        fractionText n.fraction := by
    unfold fractionText
    split
    · rfl
    · simp [Digit.render]
  unfold render
  simp only [String.toList_append, hSign, hFraction, Nat.toList_repr,
    List.append_assoc]
  congr 3
  cases n.exponent with
  | none => rfl
  | some e =>
      simp only [exponentText, exponentSign]
      split
      · simp
      · split <;> simp

/- The digits of a number are digits. -/
theorem isDigit_of_mem_toDigits
    (n : Nat) :
    ∀ c ∈ Nat.toDigits 10 n, c.isDigit = true :=
  fun _ hc => Nat.isDigit_of_mem_toDigits (by decide) (by decide) hc

/- A numeral is written with a digit. -/
theorem exists_digit_of_render
    {plus : Bool}
    (n : Numeral) :
    ∃ c ∈ (n.render plus).toList, c.isDigit = true := by
  rw [toList_render]
  cases hDigits : Nat.toDigits 10 n.whole with
  | nil => exact absurd hDigits Nat.toDigits_ne_nil
  | cons c cs =>
      refine ⟨c, ?_, isDigit_of_mem_toDigits n.whole c (by simp [hDigits])⟩
      apply List.mem_append_right
      apply List.mem_append_left
      exact List.mem_cons_self

/- Numbers with the same digits are the same. -/
theorem toDigits_injective
    {m n : Nat}
    (h : Nat.toDigits 10 m = Nat.toDigits 10 n) :
    m = n := by
  rw [← @Nat.ofDigitChars_ten_toDigits m, h, Nat.ofDigitChars_ten_toDigits]

/- The digits of a number start with a digit. -/
theorem toDigits_append_ne_cons
    {c : Char}
    (hc : c.isDigit = false)
    (n : Nat)
    (s t : List Char) :
    Nat.toDigits 10 n ++ s ≠ c :: t := by
  intro h
  cases hDigits : Nat.toDigits 10 n with
  | nil => exact Nat.toDigits_ne_nil hDigits
  | cons d ds =>
      have hd := isDigit_of_mem_toDigits n d (by simp [hDigits])
      rw [hDigits] at h
      injection h with hHead _
      rw [hHead, hc] at hd
      cases hd

/- No exponent starts with a digit. -/
theorem head?_exponentText
    {plus : Bool}
    {e : Option Int} :
    ∀ c ∈ (exponentText plus e).head?, c.isDigit = false := by
  intro c hc
  cases e with
  | none => cases hc
  | some e =>
      cases hc
      rfl

/- Nothing behind the whole part starts with a digit. -/
theorem head?_fractionText_append
    {plus : Bool}
    {ds : List Digit}
    {e : Option Int} :
    ∀ c ∈ (fractionText ds ++ exponentText plus e).head?,
      c.isDigit = false := by
  intro c hc
  unfold fractionText at hc
  split at hc
  · exact head?_exponentText c hc
  · cases hc
    rfl

------------------------------------------------------------
-- Texts of Numerals
------------------------------------------------------------

/- The text of a numeral shows its sign. -/
theorem sign_inj
    {a b : Bool}
    {m n : Nat}
    {s t : List Char}
    (h :
      (if a then ['-'] else []) ++ (Nat.toDigits 10 m ++ s) =
        (if b then ['-'] else []) ++ (Nat.toDigits 10 n ++ t)) :
    a = b ∧ Nat.toDigits 10 m ++ s = Nat.toDigits 10 n ++ t := by
  cases a with
  | false =>
      cases b with
      | false => exact ⟨rfl, h⟩
      | true => exact absurd h (toDigits_append_ne_cons rfl _ _ _)
  | true =>
      cases b with
      | false => exact absurd h.symm (toDigits_append_ne_cons rfl _ _ _)
      | true =>
          injection h with _ hRest
          exact ⟨rfl, hRest⟩

/- The text of a fraction shows it, and what follows. -/
theorem fractionText_inj
    {plus : Bool}
    {ds es : List Digit}
    {d e : Option Int}
    (h :
      fractionText ds ++ exponentText plus d =
        fractionText es ++ exponentText plus e) :
    ds = es ∧ exponentText plus d = exponentText plus e := by
  have hPoint : ∀ (e : Option Int) (s : List Char),
      exponentText plus e ≠ '.' :: s := by
    intro e s hEq
    cases e with
    | none => cases hEq
    | some e =>
        injection hEq with hHead _
        cases hHead
  cases ds with
  | nil =>
      cases es with
      | nil => exact ⟨rfl, h⟩
      | cons e' es => exact absurd h (hPoint d _)
  | cons d' ds =>
      cases es with
      | nil => exact absurd h.symm (hPoint e _)
      | cons e' es =>
          injection h with _ h
          rcases Text.append_inj_of_forall Char.isDigit
              (isDigit_of_mem_map_toChar _) (isDigit_of_mem_map_toChar _)
              head?_exponentText head?_exponentText h
            with ⟨hFraction, hExponent⟩
          exact ⟨(List.map_inj_right fun _ _ h =>
            Digit.toChar_injective h).mp hFraction, hExponent⟩

/- The text of an exponent shows it. -/
theorem exponentText_injective
    {plus : Bool}
    {d e : Option Int}
    (h : exponentText plus d = exponentText plus e) :
    d = e := by
  cases d with
  | none =>
      cases e with
      | none => rfl
      | some e => cases h
  | some d =>
      cases e with
      | none => cases h
      | some e =>
          injection h with _ h
          unfold exponentSign at h
          have hText : ∀ n, Nat.toDigits 10 n = Nat.toDigits 10 n ++ [] :=
            fun n => (List.append_nil _).symm
          by_cases hd : d < 0
          · by_cases he : e < 0
            · rw [if_pos hd, if_pos he] at h
              injection h with _ hDigits
              have hAbs := toDigits_injective hDigits
              congr 1
              omega
            · -- a minus sign is neither a plus sign nor a digit
              rw [if_pos hd, if_neg he, hText e.natAbs] at h
              cases plus with
              | false =>
                  exact absurd h.symm (toDigits_append_ne_cons rfl _ _ _)
              | true => cases h
          · by_cases he : e < 0
            · rw [if_neg hd, if_pos he, hText d.natAbs] at h
              cases plus with
              | false =>
                  exact absurd h (toDigits_append_ne_cons rfl _ _ _)
              | true => cases h
            · rw [if_neg hd, if_neg he] at h
              have hDigits := List.append_cancel_left h
              have hAbs := toDigits_injective hDigits
              congr 1
              omega

/- Numerals with the same text are the same. -/
theorem eq_of_render_eq
    {plus : Bool}
    {m n : Numeral}
    (h : m.render plus = n.render plus) :
    m = n := by
  have hText := congrArg String.toList h
  rw [toList_render, toList_render] at hText
  rcases sign_inj hText with ⟨hSign, hWhole⟩
  rcases Text.append_inj_of_forall Char.isDigit
      (isDigit_of_mem_toDigits _) (isDigit_of_mem_toDigits _)
      head?_fractionText_append head?_fractionText_append hWhole
    with ⟨hDigits, hBehind⟩
  rcases fractionText_inj hBehind with ⟨hFraction, hExponent⟩
  cases m
  cases n
  cases hSign
  cases toDigits_injective hDigits
  cases hFraction
  cases exponentText_injective hExponent
  rfl

end Numeral

end TraversalPlanner
