/-
  This file defines decimal numerals: a sign, a whole part, the
  digits of a fraction and an exponent of ten.

  Key definitions include:
    * `Numeral`
    * `Numeral.ofInt`
    * `Numeral.toInt?`
    * `Numeral.render`
    * `Numeral.renderInt`
-/

namespace TraversalPlanner

------------------------------------------------------------
-- Digits
------------------------------------------------------------

/- A decimal digit. -/
abbrev Digit : Type :=
  Fin 10

namespace Digit

/- The character of a digit. -/
def toChar (d : Digit) : Char :=
  Char.ofNat ('0'.toNat + d.val)

/- The digit of a character. -/
def ofChar? (c : Char) : Option Digit :=
  let n := c.toNat - '0'.toNat
  if h : '0'.toNat ≤ c.toNat ∧ n < 10 then
    some ⟨n, h.2⟩
  else
    none

/- The digits of a natural number, most significant first. -/
def ofNat (n : Nat) : List Digit :=
  (Nat.toDigits 10 n).filterMap ofChar?

/- The text of a list of digits. -/
def render (ds : List Digit) : String :=
  String.ofList (ds.map toChar)

end Digit

------------------------------------------------------------
-- Numerals
------------------------------------------------------------

/-
  A decimal numeral.  The whole part carries no leading zeros,
  and an empty fraction stands for an absent one.
-/
structure Numeral where
  negative : Bool
  whole : Nat
  fraction : List Digit
  exponent : Option Int
deriving DecidableEq, Repr

namespace Numeral

/- The numeral of an integer. -/
def ofInt (n : Int) : Numeral where
  negative := decide (n < 0)
  whole := n.natAbs
  fraction := []
  exponent := none

/-
  The integer of a numeral that is written as one.  A signed
  zero is not written as an integer.
-/
def toInt? (n : Numeral) : Option Int :=
  if n.fraction.isEmpty && n.exponent.isNone then
    if n.negative then
      if n.whole = 0 then none else some (-(n.whole : Int))
    else
      some n.whole
  else
    none

/-
  The text of a numeral.  `plus` says whether a positive
  exponent shows its sign.
-/
def render
    (plus : Bool)
    (n : Numeral) : String :=
  let sign := if n.negative then "-" else ""
  let fraction :=
    if n.fraction.isEmpty then
      ""
    else
      "." ++ Digit.render n.fraction
  let exponent :=
    match n.exponent with
    | none => ""
    | some e =>
        if e < 0 then
          "e-" ++ e.natAbs.repr
        else if plus then
          "e+" ++ e.natAbs.repr
        else
          "e" ++ e.natAbs.repr
  sign ++ n.whole.repr ++ fraction ++ exponent

/- The text of an integer. -/
def renderInt (n : Int) : String :=
  (ofInt n).render false

/- A written integer reads back. -/
theorem toInt?_ofInt (n : Int) :
    (ofInt n).toInt? = some n := by
  by_cases h : n < 0
  · have h0 : n.natAbs ≠ 0 := by omega
    have hn : (-(n.natAbs : Int)) = n := by omega
    simp only [toInt?, ofInt, List.isEmpty_nil, Option.isNone_none,
      Bool.and_self, if_true, decide_eq_true_eq, h, h0, if_false, hn]
  · have hn : (n.natAbs : Int) = n := by omega
    simp only [toInt?, ofInt, List.isEmpty_nil, Option.isNone_none,
      Bool.and_self, if_true, decide_eq_true_eq, h, if_false, hn]

end Numeral

end TraversalPlanner
