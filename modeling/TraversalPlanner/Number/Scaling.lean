import TraversalPlanner.Number.Numeral
import TraversalPlanner.Number.Binary64

/-
  This file turns numerals into double-precision numbers.  The
  leading digits that fit into sixty-four bits are taken as a
  whole number, which is then scaled by a power of ten with one
  multiplication or division.  So a numeral of few digits and a
  small exponent is read exactly, and any other may be read as a
  close neighbour of its nearest number.

  Key definitions include:
    * `Significand`
    * `Numeral.significand`
    * `Numeral.toBinary64?`
-/

namespace TraversalPlanner

------------------------------------------------------------
-- Significands
------------------------------------------------------------

/- Leading digits, and the exponent of ten that belongs to them. -/
structure Significand where
  digits : Nat
  exponent : Int
deriving DecidableEq, Repr

namespace Significand

/- The greatest significand. -/
def limit : Nat :=
  twoTo 64 - 1

/- The digits of a whole part; one that does not fit raises the exponent. -/
def takeWhole : Significand → List Digit → Significand
| s, [] => s
| s, d :: ds =>
    if s.digits * 10 + d.val ≤ limit then
      takeWhole ⟨s.digits * 10 + d.val, s.exponent⟩ ds
    else
      ⟨s.digits, s.exponent + (ds.length + 1 : Nat)⟩

/- The digits of a fraction, up to the first one that does not fit. -/
def takeFraction : Significand → List Digit → Significand
| s, [] => s
| s, d :: ds =>
    if s.digits * 10 + d.val ≤ limit then
      takeFraction ⟨s.digits * 10 + d.val, s.exponent - 1⟩ ds
    else
      s

end Significand

/- The significand of a numeral. -/
def Numeral.significand (n : Numeral) : Significand :=
  let s := (Significand.mk 0 0).takeWhole (Digit.ofNat n.whole)
  let s := s.takeFraction n.fraction
  ⟨s.digits, s.exponent + n.exponent.getD 0⟩

------------------------------------------------------------
-- Powers of Ten
------------------------------------------------------------

namespace Binary64

/- The greatest exponent of a power of ten that is finite. -/
def maxPower : Nat :=
  308

/- The number nearest to a power of ten. -/
def powerOfTen (n : Nat) : Binary64 :=
  ofNat (tenTo n)

/-
  A number divided by a power of ten, in steps no larger than
  the greatest finite one.
-/
def divPower
    (x : Binary64)
    (n : Nat) : Binary64 :=
  if n ≤ maxPower then
    x / powerOfTen n
  else if x.isZero then
    x
  else
    divPower (x / powerOfTen maxPower) (n - maxPower)
termination_by n
decreasing_by
  simp only [maxPower] at *
  omega

/-
  A positive number or zero, scaled by a power of ten.  There is
  no result if it would not be finite.
-/
def scale?
    (x : Binary64)
    (e : Int) : Option Binary64 :=
  if e < 0 then
    some (x.divPower e.natAbs)
  else if e ≤ maxPower then
    let y := x * powerOfTen e.natAbs
    if y.isInfinite then none else some y
  else if x.isZero then
    some x
  else
    none

end Binary64

------------------------------------------------------------
-- Numbers of Numerals
------------------------------------------------------------

/- The number of a numeral, unless it is too large. -/
def Numeral.toBinary64? (n : Numeral) : Option Binary64 :=
  let s := n.significand
  ((Binary64.ofNat s.digits).scale? s.exponent).map fun x =>
    if n.negative then -x else x

end TraversalPlanner
