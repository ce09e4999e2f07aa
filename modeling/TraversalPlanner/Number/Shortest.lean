import TraversalPlanner.Number.Binary64

/-
  This file finds the fewest decimal digits that read back as a
  given number.  A number is what every real in an interval
  around it rounds to, and on a grid of decimal points some
  point lies in that interval exactly if one of the number's two
  neighbours on the grid does.  So the grids are tried from
  coarse to fine, in whole-number arithmetic.

  Key definitions include:
    * `Tie`
    * `DecimalPoint`
    * `Binary64.Rounds`
    * `Binary64.shortest`
-/

namespace TraversalPlanner

------------------------------------------------------------
-- Decimal Points
------------------------------------------------------------

/- Which of two equally near neighbours is taken. -/
inductive Tie where
/- the larger one -/
| up
/- the one whose last digit is even -/
| even
deriving DecidableEq, Repr

/- The decimal number `coefficient * 10 ^ exponent`. -/
structure DecimalPoint where
  coefficient : Nat
  exponent : Int
deriving DecidableEq, Repr

namespace DecimalPoint

/-
  The same decimal number without trailing zeros in its
  coefficient, of which at most `bound` are removed.
-/
def trim : Nat → DecimalPoint → DecimalPoint
| 0, p => p
| bound + 1, p =>
    if p.coefficient ≠ 0 ∧ p.coefficient % 10 = 0 then
      trim bound ⟨p.coefficient / 10, p.exponent + 1⟩
    else
      p

end DecimalPoint

------------------------------------------------------------
-- Decimal Grids
------------------------------------------------------------

namespace Binary64

/-
  The size of a finite number on the grid of multiples of
  `10 ^ k`, as a fraction of whole numbers.
-/
def gridNumerator
    (k : Int)
    (x : Binary64) : Nat :=
  x.quanta * tenTo (-k).toNat

/- The denominator that belongs to `gridNumerator`. -/
def gridDenominator (k : Int) : Nat :=
  quantaPerOne * tenTo k.toNat

/-
  The reals between this number and its neighbours that round to
  it, in quarters of quanta.  The gap below a power of two is
  half the gap above.
-/
def lowerQuarters (x : Binary64) : Nat :=
  let gap := twoTo x.placeExponent
  if x.significand = twoTo 52 ∧ 0 < x.placeExponent then
    4 * x.quanta - gap
  else
    4 * x.quanta - 2 * gap

/- The upper end of the reals that round to this number. -/
def upperQuarters (x : Binary64) : Nat :=
  4 * x.quanta + 2 * twoTo x.placeExponent

/-
  The size `c * 10 ^ k` rounds to the size of `x`.  The ends of
  the interval belong to a number with an even significand.
-/
def Rounds
    (x : Binary64)
    (k : Int)
    (c : Nat) : Prop :=
  let point := 4 * c * gridDenominator k
  let lower := x.lowerQuarters * tenTo (-k).toNat
  let upper := x.upperQuarters * tenTo (-k).toNat
  if x.significand % 2 = 0 then
    lower ≤ point ∧ point ≤ upper
  else
    lower < point ∧ point < upper

instance
    (x : Binary64)
    (k : Int)
    (c : Nat) :
    Decidable (x.Rounds k c) := by
  unfold Rounds
  infer_instance

/-
  The neighbour of `x` on the grid of `10 ^ k` that rounds to
  `x`, the nearer one if both do.
-/
def neighbour?
    (tie : Tie)
    (x : Binary64)
    (k : Int) : Option Nat :=
  let n := x.gridNumerator k
  let d := gridDenominator k
  let below := n / d
  let above := below + 1
  if x.Rounds k below then
    if x.Rounds k above then
      let twice := 2 * (n % d)
      if twice < d then
        some below
      else if d < twice then
        some above
      else
        match tie with
        | .up => some above
        | .even => some (below + below % 2)
    else
      some below
  else if x.Rounds k above then
    some above
  else
    none

------------------------------------------------------------
-- Shortest Decimals
------------------------------------------------------------

/- The size `10 ^ k` is at most the size of `x`. -/
def ReachesPower
    (x : Binary64)
    (k : Int) : Prop :=
  gridDenominator k ≤ x.gridNumerator k

instance
    (x : Binary64)
    (k : Int) :
    Decidable (x.ReachesPower k) := by
  unfold ReachesPower
  infer_instance

/-
  The exponent of ten of the leading digit of a finite number
  other than zero.  The exponent of two gives it up to one.
-/
def leadingExponent (x : Binary64) : Int :=
  let binary : Int := (x.quanta.log2 : Int) - 1074
  let guess := Int.fdiv (binary * 30103) 100000
  if x.ReachesPower (guess + 1) then guess + 1 else guess

/-
  The decimal number with the fewest digits that rounds to a
  finite number other than zero, the nearest of those.
  Seventeen digits suffice.
-/
def shortest
    (tie : Tie)
    (x : Binary64) : DecimalPoint :=
  let lead := x.leadingExponent
  let grids := (List.range 17).map fun (n : Nat) => lead - (n : Int)
  let found := grids.findSome? fun k =>
    (x.neighbour? tie k).map fun c => DecimalPoint.mk c k
  match found with
  | some p => p.trim 17
  | none => ⟨x.gridNumerator (lead - 16) / gridDenominator (lead - 16), lead - 16⟩

end Binary64

end TraversalPlanner
