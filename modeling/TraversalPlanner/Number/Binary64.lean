import TraversalPlanner.Number.Power

/-
  This file defines double-precision numbers as their 64-bit
  words, with the arithmetic that cost estimates need.  Every
  finite number is a whole multiple of the least positive one,
  the quantum 2^-1074, so sums, products and quotients are
  computed exactly on whole numbers and rounded once.

  Key definitions include:
    * `Binary64`
    * `Binary64.quanta`
    * `Binary64.ofQuanta`
    * `Binary64.add`, `Binary64.mul`, `Binary64.div`
    * `Binary64.sum`
    * `Binary64.Agree`
    * `Binary64.rank`
-/

namespace TraversalPlanner

------------------------------------------------------------
-- Words and Their Fields
------------------------------------------------------------

/-
  A double-precision number, given by its word: a sign bit,
  eleven exponent bits and fifty-two fraction bits.  Words that
  stand for no number keep their sign.
-/
structure Binary64 where
  word : UInt64
deriving DecidableEq, Repr

namespace Binary64

/- The word of a number without its sign bit. -/
def magnitude (x : Binary64) : Nat :=
  x.word.toNat % twoTo 63

/- The sign bit is set. -/
def isNegative (x : Binary64) : Bool :=
  decide (twoTo 63 ≤ x.word.toNat)

/- The magnitude of an infinite number. -/
def infiniteMagnitude : Nat :=
  0x7FF * twoTo 52

/- The number is finite. -/
def isFinite (x : Binary64) : Bool :=
  decide (x.magnitude < infiniteMagnitude)

/- The number is infinite. -/
def isInfinite (x : Binary64) : Bool :=
  decide (x.magnitude = infiniteMagnitude)

/- The word stands for no number. -/
def isNaN (x : Binary64) : Bool :=
  decide (infiniteMagnitude < x.magnitude)

/- The number is zero, of either sign. -/
def isZero (x : Binary64) : Bool :=
  decide (x.magnitude = 0)

/- The number with a given sign and magnitude. -/
def ofMagnitude
    (negative : Bool)
    (magnitude : Nat) : Binary64 :=
  ⟨UInt64.ofNat (if negative then twoTo 63 + magnitude else magnitude)⟩

/- Zero with a given sign. -/
def zero (negative : Bool) : Binary64 :=
  ofMagnitude negative 0

/- Infinity with a given sign. -/
def infinity (negative : Bool) : Binary64 :=
  ofMagnitude negative infiniteMagnitude

/- The quiet word for no number, with a given sign. -/
def nan (negative : Bool) : Binary64 :=
  ofMagnitude negative (infiniteMagnitude + twoTo 51)

/- The opposite number. -/
def neg (x : Binary64) : Binary64 :=
  ofMagnitude (!x.isNegative) x.magnitude

/-
  The exponent of two of a finite number's last place, counted
  in quanta.
-/
def placeExponent (x : Binary64) : Nat :=
  x.magnitude / twoTo 52 - 1

/- The significand of a finite number, hidden bit included. -/
def significand (x : Binary64) : Nat :=
  if x.magnitude < twoTo 52 then
    x.magnitude
  else
    x.magnitude % twoTo 52 + twoTo 52

/- The size of a finite number, counted in quanta. -/
def quanta (x : Binary64) : Nat :=
  x.significand * twoTo x.placeExponent

/- A finite number, counted in quanta. -/
def signedQuanta (x : Binary64) : Int :=
  if x.isNegative then -(x.quanta : Int) else x.quanta

/- The number of quanta in one. -/
def quantaPerOne : Nat :=
  twoTo 1074

/- A finite number greater than zero. -/
def isPositive (x : Binary64) : Bool :=
  x.isFinite && !x.isNegative && !x.isZero

------------------------------------------------------------
-- Rounding
------------------------------------------------------------

/-
  The whole number nearest to a quotient; of two equally near
  ones, the even one.
-/
def divNearest (n d : Nat) : Nat :=
  let q := n / d
  let twice := 2 * (n % d)
  if twice < d then
    q
  else if d < twice then
    q + 1
  else
    q + q % 2

/-
  The number nearest to `n / d` quanta.  A size that rounds
  beyond the greatest finite number is infinite.  A magnitude
  is the place exponent times 2^52 plus the significand, so a
  significand that rounds up to 2^53 carries into the exponent.
-/
def ofQuanta
    (negative : Bool)
    (n d : Nat) : Binary64 :=
  let place := (n / d).log2 - 52
  let magnitude := place * twoTo 52 + divNearest n (d * twoTo place)
  ofMagnitude negative (min magnitude infiniteMagnitude)

/- The number nearest to a natural number. -/
def ofNat (n : Nat) : Binary64 :=
  ofQuanta false (n * quantaPerOne) 1

instance (n : Nat) : OfNat Binary64 n :=
  ⟨ofNat n⟩

------------------------------------------------------------
-- Arithmetic
------------------------------------------------------------

/-
  What an operation without a result yields: the word for no
  number with its sign set.  An operand that is no number is
  passed on with its own sign, the first one first.
-/
def invalid : Binary64 :=
  nan true

/-
  The sum, rounded once.  A sum of zero is positive unless both
  operands are negative.
-/
def add (x y : Binary64) : Binary64 :=
  if x.isNaN then
    x
  else if y.isNaN then
    y
  else if x.isInfinite then
    if y.isInfinite && x.isNegative != y.isNegative then invalid else x
  else if y.isInfinite then
    y
  else
    let s := x.signedQuanta + y.signedQuanta
    if s = 0 then
      zero (x.isNegative && y.isNegative)
    else
      ofQuanta (decide (s < 0)) s.natAbs 1

/- The product, rounded once. -/
def mul (x y : Binary64) : Binary64 :=
  let negative := x.isNegative != y.isNegative
  if x.isNaN then
    x
  else if y.isNaN then
    y
  else if x.isInfinite || y.isInfinite then
    if x.isZero || y.isZero then invalid else infinity negative
  else
    ofQuanta negative (x.quanta * y.quanta) quantaPerOne

/- The quotient, rounded once. -/
def div (x y : Binary64) : Binary64 :=
  let negative := x.isNegative != y.isNegative
  if x.isNaN then
    x
  else if y.isNaN then
    y
  else if x.isInfinite then
    if y.isInfinite then invalid else infinity negative
  else if y.isInfinite then
    zero negative
  else if y.isZero then
    if x.isZero then invalid else infinity negative
  else
    ofQuanta negative (x.quanta * quantaPerOne) y.quanta

instance : Add Binary64 :=
  ⟨add⟩

instance : Mul Binary64 :=
  ⟨mul⟩

instance : Div Binary64 :=
  ⟨div⟩

instance : Neg Binary64 :=
  ⟨neg⟩

/-
  The sum of a list, from left to right.  The sum of no numbers
  is negative zero, which leaves every number unchanged.
-/
def sum (xs : List Binary64) : Binary64 :=
  xs.foldl add (zero true)

------------------------------------------------------------
-- Equality of Values and Order
------------------------------------------------------------

/-
  Two words stand for the same number.  Both zeros are one
  number, and a word for no number agrees with none.
-/
def Agree (x y : Binary64) : Prop :=
  x.isNaN = false ∧ y.isNaN = false ∧
    (x = y ∨ x.isZero = true ∧ y.isZero = true)

instance (x y : Binary64) : Decidable (Agree x y) := by
  unfold Agree
  infer_instance

/- Agreement is symmetric. -/
theorem Agree.symm
    {x y : Binary64}
    (h : Agree x y) :
    Agree y x := by
  rcases h with ⟨hx, hy, h | ⟨hzx, hzy⟩⟩
  · exact ⟨hy, hx, Or.inl h.symm⟩
  · exact ⟨hy, hx, Or.inr ⟨hzy, hzx⟩⟩

/- Agreement is transitive. -/
theorem Agree.trans
    {x y z : Binary64}
    (hxy : Agree x y)
    (hyz : Agree y z) :
    Agree x z := by
  rcases hxy with ⟨hx, _, rfl | ⟨hzx, hzy⟩⟩
  · exact hyz
  · rcases hyz with ⟨_, hz, rfl | ⟨_, hzz⟩⟩
    · exact ⟨hx, hz, Or.inr ⟨hzx, hzy⟩⟩
    · exact ⟨hx, hz, Or.inr ⟨hzx, hzz⟩⟩

/-
  The place of a word in the total order of all words: negative
  words first, the larger magnitude further out, so that the
  words for no number stand at both ends and negative zero
  precedes positive zero.
-/
def rank (x : Binary64) : Int :=
  if x.isNegative then
    -(x.magnitude : Int) - 1
  else
    x.magnitude

end Binary64

end TraversalPlanner
