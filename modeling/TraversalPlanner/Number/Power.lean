/-
  This file names the powers of two and of ten.

  Key definitions include:
    * `twoTo`
    * `tenTo`

  Key theorems include:
    * `twoTo_pos`
    * `tenTo_pos`
-/

namespace TraversalPlanner

/- A power of two. -/
abbrev twoTo (n : Nat) : Nat :=
  Nat.pow 2 n

/- A power of ten. -/
abbrev tenTo (n : Nat) : Nat :=
  Nat.pow 10 n

/- Powers of two are positive. -/
theorem twoTo_pos (n : Nat) :
    0 < twoTo n :=
  Nat.pow_pos (by decide)

/- Powers of ten are positive. -/
theorem tenTo_pos (n : Nat) :
    0 < tenTo n :=
  Nat.pow_pos (by decide)

end TraversalPlanner
