/-
  This file defines tables of code points, given as ranges with
  both ends included.

  Key definitions include:
    * `CodeRange`
    * `CodeRange.covers`
-/

namespace TraversalPlanner

/- A range of code points, both ends included. -/
abbrev CodeRange : Type :=
  Nat × Nat

namespace CodeRange

/- Some range of a table contains the character. -/
def covers
    (table : List CodeRange)
    (c : Char) : Bool :=
  table.any fun r => decide (r.1 ≤ c.toNat ∧ c.toNat ≤ r.2)

end CodeRange

end TraversalPlanner
