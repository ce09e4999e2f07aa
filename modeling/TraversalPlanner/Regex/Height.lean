/-
  This file measures how high expressions are nested.

  Key definitions include:
    * `Regex.heightLimit`
    * `Regex.joinHeights`
-/

namespace TraversalPlanner

namespace Regex

/- Expressions are not nested higher than this. -/
def heightLimit : Nat :=
  250

/- The height of several parts side by side. -/
def joinHeights : List Nat → Nat
| [] => 0
| [h] => h
| hs => hs.foldl max 0 + 1

end Regex

end TraversalPlanner
