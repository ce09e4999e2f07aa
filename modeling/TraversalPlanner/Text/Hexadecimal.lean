/-
  This file reads hexadecimal digits.

  Key definitions include:
    * `Text.hexDigit?`
    * `Text.hexToNat`
-/

namespace TraversalPlanner

namespace Text

/- The value of a hexadecimal digit. -/
def hexDigit? (c : Char) : Option Nat :=
  let n := c.toNat
  if '0'.toNat ≤ n ∧ n ≤ '9'.toNat then
    some (n - '0'.toNat)
  else if 'a'.toNat ≤ n ∧ n ≤ 'f'.toNat then
    some (n - 'a'.toNat + 10)
  else if 'A'.toNat ≤ n ∧ n ≤ 'F'.toNat then
    some (n - 'A'.toNat + 10)
  else
    none

/- The number of hexadecimal digits, the first one counting most. -/
def hexToNat (ds : List Nat) : Nat :=
  ds.foldl (fun n d => 16 * n + d) 0

end Text

end TraversalPlanner
