import TraversalPlanner.Text.CodeRange

/-
  This file defines sets of characters as lists of ranges of code
  points.  The ranges of a set ascend and do not touch each
  other, so each set has one list.  Surrogates are no characters:
  U+D7FF and U+E000 are neighbours.

  Key definitions include:
    * `CodeSet`
    * `CodeSet.ofRanges`
    * `CodeSet.unionAll`
    * `CodeSet.complement`
    * `CodeSet.intersection`
    * `CodeSet.difference`
    * `CodeSet.symmetricDifference`
-/

namespace TraversalPlanner

/- A set of characters. -/
structure CodeSet where
  /- ascending, with a gap between each two of them -/
  ranges : List CodeRange
deriving DecidableEq, Repr

namespace CodeSet

------------------------------------------------------------
-- Neighbours
------------------------------------------------------------

/- The last code point. -/
def lastCode : Nat :=
  0x10ffff

/- The code point of the next character. -/
def after (code : Nat) : Nat :=
  if code = 0xd7ff then 0xe000 else code + 1

/- The code point of the character before. -/
def before (code : Nat) : Nat :=
  if code = 0xe000 then 0xd7ff else code - 1

------------------------------------------------------------
-- Construction
------------------------------------------------------------

/- Join a range with those behind it that it touches. -/
def joinFrom
    (r : CodeRange) : List CodeRange → List CodeRange
| [] => [r]
| s :: rs =>
    if s.1 ≤ after r.2 then
      joinFrom (r.1, max r.2 s.2) rs
    else
      r :: joinFrom s rs

/- The characters in any of some ranges. -/
def ofRanges (rs : List CodeRange) : CodeSet :=
  match rs.mergeSort fun r s => Nat.ble r.1 s.1 with
  | [] => ⟨[]⟩
  | r :: rs => ⟨joinFrom r rs⟩

/- The characters with some code points. -/
def ofCodes (codes : List Nat) : CodeSet :=
  ofRanges (codes.map fun n => (n, n))

/- One character. -/
def single (c : Char) : CodeSet :=
  ⟨[(c.toNat, c.toNat)]⟩

/- No characters. -/
def empty : CodeSet :=
  ⟨[]⟩

/- All characters. -/
def all : CodeSet :=
  ⟨[(0, lastCode)]⟩

/- The characters of ASCII. -/
def ascii : CodeSet :=
  ⟨[(0, 0x7f)]⟩

------------------------------------------------------------
-- Questions
------------------------------------------------------------

/- All characters are of ASCII. -/
def isAscii (s : CodeSet) : Bool :=
  s.ranges.all fun r => decide (r.2 < 0x80)

/- The only character of a set. -/
def only? (s : CodeSet) : Option Char :=
  match s.ranges with
  | [(a, b)] => if a = b then some (Char.ofNat a) else none
  | _ => none

------------------------------------------------------------
-- Operations
------------------------------------------------------------

/- The characters in any of some sets. -/
def unionAll (ss : List CodeSet) : CodeSet :=
  ofRanges (ss.flatMap ranges)

/- The characters in one of two sets. -/
def union (s t : CodeSet) : CodeSet :=
  unionAll [s, t]

/- The ranges between some ranges, from a code point on. -/
def gapsFrom
    (code : Nat) : List CodeRange → List CodeRange
| [] => if code ≤ lastCode then [(code, lastCode)] else []
| r :: rs =>
    if code < r.1 then
      (code, before r.1) :: gapsFrom (after r.2) rs
    else
      gapsFrom (after r.2) rs

/- The characters that are not in a set. -/
def complement (s : CodeSet) : CodeSet :=
  ⟨gapsFrom 0 s.ranges⟩

/- The characters in both of two sets. -/
def intersection (s t : CodeSet) : CodeSet :=
  (s.complement.union t.complement).complement

/- The characters of a set that are not in another one. -/
def difference (s t : CodeSet) : CodeSet :=
  s.intersection t.complement

/- The characters in exactly one of two sets. -/
def symmetricDifference (s t : CodeSet) : CodeSet :=
  (s.difference t).union (t.difference s)

end CodeSet

end TraversalPlanner
