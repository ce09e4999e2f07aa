import TraversalPlanner.Text.CodeSet

/-
  This file divides ranges of characters into sequences of ranges
  of bytes: the characters of each part are those whose bytes in
  UTF-8 are in the ranges of a sequence, one after the other.

  Key definitions include:
    * `Regex.ByteRange`
    * `Regex.divide`
    * `Regex.byteSequences`
-/

namespace TraversalPlanner

namespace Regex

/- A range of bytes, both ends included. -/
abbrev ByteRange : Type :=
  Nat × Nat

/- Divide a range behind a code point, if that is inside of it. -/
def cutBehind
    (code : Nat)
    (r : CodeRange) : List CodeRange :=
  if r.1 ≤ code ∧ code < r.2 then
    [(r.1, code), (code + 1, r.2)]
  else
    [r]

/-
  Leave surrogates out of a range, and divide it so that all
  characters of a part have the same number of bytes.
-/
def divideByLength (r : CodeRange) : List CodeRange :=
  let rs :=
    (cutBehind 0xd7ff r).map fun r =>
      if r.1 = 0xd800 then (0xe000, r.2) else r
  ((rs.flatMap (cutBehind 0x7f)).flatMap (cutBehind 0x7ff)).flatMap
    (cutBehind 0xffff)

/-
  Divide a range into the blocks of some size that it holds in
  full, which stay together, and what it holds of those at its
  ends.  Nothing is divided if there is one block only.
-/
def divide
    (block : Nat)
    (r : CodeRange) : List CodeRange :=
  let (a, b) := r
  if a / block = b / block then
    [r]
  else
    let full := (a + block - 1) / block * block
    let rest := (b + 1) / block * block
    [(a, full - 1), (full, rest - 1), (rest, b)].filter fun r =>
      decide (r.1 ≤ r.2)

/- The ranges of the bytes of characters between two of equal length. -/
def bytesBetween (r : CodeRange) : List ByteRange :=
  let bytes (n : Nat) :=
    (String.utf8EncodeChar (Char.ofNat n)).map UInt8.toNat
  (bytes r.1).zip (bytes r.2)

/-
  The sequences of byte ranges for a range of characters.  The
  bytes behind the first one hold six bits each, so that blocks
  of 64 characters, of 64 such blocks, and so on, are divided.
-/
def byteSequences (r : CodeRange) : List (List ByteRange) :=
  (divideByLength r).flatMap fun r =>
    if r.2 < 0x80 then
      [[r]]
    else
      (((divide 0x40 r).flatMap (divide 0x1000)).flatMap
        (divide 0x40000)).map bytesBetween

end Regex

end TraversalPlanner
