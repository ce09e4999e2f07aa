import TraversalPlanner.Json.Printer

/-
  This file escapes documents so that they use ASCII characters
  only.  Other characters occur in strings only, where they may
  be escaped by their UTF-16 code units.

  Key definitions include:
    * `Json.escapeUnit`
    * `Json.escapeChar`
    * `Json.toAscii`
-/

namespace TraversalPlanner

namespace Json

/- A UTF-16 code unit as an escape with four hexadecimal digits. -/
def escapeUnit (n : Nat) : List Char :=
  let digits := Nat.toDigits 16 n
  ['\\', 'u'] ++ List.replicate (4 - digits.length) '0' ++ digits

/- A character, escaped unless it is an ASCII one. -/
def escapeChar (c : Char) : List Char :=
  let n := c.toNat
  if n < 0x7F then
    [c]
  else if n < 0x10000 then
    escapeUnit n
  else
    escapeUnit (0xD800 + (n - 0x10000) / 0x400) ++
      escapeUnit (0xDC00 + (n - 0x10000) % 0x400)

/- The text of a document in ASCII. -/
def toAscii (text : String) : String :=
  String.ofList (text.toList.flatMap escapeChar)

end Json

end TraversalPlanner
