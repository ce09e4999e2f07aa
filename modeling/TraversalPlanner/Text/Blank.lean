import TraversalPlanner.Text.CodeRange

/-
  This file defines blank characters: those with the Unicode
  property White_Space.

  Key definitions include:
    * `Text.isBlank`
    * `Text.hasBlank`
    * `Text.isAllBlank`
-/

namespace TraversalPlanner

namespace Text

/- The code points with the property White_Space. -/
def blankTable : List CodeRange :=
  [(0x9, 0xd), (0x20, 0x20), (0x85, 0x85), (0xa0, 0xa0), (0x1680, 0x1680),
   (0x2000, 0x200a), (0x2028, 0x2029), (0x202f, 0x202f), (0x205f, 0x205f),
   (0x3000, 0x3000)]

/- A character is blank. -/
def isBlank (c : Char) : Bool :=
  CodeRange.covers blankTable c

/- A text contains a blank character. -/
def hasBlank (s : String) : Bool :=
  s.toList.any isBlank

/- A text consists of blank characters only. -/
def isAllBlank (s : String) : Bool :=
  s.toList.all isBlank

end Text

end TraversalPlanner
