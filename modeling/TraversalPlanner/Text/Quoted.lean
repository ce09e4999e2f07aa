import TraversalPlanner.Text.Hidden

/-
  This file writes texts in double quotes.  Quotes and
  backslashes are escaped, line breaks, tabs and the zero
  character have short escapes, and every other hidden character
  is spelled out by its code point.

  Key definitions include:
    * `Text.spell`
    * `Text.quote`
-/

namespace TraversalPlanner

namespace Text

/- The spelling of one character between double quotes. -/
def spell (c : Char) : List Char :=
  if c = '"' then
    ['\\', '"']
  else if c = '\\' then
    ['\\', '\\']
  else if c = '\n' then
    ['\\', 'n']
  else if c = '\r' then
    ['\\', 'r']
  else if c = '\t' then
    ['\\', 't']
  else if c.toNat = 0 then
    ['\\', '0']
  else if isHidden c then
    ['\\', 'u', '\x7b'] ++ Nat.toDigits 16 c.toNat ++ ['\x7d']
  else
    [c]

/- A text in double quotes. -/
def quote (s : String) : String :=
  String.ofList (['"'] ++ s.toList.flatMap spell ++ ['"'])

end Text

end TraversalPlanner
