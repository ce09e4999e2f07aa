import TraversalPlanner.Text.CodeSet
import TraversalPlanner.Text.Hexadecimal

/-
  This file reads tables of characters.  A table gives names to
  sets.  A set is written as a text of ranges with blanks between
  them: a code point, or two with a hyphen, in hexadecimal
  digits.

  Key definitions include:
    * `CodeSet.ofText`
    * `Unicode.Table`
    * `Unicode.Table.named?`
-/

namespace TraversalPlanner

------------------------------------------------------------
-- Sets as Texts
------------------------------------------------------------

/-
  What was read of a text: the complete ranges, the last one
  first, the code point in front of a hyphen, and the digits
  behind the last blank or hyphen, the last one first.
-/
structure CodeScan where
  ranges : List CodeRange
  first : Option Nat
  digits : List Nat

namespace CodeScan

/- Nothing is read. -/
def start : CodeScan :=
  ⟨[], none, []⟩

/- The number of the digits. -/
def code (s : CodeScan) : Nat :=
  Text.hexToNat s.digits.reverse

/- End the range that is being read, if there is one. -/
def finish (s : CodeScan) : CodeScan :=
  if s.digits.isEmpty then
    s
  else
    ⟨(s.first.getD s.code, s.code) :: s.ranges, none, []⟩

/- Read a character. -/
def read
    (s : CodeScan)
    (c : Char) : CodeScan :=
  match Text.hexDigit? c with
  | some d => { s with digits := d :: s.digits }
  | none => if c = '-' then ⟨s.ranges, some s.code, []⟩ else s.finish

end CodeScan

/- The set that a text writes. -/
def CodeSet.ofText (text : String) : CodeSet :=
  .ofRanges (text.foldl CodeScan.read .start).finish.ranges

------------------------------------------------------------
-- Tables
------------------------------------------------------------

namespace Unicode

/- Sets as texts, each with its names. -/
abbrev Table : Type :=
  List (List String × String)

/- The set with a name. -/
def Table.named?
    (t : Table)
    (name : String) : Option CodeSet :=
  (t.find? fun e => e.1.contains name).map fun e => .ofText e.2

/- Sets, each with its names. -/
abbrev NamedSets : Type :=
  List (List String × CodeSet)

/- The set with a name. -/
def NamedSets.named?
    (t : NamedSets)
    (name : String) : Option CodeSet :=
  (t.find? fun e => e.1.contains name).map Prod.snd

end Unicode

end TraversalPlanner
