import TraversalPlanner.Unicode.Folding

/-
  This file defines the modes in which expressions are read, and
  the flags that change them.

  Key definitions include:
    * `Regex.Flag`
    * `Regex.Mode`
    * `Regex.Mode.setAll`
    * `Regex.Mode.fold`
-/

namespace TraversalPlanner

namespace Regex

------------------------------------------------------------
-- Flags
------------------------------------------------------------

/- What a flag says. -/
inductive Flag where
| caseInsensitive
| multiLine
| dotMatchesNewLine
| swapGreed
| unicode
| carriageReturns
| verbose
deriving DecidableEq, Repr

namespace Flag

/- The letter of a flag. -/
def letter : Flag → Char
| .caseInsensitive => 'i'
| .multiLine => 'm'
| .dotMatchesNewLine => 's'
| .swapGreed => 'U'
| .unicode => 'u'
| .carriageReturns => 'R'
| .verbose => 'x'

/- All flags. -/
def all : List Flag :=
  [.caseInsensitive, .multiLine, .dotMatchesNewLine, .swapGreed, .unicode,
    .carriageReturns, .verbose]

/- The flag of a letter. -/
def ofLetter? (c : Char) : Option Flag :=
  all.find? fun f => f.letter = c

end Flag

/- Flags with the values that they are given, the last one first. -/
abbrev FlagSettings : Type :=
  List (Flag × Bool)

------------------------------------------------------------
-- Modes
------------------------------------------------------------

/- How a part of an expression is read. -/
structure Mode where
  /- the case of letters does not count -/
  caseInsensitive : Bool
  /- the ends of a line are places, not only those of the text -/
  multiLine : Bool
  /- a dot matches the end of a line -/
  dotMatchesNewLine : Bool
  /- repetitions are lazy unless they are marked -/
  swapGreed : Bool
  /- characters are those of Unicode, not bytes -/
  unicode : Bool
  /- a carriage return ends a line -/
  carriageReturns : Bool
  /- blanks do not count -/
  verbose : Bool
deriving DecidableEq, Repr

namespace Mode

/- The mode that expressions start in. -/
def standard : Mode :=
  ⟨false, false, false, false, true, false, false⟩

/- Give a flag a value. -/
def set
    (m : Mode)
    (f : Flag × Bool) : Mode :=
  match f with
  | (.caseInsensitive, b) => { m with caseInsensitive := b }
  | (.multiLine, b) => { m with multiLine := b }
  | (.dotMatchesNewLine, b) => { m with dotMatchesNewLine := b }
  | (.swapGreed, b) => { m with swapGreed := b }
  | (.unicode, b) => { m with unicode := b }
  | (.carriageReturns, b) => { m with carriageReturns := b }
  | (.verbose, b) => { m with verbose := b }

/- Give several flags values. -/
def setAll
    (m : Mode)
    (fs : FlagSettings) : Mode :=
  fs.foldr (fun f m => m.set f) m

/-
  The characters that a set stands for: itself, or all that are
  in it but for their case.  Without Unicode, the characters of
  ASCII alone have a case.
-/
def fold
    (m : Mode)
    (s : CodeSet) : CodeSet :=
  if !m.caseInsensitive then
    s
  else if m.unicode then
    s.foldClosure
  else
    s.union ((s.intersection .ascii).foldClosure.intersection .ascii)

end Mode

end Regex

end TraversalPlanner
