import TraversalPlanner.Text.Blank

/-
  This file skips what does not count in verbose regular
  expressions: blanks, and comments from a number sign to the end
  of the line.  Others count every character.

  Key definitions include:
    * `Regex.skip`
    * `Regex.peek`
    * `Regex.braced`
-/

namespace TraversalPlanner

namespace Regex

/- The text behind blanks and comments; `noted` says if one is open. -/
def skipNotes : (noted : Bool) → List Char → List Char
| _, [] => []
| true, c :: cs => skipNotes (c != '\n') cs
| false, c :: cs =>
    if Text.isBlank c then
      skipNotes false cs
    else if c = '#' then
      skipNotes true cs
    else
      c :: cs

/- The text behind what does not count. -/
def skip
    (verbose : Bool)
    (cs : List Char) : List Char :=
  if verbose then skipNotes false cs else cs

/-
  The first character behind blanks and one number sign.  The
  text of a comment is not skipped here.
-/
def firstVisible : (noted : Bool) → List Char → Option Char
| _, [] => none
| noted, c :: cs =>
    if Text.isBlank c then
      firstVisible noted cs
    else if !noted && c = '#' then
      firstVisible true cs
    else
      some c

/- The character that comes next, as far as a class looks ahead. -/
def peek
    (verbose : Bool)
    (cs : List Char) : Option Char :=
  if verbose then
    (firstVisible false cs).or cs.head?
  else
    cs.head?

/-
  The characters that count up to a closing brace, and the text
  behind it.
-/
def bracedFrom
    (verbose : Bool) :
    (noted : Bool) →
    List Char →
    Option (List Char × List Char)
| _, [] => none
| true, c :: cs => bracedFrom verbose (c != '\n') cs
| false, c :: cs =>
    if verbose && Text.isBlank c then
      bracedFrom verbose false cs
    else if verbose && c = '#' then
      bracedFrom verbose true cs
    else if c = '\x7d' then
      some ([], cs)
    else
      (bracedFrom verbose false cs).map fun (body, rest) => (c :: body, rest)

/- What stands between braces, behind the opening one. -/
def braced
    (verbose : Bool)
    (cs : List Char) : Option (List Char × List Char) :=
  bracedFrom verbose false cs

end Regex

end TraversalPlanner
