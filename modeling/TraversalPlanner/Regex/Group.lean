import TraversalPlanner.Regex.Layout
import TraversalPlanner.Regex.Mode
import TraversalPlanner.Text.Letter

/-
  This file reads the openings of groups: names of captures, and
  flags.

  Key definitions include:
    * `Regex.readGroupName`
    * `Regex.readFlags`
    * `Regex.GroupOpening`
    * `Regex.readGroup`
-/

namespace TraversalPlanner

namespace Regex

------------------------------------------------------------
-- Names
------------------------------------------------------------

/- A character that may start the name of a group. -/
def isNameStart (c : Char) : Bool :=
  c = '_' || Text.isAlphabetic c

/- A character that may stand in the name of a group. -/
def isNameChar (c : Char) : Bool :=
  c = '_' || c = '.' || c = '[' || c = ']' ||
    Text.isAlphabetic c || Text.isNumeric c

/- The name of a group up to its closing bracket. -/
def readGroupName (cs : List Char) : Option (String × List Char) :=
  match cs.span isNameChar with
  | (c :: name, '>' :: rest) =>
      if isNameStart c then
        some (String.ofList (c :: name), rest)
      else
        none
  | _ => none

------------------------------------------------------------
-- Flags
------------------------------------------------------------

/- What is known of flags while they are read. -/
structure FlagsRead where
  settings : FlagSettings
  /- the flags that follow are taken away -/
  negative : Bool
  /- nothing stands behind the mark of negation -/
  dangling : Bool

namespace FlagsRead

/- Nothing is read yet. -/
def start : FlagsRead :=
  ⟨[], false, false⟩

/- Read a letter or the mark of negation, neither of them twice. -/
def add
    (r : FlagsRead)
    (c : Char) : Option FlagsRead :=
  if c = '-' then
    if r.negative then none else some ⟨r.settings, true, true⟩
  else
    match Flag.ofLetter? c with
    | none => none
    | some f =>
        if (r.settings.map Prod.fst).contains f then
          none
        else
          some ⟨(f, !r.negative) :: r.settings, r.negative, false⟩

end FlagsRead

/- Flags up to a colon or a closing parenthesis, which is left. -/
def readFlagsFrom
    (r : FlagsRead) : List Char → Option (FlagSettings × List Char)
| [] => none
| c :: cs =>
    if c = ':' || c = ')' then
      if r.dangling then none else some (r.settings, c :: cs)
    else
      match r.add c with
      | none => none
      | some r => readFlagsFrom r cs

/- Flags, and the text from the character on that ends them. -/
def readFlags (cs : List Char) : Option (FlagSettings × List Char) :=
  readFlagsFrom .start cs

------------------------------------------------------------
-- Openings
------------------------------------------------------------

/- What an opening parenthesis starts. -/
inductive GroupOpening where
/- a group without a name -/
| plain : GroupOpening
/- a group with a name -/
| named : String → GroupOpening
/- a group with flags of its own -/
| flagged : FlagSettings → GroupOpening
/- no group, but flags for the rest of the group around it -/
| flags : FlagSettings → GroupOpening
deriving DecidableEq, Repr

/- The opening of a group, from a question mark on. -/
def readExtension (cs : List Char) : Option (GroupOpening × List Char) :=
  match cs with
  | '=' :: _ => none
  | '!' :: _ => none
  | '<' :: '=' :: _ => none
  | '<' :: '!' :: _ => none
  | 'P' :: '<' :: cs =>
      (readGroupName cs).map fun (name, rest) => (.named name, rest)
  | '<' :: cs =>
      (readGroupName cs).map fun (name, rest) => (.named name, rest)
  | cs =>
      match readFlags cs with
      | some (fs, ':' :: rest) => some (.flagged fs, rest)
      | some ([], ')' :: _) => none
      | some (fs, ')' :: rest) => some (.flags fs, rest)
      | _ => none

/-
  The opening of a group behind its parenthesis.  Groups that
  look around are not supported.
-/
def readGroup
    (verbose : Bool)
    (cs : List Char) : Option (GroupOpening × List Char) :=
  match skip verbose cs with
  | '?' :: cs => readExtension cs
  | cs => some (.plain, cs)

end Regex

end TraversalPlanner
