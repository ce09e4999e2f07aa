import TraversalPlanner.Unicode.Trait

/-
  This file defines the classes of characters that have a letter
  or a short name of their own.

  Key definitions include:
    * `Regex.CharClass`
    * `Regex.CharClass.members`
    * `Regex.asciiClass?`
-/

namespace TraversalPlanner

namespace Regex

------------------------------------------------------------
-- Classes Named by a Letter
------------------------------------------------------------

/- A class of characters that is named by one letter. -/
inductive CharClass where
| digit
| blank
| word
deriving DecidableEq, Repr

namespace CharClass

/- The class of a small letter. -/
def ofLetter? (c : Char) : Option CharClass :=
  match c with
  | 'd' => some .digit
  | 's' => some .blank
  | 'w' => some .word
  | _ => none

/- The characters of a class. -/
def unicodeMembers : CharClass → CodeSet
| .digit => Unicode.categories ["nd"]
| .blank => Unicode.trait "wspace"
| .word => Unicode.wordCharacters

/- The characters of a class that are ASCII. -/
def asciiMembers : CharClass → CodeSet
| .digit => .ofText "30-39"
| .blank => .ofText "9-d 20"
| .word => .ofText "30-39 41-5a 5f 61-7a"

/- The characters of a class, with or without Unicode. -/
def members
    (unicode : Bool)
    (kind : CharClass) : CodeSet :=
  if unicode then kind.unicodeMembers else kind.asciiMembers

end CharClass

------------------------------------------------------------
-- Classes of ASCII
------------------------------------------------------------

/- The classes of ASCII characters, each with its name. -/
def asciiClasses : List (List Char × String) :=
  [("alnum".toList, "30-39 41-5a 61-7a"),
   ("alpha".toList, "41-5a 61-7a"),
   ("ascii".toList, "0-7f"),
   ("blank".toList, "9 20"),
   ("cntrl".toList, "0-1f 7f"),
   ("digit".toList, "30-39"),
   ("graph".toList, "21-7e"),
   ("lower".toList, "61-7a"),
   ("print".toList, "20-7e"),
   ("punct".toList, "21-2f 3a-40 5b-60 7b-7e"),
   ("space".toList, "9-d 20"),
   ("upper".toList, "41-5a"),
   ("word".toList, "30-39 41-5a 5f 61-7a"),
   ("xdigit".toList, "30-39 41-46 61-66")]

/- The characters of a class of ASCII. -/
def asciiClass? (name : List Char) : Option CodeSet :=
  (asciiClasses.find? fun e => e.1 = name).map fun e => .ofText e.2

end Regex

end TraversalPlanner
