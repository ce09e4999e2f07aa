import TraversalPlanner.Unicode.Age
import TraversalPlanner.Unicode.Segment

/-
  This file finds the characters with a property by its name: a
  category, a script or a property that characters have or have
  not, or a property with a value.  Case, blanks, underscores and
  hyphens in names do not count.

  Key definitions include:
    * `Regex.normalizeName`
    * `Regex.propertySet?`
    * `Regex.valueSet?`
    * `Regex.propertyQuery?`
-/

namespace TraversalPlanner

namespace Regex

------------------------------------------------------------
-- Names
------------------------------------------------------------

/- A character that does not count in a name. -/
def isIgnored (c : Char) : Bool :=
  c = ' ' || c = '_' || c = '-' || decide (0x7F < c.toNat)

/- The characters of a name that count, in lower case. -/
def countedChars (cs : List Char) : List Char :=
  (cs.filter fun c => !isIgnored c).map Char.toLower

/-
  The normal form of a name, without the word `is` in front.  A
  single `c` behind that word makes a name of its own, which is
  not the category `c`.
-/
def normalizeName (cs : List Char) : String :=
  match cs with
  | a :: b :: rest =>
      if a.toLower = 'i' && b.toLower = 's' then
        match countedChars rest with
        | ['c'] => "isc"
        | name => String.ofList name
      else
        String.ofList (countedChars cs)
  | _ => String.ofList (countedChars cs)

------------------------------------------------------------
-- Properties by Name
------------------------------------------------------------

/-
  The characters with a property.  A name that is one of a
  category and one of a script is that of the category.
-/
def propertySet? (cs : List Char) : Option CodeSet :=
  let name := normalizeName cs
  (Unicode.trait? name).or <|
    (Unicode.category? name).or (Unicode.script? name)

/- The properties with values, each with what finds its values. -/
def valuedProperties : List (List String × (String → Option CodeSet)) :=
  [(["gc", "generalcategory"], Unicode.category?),
   (["sc", "script"], Unicode.script?),
   (["scx", "scriptextensions"], Unicode.scriptExtension?),
   (["age"], Unicode.age?),
   (["gcb", "graphemeclusterbreak"], Unicode.graphemeClass?),
   (["sb", "sentencebreak"], Unicode.sentenceClass?),
   (["wb", "wordbreak"], Unicode.wordClass?)]

/- The characters for which a property has a value. -/
def valueSet? (property value : List Char) : Option CodeSet := do
  let name := normalizeName property
  let p ← valuedProperties.find? fun p => p.1.contains name
  p.2 (normalizeName value)

/- Split a text at the first place where a separator stands. -/
def splitAt?
    (separator : List Char) : List Char → Option (List Char × List Char)
| [] => none
| c :: cs =>
    if separator.isPrefixOf (c :: cs) then
      some ([], (c :: cs).drop separator.length)
    else
      (splitAt? separator cs).map fun (before, after) => (c :: before, after)

/-
  What may stand between braces: a name alone, or a property and
  its value with `!=`, `:` or `=` between them.  The set is that
  of the characters with the property; all others may be meant.
-/
def propertyQuery? (cs : List Char) : Option (CodeSet × Bool) :=
  match splitAt? ['!', '='] cs with
  | some (property, value) => (valueSet? property value).map (·, true)
  | none =>
      match (splitAt? [':'] cs).or (splitAt? ['='] cs) with
      | some (property, value) => (valueSet? property value).map (·, false)
      | none => (propertySet? cs).map (·, false)

end Regex

end TraversalPlanner
