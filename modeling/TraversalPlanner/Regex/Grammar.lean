/-
  This file defines what planners know about regular expressions:
  which texts are none, and why.  What they do with a pattern
  depends on nothing else about its regular expressions.

  Key definitions include:
    * `RegexGrammar`
    * `RegexGrammar.Accepts`
-/

namespace TraversalPlanner

------------------------------------------------------------
-- Grammars
------------------------------------------------------------

/-
  A grammar of regular expressions.  Texts that do not follow it
  are refused, with the reason in words.
-/
class RegexGrammar where
  refusal? : String → Option String

namespace RegexGrammar

variable [RegexGrammar]

/- A text is a regular expression. -/
def Accepts (text : String) : Prop :=
  refusal? text = none

end RegexGrammar

end TraversalPlanner
