import TraversalPlanner.Sorted.SortedSet
import TraversalPlanner.Text.Blank

/-
  This file defines pattern variables.  A variable is a name
  within one query.  Names that start with an underscore are
  reserved for variables that a query does not name itself.

  Key definitions include:
    * `Var`
    * `Var.render`
    * `NameFault`
    * `Var.ofName`
    * `Var.parse`
    * `Var.generated`
    * `Var.anonymous`
    * `VarSet`
-/

namespace TraversalPlanner

------------------------------------------------------------
-- Variables
------------------------------------------------------------

/- A pattern variable. -/
structure Var where
  name : String
deriving DecidableEq, Repr

namespace Var

/- Variables are ordered by their names. -/
instance : KeyOrder Var where
  before := fun x y => KeyOrder.before x.name y.name
  before_irrefl := fun x => KeyOrder.before_irrefl x.name
  before_trans := fun hxy hyz => KeyOrder.before_trans hxy hyz
  eq_of_not_before := by
    intro x y hxy hyx
    have hName : x.name = y.name := KeyOrder.eq_of_not_before hxy hyx
    cases x
    cases y
    cases hName
    rfl

/- A variable as queries write it. -/
def render (x : Var) : String :=
  "$" ++ x.name

/- The character that starts reserved names. -/
def reservedMark : Char :=
  '_'

/- The name of the variable is reserved. -/
def isGenerated (x : Var) : Bool :=
  x.name.toList.head? = some reservedMark

/- The variable with a reserved name for a tag. -/
def generated (tag : String) : Var :=
  ⟨"_" ++ tag⟩

/- The anonymous variable with a number. -/
def anonymous (n : Nat) : Var :=
  generated ("anon" ++ n.repr)

/- Generated variables have reserved names. -/
theorem isGenerated_generated (tag : String) :
    (generated tag).isGenerated = true := by
  simp [isGenerated, generated, reservedMark, String.toList_append]

end Var

------------------------------------------------------------
-- Names Chosen by Queries
------------------------------------------------------------

/- Why a text cannot name a variable. -/
inductive NameFault where
/- there is no name -/
| empty : NameFault
/- the name contains a blank -/
| blank : String → NameFault
/- the name is reserved -/
| reserved : String → NameFault
deriving DecidableEq, Repr

namespace NameFault

/- What is wrong with the name. -/
def message : NameFault → String
| .empty => "variable name must not be empty"
| .blank name => "variable name '" ++ name ++ "' must not contain whitespace"
| .reserved name =>
    "variable name '" ++ name ++ "' uses the reserved prefix '_'"

end NameFault

namespace Var

/- The variable that a query names by a text. -/
def ofName (name : String) : Except NameFault Var :=
  if Text.isAllBlank name then
    .error .empty
  else if Text.hasBlank name then
    .error (.blank name)
  else if (Var.mk name).isGenerated then
    .error (.reserved name)
  else
    .ok ⟨name⟩

/- The variable that a query names, with or without its mark. -/
def parse (text : String) : Except NameFault Var :=
  match text.toList with
  | '$' :: name => ofName (String.ofList name)
  | _ => ofName text

/- A query never names a reserved variable. -/
theorem isGenerated_of_ofName
    {name : String}
    {x : Var}
    (h : ofName name = .ok x) :
    x.isGenerated = false := by
  unfold ofName at h
  split at h
  · cases h
  · split at h
    · cases h
    · split at h
      · cases h
      · rename_i hGen
        cases h
        simpa using hGen

end Var

------------------------------------------------------------
-- Sets of Variables
------------------------------------------------------------

/- A finite set of variables. -/
abbrev VarSet : Type :=
  SortedSet Var

namespace VarSet

/- The elements of a set, as queries write them. -/
def render (s : VarSet) : List String :=
  s.toList.map Var.render

/- The given variables all belong to the set. -/
def ContainsAll
    (s : VarSet)
    (xs : List Var) : Prop :=
  ∀ x ∈ xs, x ∈ s

instance
    (s : VarSet)
    (xs : List Var) :
    Decidable (s.ContainsAll xs) := by
  unfold ContainsAll
  infer_instance

end VarSet

end TraversalPlanner
