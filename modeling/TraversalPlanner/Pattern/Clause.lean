import TraversalPlanner.Pattern.Property

/-
  This file defines clauses and patterns.  A clause states
  properties of one variable; a pattern is a conjunction of
  clauses.

  Key definitions include:
    * `Clause`
    * `Clause.render`
    * `Pattern`
    * `Pattern.vars`
    * `Pattern.clausesOf`
    * `Pattern.isaLabelsOf`
    * `Pattern.render`
    * `Pattern.Agree`
-/

namespace TraversalPlanner

------------------------------------------------------------
-- Clauses
------------------------------------------------------------

/- The properties stated of one variable. -/
structure Clause where
  subject : Var
  properties : List Property
deriving DecidableEq, Repr

namespace Clause

/- The role players of a clause. -/
def rolePlayers (c : Clause) : List RolePlayer :=
  c.properties.filterMap Property.rolePlayer?

/- The labels of the types that the variable is an instance of. -/
def isaLabels (c : Clause) : List String :=
  c.properties.filterMap Property.isaLabel?

/- The variable of a clause and those that its properties mention. -/
def vars (c : Clause) : List Var :=
  c.subject :: c.properties.flatMap Property.innerVars

/-
  A clause as queries write it: its variable, all role players in
  one pair of parentheses, and the other properties.
-/
def render (c : Clause) : String :=
  let players := c.rolePlayers.map RolePlayer.render
  let others := c.properties.filter fun p => p.rolePlayer?.isNone
  let players :=
    if players.isEmpty then
      ""
    else
      " (" ++ String.intercalate ", " players ++ ")"
  let others :=
    if others.isEmpty then
      ""
    else
      " " ++ String.intercalate ", " (others.map Property.render)
  c.subject.render ++ players ++ others

/- Lists of properties that agree one by one. -/
def PropertiesAgree : List Property → List Property → Prop
| [], [] => True
| p :: ps, q :: qs => p.Agree q ∧ PropertiesAgree ps qs
| _, _ => False

instance decidablePropertiesAgree :
    (ps qs : List Property) → Decidable (PropertiesAgree ps qs)
| [], [] => isTrue trivial
| [], _ :: _ => isFalse id
| _ :: _, [] => isFalse id
| p :: ps, q :: qs =>
    have := decidablePropertiesAgree ps qs
    inferInstanceAs (Decidable (p.Agree q ∧ PropertiesAgree ps qs))

/- Two clauses are equal up to literals for the same number. -/
def Agree (c d : Clause) : Prop :=
  c.subject = d.subject ∧ PropertiesAgree c.properties d.properties

instance (c d : Clause) : Decidable (c.Agree d) := by
  unfold Agree
  infer_instance

end Clause

------------------------------------------------------------
-- Patterns
------------------------------------------------------------

/- A conjunction of clauses. -/
structure Pattern where
  clauses : List Clause
deriving DecidableEq, Repr

namespace Pattern

/- Every variable that a pattern mentions. -/
def vars (p : Pattern) : VarSet :=
  SortedSet.ofList (p.clauses.flatMap Clause.vars)

/- The clauses on a variable, in order. -/
def clausesOf
    (p : Pattern)
    (x : Var) : List Clause :=
  p.clauses.filter fun c => c.subject = x

/- The `isa` labels of a variable in any clause, in order. -/
def isaLabelsOf
    (p : Pattern)
    (x : Var) : List String :=
  (p.clausesOf x).flatMap Clause.isaLabels

/- A pattern as queries write it. -/
def render (p : Pattern) : String :=
  String.intercalate " " (p.clauses.map fun c => c.render ++ ";")

/- Lists of clauses that agree one by one. -/
def ClausesAgree : List Clause → List Clause → Prop
| [], [] => True
| c :: cs, d :: ds => c.Agree d ∧ ClausesAgree cs ds
| _, _ => False

instance decidableClausesAgree :
    (cs ds : List Clause) → Decidable (ClausesAgree cs ds)
| [], [] => isTrue trivial
| [], _ :: _ => isFalse id
| _ :: _, [] => isFalse id
| c :: cs, d :: ds =>
    have := decidableClausesAgree cs ds
    inferInstanceAs (Decidable (c.Agree d ∧ ClausesAgree cs ds))

/- Two patterns are equal up to literals for the same number. -/
def Agree (p q : Pattern) : Prop :=
  ClausesAgree p.clauses q.clauses

instance (p q : Pattern) : Decidable (p.Agree q) := by
  unfold Agree
  infer_instance

end Pattern

end TraversalPlanner
