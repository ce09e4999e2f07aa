import TraversalPlanner.Planner.Error

/-
  This file checks patterns that describe data to insert.  The
  types that a pattern gives its variables must allow the
  resources and the roles that it states.

  Key definitions include:
    * `Pattern.typeOf?`
    * `SchemaGraph.checkInsert`
    * `InsertValidator`
    * `InsertValidator.check`
-/

namespace TraversalPlanner

------------------------------------------------------------
-- Permissions
------------------------------------------------------------

/- The label of the type that a pattern gives a variable. -/
def Pattern.typeOf?
    (p : Pattern)
    (x : Var) : Option String :=
  (p.isaLabelsOf x).head?

namespace SchemaGraph

/- A variable may own resources of a type, if its type is known. -/
def permitOwner
    (g : SchemaGraph)
    (type : Option String)
    (resourceType : String) : Except DataError Unit :=
  match type with
  | none => .ok ()
  | some owner =>
      if g.canHave owner resourceType then
        .ok ()
      else
        .error (.mayNotOwn owner resourceType)

/- A variable may play a role, if its type and the role are known. -/
def permitPlayer
    (g : SchemaGraph)
    (type : Option String)
    (role : Option String) : Except DataError Unit :=
  match role, type with
  | some role, some type =>
      if g.canPlay type role then
        .ok ()
      else
        .error (.mayNotPlay type role)
  | _, _ => .ok ()

/- The types of a pattern permit a property of a clause. -/
def permitProperty
    (g : SchemaGraph)
    (p : Pattern)
    (c : Clause) : Property → Except DataError Unit
| .has type _ _ => g.permitOwner (p.typeOf? c.subject) type
| .rolePlayer r => g.permitPlayer (p.typeOf? r.player) r.roleLabel?
| _ => .ok ()

/- The types of a pattern permit everything that it states. -/
def permit
    (g : SchemaGraph)
    (p : Pattern) : Except DataError Unit :=
  p.clauses.forM fun c => c.properties.forM (g.permitProperty p c)

/- The first reason not to insert what a pattern states. -/
def checkInsert
    [RegexGrammar]
    (g : SchemaGraph)
    (p : Pattern) : Except PlannerError Unit :=
  match g.validate p with
  | .error e => .error (.validation e)
  | .ok () =>
      match g.permit p with
      | .error e => .error (.data e)
      | .ok () => .ok ()

end SchemaGraph

------------------------------------------------------------
-- Counting Validators
------------------------------------------------------------

/- A schema, and how many patterns were checked against it. -/
structure InsertValidator where
  graph : SchemaGraph
  total : Nat
  valid : Nat
  invalid : Nat
deriving DecidableEq

namespace InsertValidator

/- A validator that has not checked anything. -/
def ofGraph (graph : SchemaGraph) : InsertValidator :=
  ⟨graph, 0, 0, 0⟩

/- Count a result. -/
def count
    (v : InsertValidator) : Except PlannerError Unit → InsertValidator
| .ok () => { v with total := v.total + 1, valid := v.valid + 1 }
| .error _ => { v with total := v.total + 1, invalid := v.invalid + 1 }

/- Check a pattern and count the result. -/
def check
    [RegexGrammar]
    (v : InsertValidator)
    (p : Pattern) : Except PlannerError Unit × InsertValidator :=
  let result := v.graph.checkInsert p
  (result, v.count result)

end InsertValidator

end TraversalPlanner
