import TraversalPlanner.Pattern.Value

/-
  This file defines the properties that a clause states of its
  variable.

  Key definitions include:
    * `TypeRef`
    * `RolePlayer`
    * `Property`
    * `Property.innerVars`
    * `Property.regex?`
    * `Property.render`
    * `Property.Agree`
-/

namespace TraversalPlanner

------------------------------------------------------------
-- References to Types
------------------------------------------------------------

/- A schema type, given by its label or by a variable. -/
inductive TypeRef where
| label : String → TypeRef
| var : Var → TypeRef
deriving DecidableEq, Repr

namespace TypeRef

/- The label of a reference, if it is one. -/
def label? : TypeRef → Option String
| .label l => some l
| .var _ => none

/- The variable of a reference, if it is one. -/
def var? : TypeRef → Option Var
| .label _ => none
| .var x => some x

/- A reference as queries write it. -/
def render : TypeRef → String
| .label l => l
| .var x => x.render

end TypeRef

------------------------------------------------------------
-- Role Players
------------------------------------------------------------

/- A player of a relation, with the role that it plays if given. -/
structure RolePlayer where
  role : Option TypeRef
  player : Var
deriving DecidableEq, Repr

namespace RolePlayer

/- The label of the role, if it is given by one. -/
def roleLabel? (p : RolePlayer) : Option String :=
  p.role.bind TypeRef.label?

/- A role player as queries write it. -/
def render (p : RolePlayer) : String :=
  match p.role with
  | some role => role.render ++ ": " ++ p.player.render
  | none => p.player.render

end RolePlayer

------------------------------------------------------------
-- Properties
------------------------------------------------------------

/- One constraint on the variable of a clause. -/
inductive Property where
/- an instance of the type or of a subtype -/
| isa : TypeRef → Property
/- a subtype of the type -/
| sub : TypeRef → Property
/- the schema concept with this label -/
| label : String → Property
/- the concept with this identifier -/
| id : String → Property
/- a resource whose value satisfies the predicate -/
| value : ValuePredicate → Property
/- an owner of a resource of the type -/
| has :
    (resourceType : String) →
    (resource : Option Var) →
    (predicate : Option ValuePredicate) →
    Property
/- a relation with this role player -/
| rolePlayer : RolePlayer → Property
/- a relation type that relates the role -/
| relates : TypeRef → Property
/- a type whose instances may play the role -/
| plays : TypeRef → Property
/- a resource type with values of the data type -/
| dataType : DataType → Property
/- a type without direct instances -/
| isAbstract : Property
/- a resource type whose values match the regular expression -/
| regex : String → Property
/- a concept other than that of the variable -/
| neq : Var → Property
deriving DecidableEq, Repr

namespace Property

/- The variables that a property mentions, in order. -/
def innerVars : Property → List Var
| .isa t => t.var?.toList
| .sub t => t.var?.toList
| .label _ => []
| .id _ => []
| .value p => p.var?.toList
| .has _ resource predicate =>
    resource.toList ++ (predicate.bind ValuePredicate.var?).toList
| .rolePlayer p => (p.role.bind TypeRef.var?).toList ++ [p.player]
| .relates t => t.var?.toList
| .plays t => t.var?.toList
| .dataType _ => []
| .isAbstract => []
| .regex _ => []
| .neq x => [x]

/- The regular expression of a property, if it has one. -/
def regex? : Property → Option String
| .regex r => some r
| .value p => p.regex?
| .has _ _ predicate => predicate.bind ValuePredicate.regex?
| _ => none

/- The label of an `isa` property, if it is given by one. -/
def isaLabel? : Property → Option String
| .isa t => t.label?
| _ => none

/- The role player of a property, if it is one. -/
def rolePlayer? : Property → Option RolePlayer
| .rolePlayer p => some p
| _ => none

/- An optional part behind a space. -/
def renderOptional : Option String → String
| none => ""
| some s => " " ++ s

/- A property as queries write it. -/
def render : Property → String
| .isa t => "isa " ++ t.render
| .sub t => "sub " ++ t.render
| .label l => "label " ++ l
| .id i => "id \"" ++ i ++ "\""
| .value p => "val " ++ p.render
| .has type resource predicate =>
    "has " ++ type ++ renderOptional (predicate.map ValuePredicate.render) ++
      renderOptional (resource.map Var.render)
| .rolePlayer p => "(" ++ p.render ++ ")"
| .relates t => "relates " ++ t.render
| .plays t => "plays " ++ t.render
| .dataType t => "datatype " ++ t.name
| .isAbstract => "is-abstract"
| .regex r => "regex /" ++ r ++ "/"
| .neq x => "!= " ++ x.render

/- Two optional predicates ask for the same. -/
def PredicateAgree : Option ValuePredicate → Option ValuePredicate → Prop
| none, none => True
| some p, some q => p.Agree q
| _, _ => False

instance (p q : Option ValuePredicate) : Decidable (PredicateAgree p q) := by
  cases p <;> cases q <;> unfold PredicateAgree <;> infer_instance

/- Two properties are equal up to literals for the same number. -/
def Agree : Property → Property → Prop
| .value p, .value q => p.Agree q
| .has t a p, .has u b q => t = u ∧ a = b ∧ PredicateAgree p q
| .value _, .has _ _ _ => False
| .has _ _ _, .value _ => False
| p, q => p = q

instance (p q : Property) : Decidable (p.Agree q) := by
  unfold Agree
  split <;> infer_instance

end Property

end TraversalPlanner
