import TraversalPlanner.Pattern.Clause
import TraversalPlanner.Regex.Grammar
import TraversalPlanner.Schema.Graph

/-
  This file checks patterns before they are planned: on their own
  first, and then against a schema.

  Key definitions include:
    * `ValidationError`
    * `ValidationError.message`
    * `Pattern.checkStructure`
    * `SchemaGraph.checkProperty`
    * `SchemaGraph.checkRelation`
    * `SchemaGraph.validate`
-/

namespace TraversalPlanner

------------------------------------------------------------
-- Errors
------------------------------------------------------------

/- Why a query is refused. -/
inductive ValidationError where
/- a pattern without clauses -/
| noClauses : ValidationError
/- a selection without variables -/
| noSelection : ValidationError
/- a label that no concept has -/
| labelNotFound :
    (label : String) →
    ValidationError
/- something else in the place of a role -/
| notARole :
    (label : String) →
    (kind : ConceptKind) →
    (clause : Clause) →
    ValidationError
/- role players of an instance of something else than a relation -/
| notARelation :
    (label : String) →
    (kind : ConceptKind) →
    ValidationError
/- a role that a relation does not relate -/
| roleNotRelated :
    (role : String) →
    (relation : String) →
    ValidationError
/- something else in the place of a resource type -/
| notAResource :
    (label : String) →
    (kind : ConceptKind) →
    ValidationError
/- an instance of a role -/
| instanceOfRole :
    (label : String) →
    ValidationError
/- one variable with two types -/
| conflictingTypes :
    (subject : Var) →
    (first : String) →
    (second : String) →
    ValidationError
/- a variable that the pattern does not mention -/
| notInQuery : Var → ValidationError
/- a text that names no variable -/
| badName : NameFault → ValidationError
/- a text that is no regular expression -/
| badRegex :
    (pattern : String) →
    (reason : String) →
    ValidationError
deriving DecidableEq, Repr

namespace ValidationError

/- Why the query is refused, in words. -/
def message : ValidationError → String
| .noClauses =>
    "no patterns have been provided. at least one pattern must be provided"
| .noSelection =>
    "no variables have been selected. at least one variable must be selected"
| .labelNotFound label => "label '" ++ label ++ "' not found"
| .notARole label kind clause =>
    "'" ++ label ++ "' is " ++ kind.description ++
      ", not a role type. perhaps you meant 'isa " ++ label ++
      "'? (in `" ++ clause.render ++ "`)"
| .notARelation label kind =>
    "'" ++ label ++ "' is " ++ kind.description ++
      ", not a relation type. perhaps you forgot to separate your " ++
      "statements with a ';'?"
| .roleNotRelated role relation =>
    "role '" ++ role ++ "' is not related by relation type '" ++
      relation ++ "'"
| .notAResource label kind =>
    "type '" ++ label ++ "' is " ++ kind.description ++
      " and must be a resource type"
| .instanceOfRole label =>
    "cannot get instances of '" ++ label ++ "' because it is a role type"
| .conflictingTypes subject first second =>
    "the following unique properties in " ++ subject.render ++
      " conflict: 'isa " ++ first ++ "' and 'isa " ++ second ++ "'"
| .notInQuery x => "the variable " ++ x.render ++ " is not in the query"
| .badName fault => "invalid argument: " ++ fault.message
| .badRegex pattern reason =>
    "invalid regex /" ++ pattern ++ "/: " ++ reason

end ValidationError

------------------------------------------------------------
-- Patterns on Their Own
------------------------------------------------------------

namespace Pattern

/-
  Every `isa` label of a clause is the first one that its
  variable has in the pattern.
-/
def checkTypes
    (p : Pattern)
    (c : Clause) : Except ValidationError Unit :=
  c.isaLabels.forM fun label =>
    match (p.isaLabelsOf c.subject).head? with
    | none => .ok ()
    | some first =>
        if first = label then
          .ok ()
        else
          .error (.conflictingTypes c.subject first label)

end Pattern

namespace Clause

variable [RegexGrammar]

/- The regular expressions of a clause are ones. -/
def checkRegexes (c : Clause) : Except ValidationError Unit :=
  (c.properties.filterMap Property.regex?).forM fun r =>
    match RegexGrammar.refusal? r with
    | none => .ok ()
    | some reason => .error (.badRegex r reason)

end Clause

namespace Pattern

variable [RegexGrammar]

/-
  The checks that need no schema: a pattern has clauses, the
  types of each variable agree, and its regular expressions are
  valid.
-/
def checkStructure (p : Pattern) : Except ValidationError Unit := do
  if p.clauses.isEmpty then
    .error .noClauses
  else
    p.clauses.forM fun c => do
      p.checkTypes c
      c.checkRegexes

end Pattern

------------------------------------------------------------
-- Patterns and Schemas
------------------------------------------------------------

namespace SchemaGraph

/- The concept with a label, which must exist. -/
def require
    (g : SchemaGraph)
    (label : String) : Except ValidationError SchemaConcept :=
  match g.resolve label with
  | none => .error (.labelNotFound label)
  | some c => .ok c

/- A label that a clause uses as a role is one. -/
def requireRole
    (g : SchemaGraph)
    (clause : Clause)
    (label : String) : Except ValidationError Unit := do
  let c ← g.require label
  if c.isRole then
    .ok ()
  else
    .error (.notARole label c.kind clause)

/- The labels of a property of a clause fit their places. -/
def checkProperty
    (g : SchemaGraph)
    (clause : Clause) : Property → Except ValidationError Unit
| .isa (.label label) => do
    let c ← g.require label
    if c.isRole then
      .error (.instanceOfRole label)
    else
      .ok ()
| .sub (.label label) => do
    let _ ← g.require label
    .ok ()
| .label label => do
    let _ ← g.require label
    .ok ()
| .relates (.label label) => g.requireRole clause label
| .plays (.label label) => g.requireRole clause label
| .rolePlayer p =>
    match p.roleLabel? with
    | none => .ok ()
    | some role => g.requireRole clause role
| .has type _ _ => do
    let c ← g.require type
    if c.isResource then
      .ok ()
    else
      .error (.notAResource type c.kind)
| _ => .ok ()

/- A label that types a relation is that of a relation type. -/
def requireRelation
    (g : SchemaGraph)
    (label : String) : Except ValidationError Unit := do
  let c ← g.require label
  if c.isRelation then
    .ok ()
  else
    .error (.notARelation label c.kind)

/- Relations relate the role of a role player, if it has a label. -/
def checkRolePlayer
    (g : SchemaGraph)
    (relations : List String)
    (p : RolePlayer) : Except ValidationError Unit :=
  match p.roleLabel? with
  | none => .ok ()
  | some role =>
      relations.forM fun relation =>
        if g.relatesRole relation role then
          .ok ()
        else
          .error (.roleNotRelated role relation)

/-
  If a clause has role players, each type of its variable in the
  pattern is a relation type and relates their roles.
-/
def checkRelation
    (g : SchemaGraph)
    (p : Pattern)
    (c : Clause) : Except ValidationError Unit :=
  if c.rolePlayers.isEmpty then
    .ok ()
  else do
    let relations := p.isaLabelsOf c.subject
    relations.forM g.requireRelation
    c.rolePlayers.forM (g.checkRolePlayer relations)

/- The first reason to refuse a pattern. -/
def validate
    [RegexGrammar]
    (g : SchemaGraph)
    (p : Pattern) : Except ValidationError Unit := do
  p.checkStructure
  p.clauses.forM fun c => c.properties.forM (g.checkProperty c)
  p.clauses.forM (g.checkRelation p)

end SchemaGraph

end TraversalPlanner
