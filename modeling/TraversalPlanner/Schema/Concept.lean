import TraversalPlanner.Pattern.Value
import TraversalPlanner.Sorted.SortedMap

/-
  This file defines the concepts of a schema: types of entities,
  relations, roles and resources, and what they may do.

  Key definitions include:
    * `ConceptKind`
    * `SchemaConcept`
    * `SchemaConcept.metaConcepts`
    * `ConceptMap`
-/

namespace TraversalPlanner

------------------------------------------------------------
-- Kinds
------------------------------------------------------------

/- The kind of a schema concept. -/
inductive ConceptKind where
| root
| entityType
| relationType
| roleType
| resourceType
| ruleType
deriving DecidableEq, Repr

namespace ConceptKind

/- A kind in words. -/
def description : ConceptKind → String
| .root => "a meta type"
| .entityType => "an entity type"
| .relationType => "a relation type"
| .roleType => "a role type"
| .resourceType => "a resource type"
| .ruleType => "a rule type"

/- The tag of a kind in documents. -/
def tag : ConceptKind → String
| .root => "meta"
| .entityType => "entity_type"
| .relationType => "relation_type"
| .roleType => "role_type"
| .resourceType => "resource_type"
| .ruleType => "rule_type"

/- All kinds. -/
def all : List ConceptKind :=
  [.root, .entityType, .relationType, .roleType, .resourceType, .ruleType]

/- The kind with a tag. -/
def ofTag? (tag : String) : Option ConceptKind :=
  all.find? fun k => k.tag = tag

end ConceptKind

------------------------------------------------------------
-- Concepts
------------------------------------------------------------

/- A labelled concept of a schema. -/
structure SchemaConcept where
  label : String
  kind : ConceptKind
  /- the label of the direct supertype -/
  sup : Option String
  /- the roles that a relation type relates -/
  relates : List String
  /- the roles that instances may play -/
  plays : List String
  /- the types of resources that instances may own -/
  has : List String
  dataType : Option DataType
  isAbstract : Bool
deriving DecidableEq, Repr

namespace SchemaConcept

/- A concept that may do nothing. -/
def plain
    (label : String)
    (kind : ConceptKind)
    (sup : Option String) : SchemaConcept where
  label := label
  kind := kind
  sup := sup
  relates := []
  plays := []
  has := []
  dataType := none
  isAbstract := false

/- A concept that every schema has. -/
def builtin
    (label : String)
    (kind : ConceptKind)
    (sup : Option String) : SchemaConcept :=
  { plain label kind sup with isAbstract := true }

/- The label of the type of all relations. -/
def relationLabel : String :=
  "relation"

/- The concepts that every schema has. -/
def metaConcepts : List SchemaConcept :=
  [builtin "thing" .root none,
   builtin "entity" .entityType (some "thing"),
   builtin relationLabel .relationType (some "thing"),
   builtin "resource" .resourceType (some "thing"),
   builtin "role" .roleType none,
   builtin "rule" .ruleType none]

/- The built-in supertype of a kind, unless it is the root. -/
def defaultSup : ConceptKind → Option String
| .root => none
| .entityType => some "entity"
| .relationType => some relationLabel
| .roleType => some "role"
| .resourceType => some "resource"
| .ruleType => some "rule"

/- A concept below the built-in concept of its kind. -/
def ofKind
    (label : String)
    (kind : ConceptKind) : SchemaConcept :=
  plain label kind (defaultSup kind)

/- The concept is a role type. -/
def isRole (c : SchemaConcept) : Bool :=
  c.kind = .roleType

/- The concept is a relation type. -/
def isRelation (c : SchemaConcept) : Bool :=
  c.kind = .relationType

/- The concept is a resource type. -/
def isResource (c : SchemaConcept) : Bool :=
  c.kind = .resourceType

end SchemaConcept

/- Concepts by label. -/
abbrev ConceptMap : Type :=
  SortedMap String SchemaConcept

end TraversalPlanner
