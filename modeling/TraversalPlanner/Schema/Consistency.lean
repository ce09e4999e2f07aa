import TraversalPlanner.Schema.Graph

/-
  This file checks that the references of a schema resolve to
  concepts of the right kinds, and that no concept is above
  itself.

  Key definitions include:
    * `DefinitionFault`
    * `SchemaGraph.checkConcept`
    * `SchemaGraph.checkConsistency`
-/

namespace TraversalPlanner

------------------------------------------------------------
-- Faults
------------------------------------------------------------

/- What is wrong with the definition of a concept. -/
inductive DefinitionFault where
/- a reference to a label without a concept -/
| undefined :
    (owner : String) →
    (reference : String) →
    DefinitionFault
/- a supertype of another kind -/
| supertypeKind :
    (label : String) →
    (kind : ConceptKind) →
    (sup : String) →
    (supKind : ConceptKind) →
    DefinitionFault
/- a reference to a concept of the wrong kind -/
| referenceKind :
    (owner : String) →
    (reference : String) →
    (kind : ConceptKind) →
    (expected : ConceptKind) →
    DefinitionFault
/- a concept whose supertypes repeat -/
| cycle :
    (label : String) →
    DefinitionFault
deriving DecidableEq, Repr

namespace DefinitionFault

/- What is wrong, in words. -/
def message : DefinitionFault → String
| .undefined owner reference =>
    "'" ++ owner ++ "' references undefined concept '" ++ reference ++ "'"
| .supertypeKind label kind sup supKind =>
    "'" ++ label ++ "' is " ++ kind.description ++ " but its supertype '" ++
      sup ++ "' is " ++ supKind.description
| .referenceKind owner reference kind expected =>
    "'" ++ owner ++ "' references '" ++ reference ++ "', which is " ++
      kind.description ++ " rather than " ++ expected.description
| .cycle label => "supertype cycle through '" ++ label ++ "'"

end DefinitionFault

------------------------------------------------------------
-- Checks
------------------------------------------------------------

namespace SchemaGraph

/- The supertype of a concept is of its kind or the root. -/
def checkSup
    (g : SchemaGraph)
    (c : SchemaConcept) : Except DefinitionFault Unit :=
  match c.sup with
  | none => .ok ()
  | some sup =>
      match g.resolve sup with
      | none => .error (.undefined c.label sup)
      | some p =>
          if p.kind ≠ c.kind ∧ p.kind ≠ .root then
            .error (.supertypeKind c.label c.kind sup p.kind)
          else
            .ok ()

/- A reference resolves to a concept of a kind. -/
def checkReference
    (g : SchemaGraph)
    (owner : String)
    (expected : ConceptKind)
    (reference : String) : Except DefinitionFault Unit :=
  match g.resolve reference with
  | none => .error (.undefined owner reference)
  | some c =>
      if c.kind = expected then
        .ok ()
      else
        .error (.referenceKind owner reference c.kind expected)

/-
  The walk from a concept to its supertypes repeats a label.
  `bound` limits the walk.
-/
def repeats
    (g : SchemaGraph) :
    (bound : Nat) →
    (seen : List String) →
    Option SchemaConcept →
    Bool
| _, _, none => false
| 0, _, some _ => true
| bound + 1, seen, some c =>
    decide (c.label ∈ seen) || repeats g bound (c.label :: seen) (g.parent c)

/- The supertypes of a concept end. -/
def checkCycle
    (g : SchemaGraph)
    (c : SchemaConcept) : Except DefinitionFault Unit :=
  if g.repeats g.concepts.size [] (some c) then
    .error (.cycle c.label)
  else
    .ok ()

/- The first fault of a concept, in the order of its fields. -/
def checkConcept
    (g : SchemaGraph)
    (c : SchemaConcept) : Except DefinitionFault Unit := do
  g.checkSup c
  (c.relates ++ c.plays).forM (g.checkReference c.label .roleType)
  c.has.forM (g.checkReference c.label .resourceType)
  g.checkCycle c

/- The first fault of a schema, in the order of labels. -/
def checkConsistency (g : SchemaGraph) : Except DefinitionFault Unit :=
  g.concepts.values.forM g.checkConcept

end SchemaGraph

end TraversalPlanner
