import TraversalPlanner.Json.Loading
import TraversalPlanner.Pattern.Document
import TraversalPlanner.Schema.Consistency

/-
  This file writes schemas as documents and loads them.  A loaded
  schema gets the built-in concepts that its document leaves out,
  and must be consistent.

  Key definitions include:
    * `SchemaConcept.toJson`, `SchemaConcept.ofJson?`
    * `SchemaGraph.toJson`, `SchemaGraph.ofJson?`
    * `SchemaGraph.toText`
    * `SchemaGraph.load`
-/

namespace TraversalPlanner

------------------------------------------------------------
-- Concepts
------------------------------------------------------------

namespace ConceptKind

/- A kind is written as its tag. -/
def toJson (k : ConceptKind) : Json :=
  .string k.tag

/- A kind is read from its tag. -/
def ofJson? (j : Json) : Option ConceptKind :=
  j.plainAlternative?.bind ofTag?

end ConceptKind

namespace SchemaConcept

/- The names of the fields of a concept. -/
def fieldNames : List String :=
  ["label", "kind", "sup", "relates", "plays", "has", "data_type",
    "is_abstract"]

/- A concept is written as a record. -/
def toJson (c : SchemaConcept) : Json :=
  .object
    [("label", .string c.label),
     ("kind", c.kind.toJson),
     ("sup", .ofOption (c.sup.map Json.string)),
     ("relates", .ofStrings c.relates),
     ("plays", .ofStrings c.plays),
     ("has", .ofStrings c.has),
     ("data_type", .ofOption (c.dataType.map DataType.toJson)),
     ("is_abstract", .bool c.isAbstract)]

/-
  A concept is read from a record, in which only the label and
  the kind are required.
-/
def ofJson? (j : Json) : Option SchemaConcept := do
  match ← j.slots? fieldNames with
  | [label, kind, sup, relates, plays, has, dataType, isAbstract] =>
      let label ← label.required Json.toText?
      let kind ← kind.required ConceptKind.ofJson?
      let sup ← sup.withDefault none (Json.toOption? Json.toText?)
      let relates ← relates.withDefault [] (Json.toList? Json.toText?)
      let plays ← plays.withDefault [] (Json.toList? Json.toText?)
      let has ← has.withDefault [] (Json.toList? Json.toText?)
      let dataType ← dataType.withDefault none (Json.toOption? DataType.ofJson?)
      let isAbstract ← isAbstract.withDefault false Json.toBool?
      pure ⟨label, kind, sup, relates, plays, has, dataType, isAbstract⟩
  | _ => none

end SchemaConcept

------------------------------------------------------------
-- Schemas
------------------------------------------------------------

namespace ConceptMap

/- Concepts are written as an object with their labels as names. -/
def toJson (m : ConceptMap) : Json :=
  .object (m.toList.map fun e => (e.1, e.2.toJson))

/- Concepts are read from an object; of equal names the last counts. -/
def ofJson? : Json → Option ConceptMap
| .object fields => do
    let entries ← fields.mapM fun f => do
      let c ← SchemaConcept.ofJson? f.2
      pure (f.1, c)
    pure (SortedMap.ofList entries)
| _ => none

end ConceptMap

namespace SchemaGraph

/- A schema is written as a record. -/
def toJson (g : SchemaGraph) : Json :=
  .object
    [("version", .ofNat g.version.toNat),
     ("concepts", ConceptMap.toJson g.concepts)]

/- A schema is read from a record, whose version is zero if left out. -/
def ofJson? (j : Json) : Option SchemaGraph := do
  match ← j.slots? ["version", "concepts"] with
  | [version, concepts] =>
      let version ← version.withDefault 0 Json.toNat?
      let concepts ← concepts.required ConceptMap.ofJson?
      pure ⟨UInt64.ofNat version, concepts⟩
  | _ => none

/- The document of a schema, on indented lines. -/
def toText (g : SchemaGraph) : String :=
  g.toJson.pretty

/- The built-in concepts, where their labels are not taken. -/
def withMetaConcepts (g : SchemaGraph) : SchemaGraph where
  version := g.version
  concepts :=
    SchemaConcept.metaConcepts.foldl
      (fun m c => m.insertIfNew c.label c)
      g.concepts

/- Why a schema cannot be loaded. -/
abbrev LoadFailure : Type :=
  LoadError DefinitionFault

/- The schema of a text, completed and checked. -/
def ofText (text : String) : Except LoadFailure SchemaGraph :=
  match (Json.parse? text).bind ofJson? with
  | none => .error .malformed
  | some g =>
      let g := g.withMetaConcepts
      match g.checkConsistency with
      | .error fault => .error (.faulty fault)
      | .ok () => .ok g

/- The schema of a document. -/
def load (source : DocumentSource) : Except LoadFailure SchemaGraph :=
  source.load ofText

end SchemaGraph

end TraversalPlanner
