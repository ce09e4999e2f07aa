import TraversalPlanner.Schema.Concept

/-
  This file defines schemas, and what they say about subtypes and
  inherited capabilities.

  Key definitions include:
    * `SchemaGraph`
    * `SchemaGraph.initial`
    * `SchemaGraph.define`
    * `SchemaGraph.defineAll`
    * `SchemaGraph.ofConcepts`
    * `SchemaGraph.resolve`
    * `SchemaGraph.supertypes`
    * `SchemaGraph.isSubtype`
    * `SchemaGraph.relatesRole`
    * `SchemaGraph.canHave`
    * `SchemaGraph.canPlay`
    * `SchemaView`

  Key theorems include:
    * `SchemaGraph.toNat_version_of_defineAll`
    * `SchemaGraph.exists_defineAll_iff`
-/

namespace TraversalPlanner

------------------------------------------------------------
-- Schemas
------------------------------------------------------------

/-
  A schema: concepts by label, and a version that every
  definition raises.
-/
structure SchemaGraph where
  version : UInt64
  concepts : ConceptMap
deriving DecidableEq

namespace SchemaGraph

/- The schema with the built-in concepts only. -/
def initial : SchemaGraph where
  version := 0
  concepts :=
    SortedMap.ofList (SchemaConcept.metaConcepts.map fun c => (c.label, c))

------------------------------------------------------------
-- Definitions
------------------------------------------------------------

/-
  Add a concept, or replace the one with its label, and raise the
  version.  A schema that has the last version takes no concept.
-/
def define
    (g : SchemaGraph)
    (c : SchemaConcept) : Option SchemaGraph :=
  if g.version.toNat + 1 < UInt64.size then
    some
      { version := g.version + 1
        concepts := g.concepts.insert c.label c }
  else
    none

/- Add concepts in order, if the schema takes all of them. -/
def defineAll
    (g : SchemaGraph)
    (cs : List SchemaConcept) : Option SchemaGraph :=
  cs.foldlM define g

/- A definition takes a version, if one is left. -/
theorem define_eq_some_iff
    {g g' : SchemaGraph}
    {c : SchemaConcept} :
    g.define c = some g' ↔
      g.version.toNat + 1 < UInt64.size ∧
        ⟨g.version + 1, g.concepts.insert c.label c⟩ = g' := by
  unfold define
  split
  · rename_i hRoom
    simp [hRoom]
  · rename_i hLast
    simp [hLast]

/- Definitions are made one after the other. -/
theorem defineAll_cons_eq_some_iff
    {g g' : SchemaGraph}
    {c : SchemaConcept}
    {cs : List SchemaConcept} :
    g.defineAll (c :: cs) = some g' ↔
      ∃ next, g.define c = some next ∧ next.defineAll cs = some g' :=
  Option.bind_eq_some_iff

/- A definition raises the version by one. -/
theorem toNat_version_of_define
    {g g' : SchemaGraph}
    {c : SchemaConcept}
    (h : g.define c = some g') :
    g'.version.toNat = g.version.toNat + 1 := by
  rcases define_eq_some_iff.mp h with ⟨hRoom, rfl⟩
  exact (UInt64.toNat_add g.version 1).trans (Nat.mod_eq_of_lt hRoom)

/- Definitions raise the version by their number. -/
theorem toNat_version_of_defineAll
    {cs : List SchemaConcept} :
    ∀ {g g' : SchemaGraph},
      g.defineAll cs = some g' →
        g'.version.toNat = g.version.toNat + cs.length := by
  induction cs with
  | nil =>
      rintro g _ ⟨⟩
      rfl
  | cons c cs ih =>
      intro g g' h
      rcases defineAll_cons_eq_some_iff.mp h with ⟨next, hNext, hRest⟩
      rw [ih hRest, toNat_version_of_define hNext, List.length_cons,
        Nat.add_assoc, Nat.add_comm 1]

/- Concepts can be added exactly if there are versions for all. -/
theorem exists_defineAll_iff
    {cs : List SchemaConcept} :
    ∀ {g : SchemaGraph},
      (∃ g', g.defineAll cs = some g') ↔
        g.version.toNat + cs.length < UInt64.size := by
  induction cs with
  | nil =>
      intro g
      exact ⟨fun _ => g.version.toNat_lt_size, fun _ => ⟨g, rfl⟩⟩
  | cons c cs ih =>
      intro g
      simp only [defineAll_cons_eq_some_iff, List.length_cons]
      constructor
      · rintro ⟨g', next, hNext, hRest⟩
        have hRoom := ih.mp ⟨g', hRest⟩
        rw [toNat_version_of_define hNext] at hRoom
        omega
      · intro hRoom
        have hNext : g.define c = some _ :=
          define_eq_some_iff.mpr ⟨by omega, rfl⟩
        have hVersion := toNat_version_of_define hNext
        rcases ih.mpr (by rw [hVersion]; omega) with ⟨g', hRest⟩
        exact ⟨g', _, hNext, hRest⟩

/- On top of the built-in concepts the versions start from zero. -/
theorem isSome_defineAll_initial
    {cs : List SchemaConcept}
    (h : cs.length < UInt64.size) :
    (initial.defineAll cs).isSome = true := by
  rw [Option.isSome_iff_exists, exists_defineAll_iff]
  simpa [initial] using h

/- The schema with some concepts on top of the built-in ones. -/
def ofConcepts
    (cs : List SchemaConcept)
    (h : cs.length < UInt64.size) : SchemaGraph :=
  (initial.defineAll cs).get (isSome_defineAll_initial h)

/- It is what defining these concepts leads to. -/
theorem defineAll_initial
    (cs : List SchemaConcept)
    (h : cs.length < UInt64.size) :
    initial.defineAll cs = some (ofConcepts cs h) :=
  (Option.some_get _).symm

------------------------------------------------------------
-- Labels
------------------------------------------------------------

/- The concept with a label. -/
def resolve
    (g : SchemaGraph)
    (label : String) : Option SchemaConcept :=
  g.concepts.get? label

/- The labels of all concepts, in order. -/
def labels (g : SchemaGraph) : List String :=
  g.concepts.values.map SchemaConcept.label

/- A resolved concept is a concept of the schema. -/
theorem mem_values_of_resolve
    {g : SchemaGraph}
    {label : String}
    {c : SchemaConcept}
    (h : g.resolve label = some c) :
    c ∈ g.concepts.values := by
  have hMem := SortedMap.mem_of_get? h
  exact List.mem_map.mpr ⟨(label, c), hMem, rfl⟩

------------------------------------------------------------
-- Supertypes
------------------------------------------------------------

/- The resolved direct supertype of a concept. -/
def parent
    (g : SchemaGraph)
    (c : SchemaConcept) : Option SchemaConcept :=
  c.sup.bind g.resolve

/-
  A concept and its supertypes, nearest first, up to the first
  one whose label was seen.  `bound` limits their number.
-/
def chain
    (g : SchemaGraph) :
    (bound : Nat) →
    (seen : List String) →
    Option SchemaConcept →
    List SchemaConcept
| 0, _, _ => []
| _ + 1, _, none => []
| bound + 1, seen, some c =>
    if c.label ∈ seen then
      []
    else
      c :: chain g bound (c.label :: seen) (g.parent c)

/-
  The concept with a label and all its supertypes, nearest first.
  No concept occurs twice, so there are no more than the schema
  has.
-/
def supertypes
    (g : SchemaGraph)
    (label : String) : List SchemaConcept :=
  g.chain g.concepts.size [] (g.resolve label)

/- The labels of a concept and its supertypes. -/
def supertypeLabels
    (g : SchemaGraph)
    (label : String) : List String :=
  (g.supertypes label).map SchemaConcept.label

/- The first label is the second one or one of its subtypes. -/
def isSubtype
    (g : SchemaGraph)
    (label ancestor : String) : Bool :=
  decide (ancestor ∈ g.supertypeLabels label)

------------------------------------------------------------
-- Capabilities
------------------------------------------------------------

/-
  A type or one of its supertypes lists a label, or one of the
  label's supertypes, as a capability.
-/
def inherits
    (g : SchemaGraph)
    (capability : SchemaConcept → List String)
    (type label : String) : Bool :=
  let admitted := g.supertypeLabels label
  (g.supertypes type).any fun c =>
    (capability c).any fun l => decide (l ∈ admitted)

/-
  A relation type relates a role.  The built-in type of all
  relations relates every role.
-/
def relatesRole
    (g : SchemaGraph)
    (relation role : String) : Bool :=
  decide (relation = SchemaConcept.relationLabel) ||
    g.inherits SchemaConcept.relates relation role

/- Instances of a type may own resources of a type. -/
def canHave
    (g : SchemaGraph)
    (owner resourceType : String) : Bool :=
  g.inherits SchemaConcept.has owner resourceType

/- Instances of a type may play a role. -/
def canPlay
    (g : SchemaGraph)
    (type role : String) : Bool :=
  g.inherits SchemaConcept.plays type role

end SchemaGraph

------------------------------------------------------------
-- Views
------------------------------------------------------------

/-
  How a planner sees a schema: with its version, or without one,
  in which case the version is always zero.
-/
structure SchemaView where
  graph : SchemaGraph
  versioned : Bool
deriving DecidableEq

namespace SchemaView

/- The version of a schema as a planner sees it. -/
def version (v : SchemaView) : UInt64 :=
  if v.versioned then v.graph.version else 0

/-
  What tells schemas of different content apart: the concepts
  themselves.
-/
def fingerprint (v : SchemaView) : ConceptMap :=
  v.graph.concepts

end SchemaView

end TraversalPlanner
