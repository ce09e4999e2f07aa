import TraversalPlanner.Proofs.Schema.Supertypes
import TraversalPlanner.Schema.Movies

/-
  What subtypes may do because their supertypes may.  A subtype
  has all supertypes of the type that it is below, so it has all
  capabilities that they list, and whatever lists one of them
  lists something above the subtype, too.

  Main declarations:
    * `SchemaGraph.inherits_iff`
    * `SchemaGraph.inherits_of_subset`
    * `SchemaGraph.PassesDown`
    * `SchemaGraph.passesDown_of_hasOwnLabels`
-/

namespace TraversalPlanner

namespace SchemaGraph

variable
  {g : SchemaGraph}

------------------------------------------------------------
-- Inherited Capabilities
------------------------------------------------------------

/-
  A type inherits a capability from a supertype that lists the
  label or one above it.
-/
theorem inherits_iff
    {capability : SchemaConcept → List String}
    {type label : String} :
    g.inherits capability type label = true ↔
      ∃ c ∈ g.supertypes type, ∃ l ∈ capability c,
        l ∈ g.supertypeLabels label := by
  simp only [inherits, List.any_eq_true, decide_eq_true_eq]

/- With more supertypes on either side, no capability is lost. -/
theorem inherits_of_subset
    {capability : SchemaConcept → List String}
    {type type' label label' : String}
    (hType : g.supertypes type ⊆ g.supertypes type')
    (hLabel : g.supertypes label ⊆ g.supertypes label')
    (h : g.inherits capability type label = true) :
    g.inherits capability type' label' = true := by
  rcases inherits_iff.mp h with ⟨c, hc, l, hl, hAdmitted⟩
  exact inherits_iff.mpr
    ⟨c, hType hc, l, hl, List.map_subset _ hLabel hAdmitted⟩

/- All relations relate the roles below those that they relate. -/
theorem relatesRole_of_subset
    {relation role role' : String}
    (hRole : g.supertypes role ⊆ g.supertypes role')
    (h : g.relatesRole relation role = true) :
    g.relatesRole relation role' = true := by
  rcases Bool.or_eq_true_iff.mp h with hAll | hInherits
  · exact Bool.or_eq_true_iff.mpr (Or.inl hAll)
  · exact Bool.or_eq_true_iff.mpr
      (Or.inr (inherits_of_subset (List.Subset.refl _) hRole hInherits))

/-
  What a relation relates because it lists it, and not because it
  is the type of all relations, is related below it, too.
-/
theorem relatesRole_of_subset_relation
    {relation relation' role : String}
    (hRelation : g.supertypes relation ⊆ g.supertypes relation')
    (hNe : relation ≠ SchemaConcept.relationLabel)
    (h : g.relatesRole relation role = true) :
    g.relatesRole relation' role = true := by
  rcases Bool.or_eq_true_iff.mp h with hAll | hInherits
  · exact absurd (of_decide_eq_true hAll) hNe
  · exact Bool.or_eq_true_iff.mpr
      (Or.inr (inherits_of_subset hRelation (List.Subset.refl _) hInherits))

------------------------------------------------------------
-- Subtypes
------------------------------------------------------------

/-
  What a type may own or play, its subtypes may, and they may own
  or play any subtype of it.  Roles below those that a relation
  relates are related as well, and so they are by its subtypes.
-/
structure PassesDown (g : SchemaGraph) : Prop where
  canHave :
    ∀ owner owner' type type',
      g.isSubtype owner' owner = true →
      g.isSubtype type' type = true →
      g.canHave owner type = true →
      g.canHave owner' type' = true
  canPlay :
    ∀ type type' role role',
      g.isSubtype type' type = true →
      g.isSubtype role' role = true →
      g.canPlay type role = true →
      g.canPlay type' role' = true
  relatesSubrole :
    ∀ relation role role',
      g.isSubtype role' role = true →
      g.relatesRole relation role = true →
      g.relatesRole relation role' = true
  /- the type of all relations does not list the roles it relates -/
  subrelationRelates :
    ∀ relation relation' role,
      g.isSubtype relation' relation = true →
      relation ≠ SchemaConcept.relationLabel →
      g.relatesRole relation role = true →
      g.relatesRole relation' role = true

/- Subtypes inherit all capabilities, whether or not types form cycles. -/
theorem passesDown_of_hasOwnLabels
    (hOwn : g.HasOwnLabels) :
    g.PassesDown where
  canHave := by
    intro owner owner' type type' hOwner hType
    exact inherits_of_subset (supertypes_subset_of_isSubtype hOwn hOwner)
      (supertypes_subset_of_isSubtype hOwn hType)
  canPlay := by
    intro type type' role role' hType hRole
    exact inherits_of_subset (supertypes_subset_of_isSubtype hOwn hType)
      (supertypes_subset_of_isSubtype hOwn hRole)
  relatesSubrole := by
    intro relation role role' hRole
    exact relatesRole_of_subset (supertypes_subset_of_isSubtype hOwn hRole)
  subrelationRelates := by
    intro relation relation' role hRelation
    exact relatesRole_of_subset_relation
      (supertypes_subset_of_isSubtype hOwn hRelation)

/- Concepts on a stage, where two types are each above the other. -/
def stageConcepts : List SchemaConcept :=
  [movieRole "actor",
   { movieRole "understudy" with sup := some "actor" },
   movieResource "name" .string,
   { movieResource "stage-name" .string with sup := some "name" },
   movieRelation "has-cast" ["actor"],
   { movieRelation "has-touring-cast" [] with sup := some "has-cast" },
   { movieEntity "person" ["actor"] ["name"] with sup := some "performer" },
   { movieEntity "performer" [] [] with sup := some "person" }]

/- The schema of these concepts. -/
def stage : SchemaGraph :=
  ofConcepts stageConcepts (by decide)

/-
  On the stage, performers have names and parts because persons
  do, and a touring cast has understudies because every cast has
  actors.  It does not relate all that the type of all relations,
  which is above it, does.
-/
theorem passesDown_of_hasOwnLabels_stage :
    stage.HasOwnLabels ∧
      stage.isSubtype "person" "performer" = true ∧
      stage.isSubtype "performer" "person" = true ∧
      stage.canHave "performer" "stage-name" = true ∧
      stage.canPlay "performer" "understudy" = true ∧
      stage.relatesRole "has-cast" "understudy" = true ∧
      stage.relatesRole "has-touring-cast" "understudy" = true ∧
      stage.isSubtype "has-touring-cast" SchemaConcept.relationLabel =
        true ∧
      stage.relatesRole SchemaConcept.relationLabel "name" = true ∧
      stage.relatesRole "has-touring-cast" "name" = false := by
  have hOwn : stage.HasOwnLabels := hasOwnLabels_ofConcepts _ _
  have hPasses : stage.PassesDown := passesDown_of_hasOwnLabels hOwn
  have hPerson : stage.isSubtype "performer" "person" = true := by
    decide +kernel
  have hRole : stage.isSubtype "understudy" "actor" = true := by
    decide +kernel
  have hCast : stage.relatesRole "has-cast" "understudy" = true :=
    hPasses.relatesSubrole _ "actor" _ hRole (by decide +kernel)
  refine ⟨hOwn, by decide +kernel, hPerson, ?_, ?_, hCast, ?_,
    by decide +kernel, by decide +kernel, by decide +kernel⟩
  · exact hPasses.canHave "person" _ "name" _ hPerson (by decide +kernel)
      (by decide +kernel)
  · exact hPasses.canPlay "person" _ "actor" _ hPerson hRole
      (by decide +kernel)
  · exact hPasses.subrelationRelates "has-cast" _ _ (by decide +kernel)
      (by decide) hCast

end SchemaGraph

end TraversalPlanner
