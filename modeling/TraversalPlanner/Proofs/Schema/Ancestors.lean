import Mathlib.Data.List.Chain
import TraversalPlanner.Proofs.Schema.Inheritance

/-
  The walk to supertypes as a loop without a bound, which goes on
  until there is no concept, or one whose label was seen.  In any
  schema the loop ends, and its result is the list of supertypes:
  they follow each other, and no label occurs twice.  If concepts
  have the labels that they are stored under, the list has all
  that is reached, and to be a subtype is reflexive and transitive.

  Main declarations:
    * `SchemaGraph.Climbs`
    * `SchemaGraph.climbs_iff`
    * `SchemaGraph.AscendsFrom`
    * `SchemaGraph.ascendsFrom`
    * `SchemaGraph.supertypes_reach`
-/

namespace TraversalPlanner

namespace SchemaGraph

variable
  {g : SchemaGraph}

------------------------------------------------------------
-- The Loop
------------------------------------------------------------

/-
  The loop, with the labels seen so far, goes through a list of
  concepts and ends.
-/
inductive Climbs (g : SchemaGraph) :
    (seen : List String) →
    Option SchemaConcept →
    List SchemaConcept →
    Prop where
/- there is no concept -/
| top
    {seen : List String} :
    Climbs g seen none []
/- the label of the concept was seen -/
| again
    {seen : List String}
    {c : SchemaConcept} :
    c.label ∈ seen →
    Climbs g seen (some c) []
| next
    {seen : List String}
    {c : SchemaConcept}
    {cs : List SchemaConcept} :
    c.label ∉ seen →
    Climbs g (c.label :: seen) (g.parent c) cs →
    Climbs g seen (some c) (c :: cs)

/- The loop goes through one list only. -/
theorem Climbs.unique
    {seen : List String}
    {start : Option SchemaConcept}
    {cs ds : List SchemaConcept}
    (hc : g.Climbs seen start cs)
    (hd : g.Climbs seen start ds) :
    cs = ds := by
  induction hc generalizing ds with
  | top =>
      cases hd with
      | top => rfl
  | again hSeen =>
      cases hd with
      | again _ => rfl
      | next hNew _ => exact absurd hSeen hNew
  | next hNew _ ih =>
      cases hd with
      | again hSeen => exact absurd hSeen hNew
      | next _ hRest => rw [ih hRest]

/-
  The loop ends within a bound that suffices, as then every label
  was seen.
-/
theorem climbs_chain
    {bound : Nat}
    {seen : List String}
    {start : Option SchemaConcept}
    (hBound : g.Suffices bound seen)
    (hStart : ∀ c ∈ start, c.label ∈ g.labels) :
    g.Climbs seen start (g.chain bound seen start) := by
  induction bound generalizing seen start with
  | zero =>
      cases start with
      | none => exact .top
      | some c => exact .again (hBound.mem_of_zero (hStart c rfl))
  | succ bound ih =>
      cases start with
      | none => exact .top
      | some c =>
          rw [chain]
          by_cases hSeen : c.label ∈ seen
          · rw [if_pos hSeen]
            exact .again hSeen
          · rw [if_neg hSeen]
            refine .next hSeen (ih (hBound.step (hStart c rfl) hSeen) ?_)
            intro d hd
            exact mem_labels_of_extends (parent_eq_some_iff.mp hd)

/- The loop ends, and it has gone through the supertypes. -/
theorem climbs_supertypes (g : SchemaGraph) (label : String) :
    g.Climbs [] (g.resolve label) (g.supertypes label) :=
  climbs_chain (.start g) fun _ hc => mem_labels_of_resolve hc

/- The loop goes through the supertypes, and through nothing else. -/
theorem climbs_iff
    {label : String}
    {cs : List SchemaConcept} :
    g.Climbs [] (g.resolve label) cs ↔ cs = g.supertypes label := by
  constructor
  · intro h
    exact h.unique (g.climbs_supertypes label)
  · rintro rfl
    exact g.climbs_supertypes label

------------------------------------------------------------
-- What the Loop Goes Through
------------------------------------------------------------

namespace Climbs

variable
  {seen : List String}
  {start : Option SchemaConcept}
  {cs : List SchemaConcept}

/- The loop starts with the concept that it is given. -/
theorem eq_of_mem_head?
    {c : SchemaConcept}
    (h : g.Climbs seen start cs)
    (hc : c ∈ cs.head?) :
    start = some c := by
  cases h with
  | top => cases hc
  | again _ => cases hc
  | next _ _ => exact hc

/- Each concept is the direct supertype of the one before. -/
theorem isChain
    (h : g.Climbs seen start cs) :
    cs.IsChain g.Extends := by
  induction h with
  | top => exact .nil
  | again _ => exact .nil
  | next _ hRest ih =>
      refine List.isChain_cons.mpr ⟨?_, ih⟩
      intro d hd
      exact parent_eq_some_iff.mp (hRest.eq_of_mem_head? hd)

/- No label is met that was seen before. -/
theorem not_mem_seen
    (h : g.Climbs seen start cs) :
    ∀ d ∈ cs, d.label ∉ seen := by
  induction h with
  | top => exact fun _ hd => absurd hd List.not_mem_nil
  | again _ => exact fun _ hd => absurd hd List.not_mem_nil
  | next hNew _ ih =>
      intro d hd
      rcases List.mem_cons.mp hd with rfl | hd
      · exact hNew
      · exact fun hSeen => ih d hd (List.mem_cons_of_mem _ hSeen)

/- No label is met twice. -/
theorem nodup_labels
    (h : g.Climbs seen start cs) :
    (cs.map SchemaConcept.label).Nodup := by
  induction h with
  | top => exact .nil
  | again _ => exact .nil
  | @next seen c cs _ hRest ih =>
      refine List.nodup_cons.mpr ⟨?_, ih⟩
      intro hLabel
      rcases List.mem_map.mp hLabel with ⟨d, hd, hSame⟩
      apply hRest.not_mem_seen d hd
      rw [hSame]
      exact List.mem_cons_self

end Climbs

------------------------------------------------------------
-- Supertypes
------------------------------------------------------------

/- The labels of supertypes are labels of the schema. -/
theorem supertypeLabels_subset
    (g : SchemaGraph)
    (label : String) :
    g.supertypeLabels label ⊆ g.labels := by
  intro above h
  rcases List.mem_map.mp h with ⟨d, hd, rfl⟩
  rcases resolve_of_mem_supertypes hd with ⟨c, hc, hReaches⟩
  cases hReaches with
  | refl => exact mem_labels_of_resolve hc
  | tail _ hExtends => exact mem_labels_of_extends hExtends

/-
  The supertypes of a label are what the loop goes through from
  its concept.
-/
structure AscendsFrom
    (g : SchemaGraph)
    (label : String) : Prop where
  /- the loop ends, with the supertypes as its result -/
  ends : ∀ cs, g.Climbs [] (g.resolve label) cs ↔ cs = g.supertypes label
  /- it has no more rounds than the schema has concepts -/
  rounds : (g.supertypes label).length ≤ g.concepts.size
  starts : (g.supertypes label).head? = g.resolve label
  follows : (g.supertypes label).IsChain g.Extends
  once : (g.supertypeLabels label).Nodup

/- The loop ends in every schema, cyclic or not. -/
theorem ascendsFrom
    (g : SchemaGraph)
    (label : String) :
    g.AscendsFrom label where
  ends := fun _ => climbs_iff
  rounds := by
    have hOnce := (g.climbs_supertypes label).nodup_labels
    have hLength :=
      (hOnce.subperm (g.supertypeLabels_subset label)).length_le
    rw [length_labels, List.length_map] at hLength
    exact hLength
  starts := by
    cases hc : g.resolve label with
    | none =>
        unfold supertypes
        rw [hc, chain_none]
        rfl
    | some c =>
        rcases supertypes_of_resolve hc with ⟨cs, hSupertypes⟩
        rw [hSupertypes]
        rfl
  follows := (g.climbs_supertypes label).isChain
  once := (g.climbs_supertypes label).nodup_labels

/- Exactly the labels that resolve are subtypes of themselves. -/
theorem isSubtype_self_iff
    (hOwn : g.HasOwnLabels)
    {label : String} :
    g.isSubtype label label = true ↔ ∃ c, g.resolve label = some c := by
  rw [isSubtype_iff hOwn]
  constructor
  · rintro ⟨c, _, hc, _⟩
    exact ⟨c, hc⟩
  · rintro ⟨c, hc⟩
    exact ⟨c, c, hc, hc, .refl⟩

/- A subtype of a subtype is a subtype. -/
theorem isSubtype_trans
    (hOwn : g.HasOwnLabels)
    {label middle above : String}
    (h : g.isSubtype label middle = true)
    (h' : g.isSubtype middle above = true) :
    g.isSubtype label above = true := by
  have hSubset := supertypes_subset_of_isSubtype hOwn h
  exact isSubtype_iff_mem.mpr
    (List.map_subset _ hSubset (isSubtype_iff_mem.mp h'))

/-
  In every schema, the loop from a label ends with its supertypes,
  one after the other and each once, also if supertypes form a
  cycle or do not resolve.  If concepts have their own labels,
  these are exactly the concepts that are reached by direct
  supertypes, and so labels that resolve are subtypes of
  themselves, and subtypes of subtypes are subtypes.
-/
theorem supertypes_reach (g : SchemaGraph) :
    (∀ label, g.AscendsFrom label) ∧
    (g.HasOwnLabels →
      (∀ label d, d ∈ g.supertypes label ↔
        ∃ c, g.resolve label = some c ∧
          Relation.ReflTransGen g.Extends c d) ∧
      (∀ label, g.isSubtype label label = true ↔
        ∃ c, g.resolve label = some c) ∧
      ∀ label middle above,
        g.isSubtype label middle = true →
        g.isSubtype middle above = true →
        g.isSubtype label above = true) := by
  refine ⟨g.ascendsFrom, fun hOwn => ⟨?_, ?_, ?_⟩⟩
  · intro label d
    exact mem_supertypes_iff hOwn
  · intro label
    exact isSubtype_self_iff hOwn
  · intro label middle above
    exact isSubtype_trans hOwn

/- A concept on a stage whose supertype is not part of the schema. -/
def ghost : SchemaConcept :=
  { movieEntity "ghost" [] [] with sup := some "spirit" }

/- The stage, where two types form a cycle, with a ghost. -/
def hauntedStage : SchemaGraph :=
  ofConcepts (stageConcepts ++ [ghost]) (by decide)

/-
  The loop ends behind the ghost, whose supertype does not
  resolve, and where persons and performers repeat.  Both of these
  are reached from each other.
-/
theorem supertypes_reach_hauntedStage :
    hauntedStage.HasOwnLabels ∧
      hauntedStage.resolve "spirit" = none ∧
      hauntedStage.Climbs [] (some ghost) [ghost] ∧
      hauntedStage.isSubtype "ghost" "ghost" = true ∧
      hauntedStage.supertypeLabels "person" = ["person", "performer"] ∧
      (hauntedStage.supertypes "person").IsChain hauntedStage.Extends ∧
      hauntedStage.isSubtype "person" "performer" = true ∧
      hauntedStage.isSubtype "performer" "person" = true ∧
      hauntedStage.isSubtype "person" "person" = true := by
  have hOwn : hauntedStage.HasOwnLabels := hasOwnLabels_ofConcepts _ _
  have hReach := supertypes_reach hauntedStage
  have hGhost : hauntedStage.resolve "ghost" = some ghost := by
    decide +kernel
  have hUp : hauntedStage.isSubtype "person" "performer" = true := by
    decide +kernel
  have hDown : hauntedStage.isSubtype "performer" "person" = true := by
    decide +kernel
  refine ⟨hOwn, by decide +kernel, ?_, ?_, by decide +kernel,
    (hReach.1 "person").follows, hUp, hDown, ?_⟩
  · rw [← hGhost]
    exact ((hReach.1 "ghost").ends [ghost]).mpr (by decide +kernel)
  · exact ((hReach.2 hOwn).2.1 "ghost").mpr ⟨ghost, hGhost⟩
  · exact (hReach.2 hOwn).2.2 "person" "performer" "person" hUp hDown

end SchemaGraph

end TraversalPlanner
