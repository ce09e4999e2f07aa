import TraversalPlanner.Proofs.Schema.Inheritance
import TraversalPlanner.Proofs.Schema.LabelPlaces
import TraversalPlanner.Schema.Consistency

/-
  Which schemas are accepted as consistent: those whose references
  resolve to concepts of the right kinds, and where no concept is
  above itself.  In an accepted schema, supertypes end, and stay
  of one kind below the root.

  Main declarations:
    * `SchemaGraph.IsConsistent`
    * `SchemaGraph.Fits`
    * `SchemaGraph.Ascent`
    * `SchemaGraph.ReachesTops`
    * `SchemaGraph.checkConsistency_ok_iff_isConsistent`
-/

namespace TraversalPlanner

/- The labels of other concepts that a concept mentions. -/
def SchemaConcept.references (c : SchemaConcept) : List String :=
  c.sup.toList ++ c.relates ++ c.plays ++ c.has

namespace SchemaGraph

variable
  {g : SchemaGraph}

------------------------------------------------------------
-- Consistent Schemas
------------------------------------------------------------

/- The concepts of a schema fit each other. -/
structure IsConsistent (g : SchemaGraph) : Prop where
  /- every reference is the label of a concept -/
  resolves :
    ∀ c ∈ g.concepts.values, ∀ label ∈ c.references,
      ∃ d, g.resolve label = some d
  /- a supertype is of the same kind, or the root -/
  supertypes :
    ∀ c ∈ g.concepts.values, ∀ d, g.Extends c d →
      d.kind = c.kind ∨ d.kind = .root
  roles :
    ∀ c ∈ g.concepts.values, ∀ role ∈ c.relates ++ c.plays,
      g.HasKind .roleType role
  resources :
    ∀ c ∈ g.concepts.values, ∀ type ∈ c.has,
      g.HasKind .resourceType type
  /- no concept is a proper supertype of itself -/
  acyclic :
    ∀ c ∈ g.concepts.values, ¬ Relation.TransGen g.Extends c c

------------------------------------------------------------
-- Single References
------------------------------------------------------------

/- The check of a supertype passes if it resolves and its kind fits. -/
theorem checkSup_eq_ok_iff
    {c : SchemaConcept} :
    g.checkSup c = .ok () ↔
      (∀ label ∈ c.sup, ∃ d, g.resolve label = some d) ∧
        ∀ d, g.Extends c d → d.kind = c.kind ∨ d.kind = .root := by
  unfold checkSup Extends
  cases c.sup with
  | none => simp
  | some label =>
      cases hResolve : g.resolve label with
      | none => simp [hResolve]
      | some d =>
          by_cases hKind : d.kind = c.kind ∨ d.kind = .root
          · simp [hResolve, hKind, ← not_or]
          · have hBoth := not_or.mp hKind
            simp [hResolve, hBoth.1, hBoth.2]

/- The check of a reference passes if it is of the kind. -/
theorem checkReference_eq_ok_iff
    {owner reference : String}
    {kind : ConceptKind} :
    g.checkReference owner kind reference = .ok () ↔
      g.HasKind kind reference := by
  unfold checkReference HasKind
  cases g.resolve reference with
  | none => simp
  | some c => by_cases hKind : c.kind = kind <;> simp [hKind]

------------------------------------------------------------
-- Cycles
------------------------------------------------------------

/- A walk that starts on a cycle repeats a label. -/
theorem repeats_of_transGen
    {c : SchemaConcept}
    (h : Relation.TransGen g.Extends c c)
    (bound : Nat)
    (seen : List String) :
    g.repeats bound seen (some c) = true := by
  induction bound generalizing c seen with
  | zero => rfl
  | succ bound ih =>
      rcases Relation.TransGen.head'_iff.mp h with ⟨d, hStep, hBack⟩
      have hRest := ih (Relation.TransGen.tail' hBack hStep)
        (c.label :: seen)
      rw [repeats, parent_eq_some_iff.mpr hStep, hRest, Bool.or_true]

/-
  A walk has seen labels of concepts below the one that it is at.
  If it has seen the label of that one, it has met a cycle.
-/
theorem exists_cycle_of_mem_seen
    {seen : List String}
    {c : SchemaConcept}
    (hc : g.resolve c.label = some c)
    (hSeen :
      ∀ label ∈ seen, ∃ d, g.resolve label = some d ∧
        Relation.TransGen g.Extends d c)
    (h : c.label ∈ seen) :
    ∃ d ∈ g.concepts.values, Relation.TransGen g.Extends d d := by
  rcases hSeen c.label h with ⟨d, hd, hBelow⟩
  rw [hc] at hd
  cases hd
  exact ⟨c, mem_values_of_resolve hc, hBelow⟩

/- A walk that repeats a label, or exceeds its bound, meets a cycle. -/
theorem exists_cycle_of_repeats
    (hOwn : g.HasOwnLabels)
    {bound : Nat}
    {seen : List String}
    {c : SchemaConcept}
    (hBound : g.Suffices bound seen)
    (hc : g.resolve c.label = some c)
    (hSeen :
      ∀ label ∈ seen, ∃ d, g.resolve label = some d ∧
        Relation.TransGen g.Extends d c)
    (h : g.repeats bound seen (some c) = true) :
    ∃ d ∈ g.concepts.values, Relation.TransGen g.Extends d d := by
  induction bound generalizing seen c with
  | zero =>
      have hMem := hBound.mem_of_zero (mem_labels_of_resolve hc)
      exact exists_cycle_of_mem_seen hc hSeen hMem
  | succ bound ih =>
      by_cases hMem : c.label ∈ seen
      · exact exists_cycle_of_mem_seen hc hSeen hMem
      rw [repeats, decide_eq_false hMem, Bool.false_or] at h
      cases hParent : g.parent c with
      | none =>
          rw [hParent] at h
          cases bound <;> cases h
      | some p =>
          rw [hParent] at h
          have hStep := parent_eq_some_iff.mp hParent
          refine ih (hBound.step (mem_labels_of_resolve hc) hMem)
            (hOwn.resolve_of_extends hStep) ?_ h
          intro label hLabel
          rcases List.mem_cons.mp hLabel with rfl | hLabel
          · exact ⟨c, hc, .single hStep⟩
          · rcases hSeen label hLabel with ⟨d, hd, hBelow⟩
            exact ⟨d, hd, hBelow.tail hStep⟩

/- The check for cycles passes if a walk repeats no label. -/
theorem checkCycle_eq_ok_iff
    {c : SchemaConcept} :
    g.checkCycle c = .ok () ↔
      g.repeats g.concepts.size [] (some c) = false := by
  unfold checkCycle
  cases g.repeats g.concepts.size [] (some c) <;> simp

/- The checks for cycles pass if no concept is above itself. -/
theorem forall_checkCycle_eq_ok_iff
    (hOwn : g.HasOwnLabels) :
    (∀ c ∈ g.concepts.values, g.checkCycle c = .ok ()) ↔
      ∀ c ∈ g.concepts.values,
        ¬ Relation.TransGen g.Extends c c := by
  simp only [checkCycle_eq_ok_iff]
  constructor
  · intro h c hc hCycle
    have hRepeats := repeats_of_transGen hCycle g.concepts.size []
    rw [h c hc] at hRepeats
    cases hRepeats
  · intro h c hc
    rw [Bool.eq_false_iff]
    intro hRepeats
    rcases exists_cycle_of_repeats hOwn (.start g) (hOwn.resolve_of_mem hc)
      (by simp) hRepeats with ⟨d, hd, hCycle⟩
    exact h d hd hCycle

------------------------------------------------------------
-- Accepted Schemas
------------------------------------------------------------

/- What is checked of one concept. -/
structure Fits
    (g : SchemaGraph)
    (c : SchemaConcept) : Prop where
  sup : ∀ label ∈ c.sup, ∃ d, g.resolve label = some d
  supKind : ∀ d, g.Extends c d → d.kind = c.kind ∨ d.kind = .root
  roles : ∀ role ∈ c.relates ++ c.plays, g.HasKind .roleType role
  resources : ∀ type ∈ c.has, g.HasKind .resourceType type
  cycle : g.checkCycle c = .ok ()

/- A concept passes all checks. -/
theorem checkConcept_eq_ok_iff
    {c : SchemaConcept} :
    g.checkConcept c = .ok () ↔ g.Fits c := by
  unfold checkConcept
  simp only [Acceptance.seq_eq_ok_iff, Acceptance.forM_eq_ok_iff,
    checkReference_eq_ok_iff, checkSup_eq_ok_iff]
  constructor
  · rintro ⟨⟨hSup, hKind⟩, hRoles, hResources, hCycle⟩
    exact ⟨hSup, hKind, hRoles, hResources, hCycle⟩
  · intro h
    exact ⟨⟨h.sup, h.supKind⟩, h.roles, h.resources, h.cycle⟩

/- A schema is accepted if all its concepts pass all checks. -/
theorem checkConsistency_eq_ok_iff_fits :
    g.checkConsistency = .ok () ↔ ∀ c ∈ g.concepts.values, g.Fits c := by
  unfold checkConsistency
  simp only [Acceptance.forM_eq_ok_iff, checkConcept_eq_ok_iff]

/- All references of a concept that passes the checks resolve. -/
theorem Fits.resolves
    {c : SchemaConcept}
    (h : g.Fits c) :
    ∀ label ∈ c.references, ∃ d, g.resolve label = some d := by
  intro label hLabel
  simp only [SchemaConcept.references, List.append_assoc,
    List.mem_append, Option.mem_toList] at hLabel
  rcases hLabel with hSup | hRelates | hPlays | hHas
  · exact h.sup label hSup
  · exact (h.roles label (List.mem_append_left _ hRelates)).exists_concept
  · exact (h.roles label (List.mem_append_right _ hPlays)).exists_concept
  · exact (h.resources label hHas).exists_concept

/- Exactly the consistent schemas are accepted. -/
theorem checkConsistency_eq_ok_iff
    (hOwn : g.HasOwnLabels) :
    g.checkConsistency = .ok () ↔ g.IsConsistent := by
  have hAcyclic := forall_checkCycle_eq_ok_iff hOwn
  rw [checkConsistency_eq_ok_iff_fits]
  constructor
  · intro h
    exact
      { resolves := fun c hc => (h c hc).resolves
        supertypes := fun c hc => (h c hc).supKind
        roles := fun c hc => (h c hc).roles
        resources := fun c hc => (h c hc).resources
        acyclic := hAcyclic.mp fun c hc => (h c hc).cycle }
  · intro h c hc
    exact
      { sup := by
          intro label hLabel
          apply h.resolves c hc
          simp [SchemaConcept.references, Option.mem_def.mp hLabel]
        supKind := h.supertypes c hc
        roles := h.roles c hc
        resources := h.resources c hc
        cycle := hAcyclic.mpr h.acyclic c hc }

/- In a consistent schema, no two labels are each below the other. -/
theorem IsConsistent.isSubtype_antisymm
    (h : g.IsConsistent)
    (hOwn : g.HasOwnLabels)
    {label other : String}
    (hUp : g.isSubtype label other = true)
    (hDown : g.isSubtype other label = true) :
    label = other := by
  rcases (isSubtype_iff hOwn).mp hUp with ⟨c, d, hc, hd, hAbove⟩
  rcases (isSubtype_iff hOwn).mp hDown with ⟨d', c', hd', hc', hBelow⟩
  rw [hd] at hd'
  rw [hc] at hc'
  cases hd'
  cases hc'
  rcases Relation.reflTransGen_iff_eq_or_transGen.mp hAbove
    with hSame | hProper
  · rw [← hOwn.label_eq hc, ← hOwn.label_eq hd, hSame]
  · exact absurd (hProper.trans_left hBelow)
      (h.acyclic c (mem_values_of_resolve hc))

------------------------------------------------------------
-- Ascents
------------------------------------------------------------

/-
  A list leads from a concept, by direct supertypes, to one that
  has none.
-/
inductive Ascent (g : SchemaGraph) :
    SchemaConcept → List SchemaConcept → Prop where
| top
    {c : SchemaConcept} :
    g.parent c = none →
    Ascent g c [c]
| step
    {c d : SchemaConcept}
    {ds : List SchemaConcept} :
    g.Extends c d →
    Ascent g d ds →
    Ascent g c (c :: ds)

/- A walk that repeats no label leads to a top. -/
theorem ascent_of_not_repeats
    {bound : Nat}
    {seen : List String}
    {c : SchemaConcept}
    (h : g.repeats bound seen (some c) = false) :
    g.Ascent c (g.chain bound seen (some c)) := by
  induction bound generalizing seen c with
  | zero => cases h
  | succ bound ih =>
      rw [repeats, Bool.or_eq_false_iff] at h
      rw [chain, if_neg (of_decide_eq_false h.1)]
      cases hParent : g.parent c with
      | none =>
          rw [chain_none]
          exact .top hParent
      | some d =>
          rw [hParent] at h
          exact .step (parent_eq_some_iff.mp hParent) (ih h.2)

/- An ascent ends at a concept of the schema without parent. -/
theorem Ascent.exists_last
    {c : SchemaConcept}
    {cs : List SchemaConcept}
    (h : g.Ascent c cs)
    (hc : c ∈ g.concepts.values) :
    ∃ top ∈ g.concepts.values,
      cs.getLast? = some top ∧ g.parent top = none := by
  induction h with
  | top hParent => exact ⟨_, hc, rfl, hParent⟩
  | step hStep _ ih =>
      rcases ih (mem_values_of_extends hStep)
        with ⟨top, hTop, hLast, hNone⟩
      exact ⟨top, hTop, by simp [List.getLast?_cons, hLast], hNone⟩

/-
  If supertypes have the kind of their subtypes, or are the root,
  an ascent keeps to the kind that it starts with up to the root.
-/
theorem Ascent.exists_kinds
    {c : SchemaConcept}
    {cs : List SchemaConcept}
    (h : g.Ascent c cs)
    (hc : c ∈ g.concepts.values)
    (hKinds :
      ∀ d ∈ g.concepts.values, ∀ e, g.Extends d e →
        e.kind = d.kind ∨ e.kind = .root) :
    ∃ below above, cs = below ++ above ∧
      (∀ d ∈ below, d.kind = c.kind) ∧
      ∀ d ∈ above, d.kind = .root := by
  induction h with
  | @top c _ => exact ⟨[c], [], rfl, by simp, by simp⟩
  | @step c d ds hStep _ ih =>
      rcases ih (mem_values_of_extends hStep)
        with ⟨below, above, rfl, hBelow, hAbove⟩
      rcases hKinds c hc d hStep with hSame | hRoot
      · rw [hSame] at hBelow
        exact ⟨c :: below, above, rfl,
          List.forall_mem_cons.mpr ⟨rfl, hBelow⟩, hAbove⟩
      · rw [hRoot] at hBelow
        exact ⟨[c], below ++ above, rfl, by simp,
          List.forall_mem_append.mpr ⟨hBelow, hAbove⟩⟩

------------------------------------------------------------
-- Tops
------------------------------------------------------------

/-
  The supertypes of a concept end at one that has none.  All of
  them have the kind of the concept, but for the last ones, which
  have that of the root.
-/
structure ReachesTops (g : SchemaGraph) : Prop where
  ends :
    ∀ label c, g.resolve label = some c →
      ∃ top, (g.supertypes label).getLast? = some top ∧
        top.sup = none
  kinds :
    ∀ label c, g.resolve label = some c →
      ∃ below above, g.supertypes label = below ++ above ∧
        (∀ d ∈ below, d.kind = c.kind) ∧
        ∀ d ∈ above, d.kind = .root

namespace Fits

/- The supertypes of a concept that passes the checks are an ascent. -/
theorem ascent
    {label : String}
    {c : SchemaConcept}
    (h : g.Fits c)
    (hc : g.resolve label = some c) :
    g.Ascent c (g.supertypes label) := by
  unfold supertypes
  rw [hc]
  exact ascent_of_not_repeats (checkCycle_eq_ok_iff.mp h.cycle)

/- A concept that passes the checks has a parent or no supertype. -/
theorem sup_eq_none
    {c : SchemaConcept}
    (h : g.Fits c)
    (hParent : g.parent c = none) :
    c.sup = none := by
  cases hSup : c.sup with
  | none => rfl
  | some label =>
      rcases h.sup label hSup with ⟨d, hd⟩
      rw [parent_eq_some_iff.mpr ⟨label, hSup, hd⟩] at hParent
      cases hParent

end Fits

/- The supertypes of an accepted schema end. -/
theorem reachesTops_of_forall_fits
    (h : ∀ c ∈ g.concepts.values, g.Fits c) :
    g.ReachesTops where
  ends := by
    intro label c hc
    have hMem := mem_values_of_resolve hc
    rcases ((h c hMem).ascent hc).exists_last hMem
      with ⟨top, hTop, hLast, hParent⟩
    exact ⟨top, hLast, (h top hTop).sup_eq_none hParent⟩
  kinds := by
    intro label c hc
    have hMem := mem_values_of_resolve hc
    exact ((h c hMem).ascent hc).exists_kinds hMem
      fun d hd => (h d hd).supKind

/-
  Exactly the consistent schemas are accepted, where every concept
  has its own label.  In an accepted schema all supertypes end,
  and no two labels are each below the other.  The latter is about
  own labels, too: two concepts that are stored under each other's
  labels are each below the other.
-/
theorem checkConsistency_ok_iff_isConsistent (g : SchemaGraph) :
    (g.HasOwnLabels →
      (g.checkConsistency = .ok () ↔ g.IsConsistent)) ∧
    (g.checkConsistency = .ok () →
      g.ReachesTops ∧
        (g.HasOwnLabels →
          ∀ label other,
            g.isSubtype label other = true →
            g.isSubtype other label = true →
            label = other)) := by
  refine ⟨checkConsistency_eq_ok_iff, ?_⟩
  intro h
  refine ⟨reachesTops_of_forall_fits
    (checkConsistency_eq_ok_iff_fits.mp h), ?_⟩
  intro hOwn label other
  exact ((checkConsistency_eq_ok_iff hOwn).mp h).isSubtype_antisymm hOwn

/-
  The example schema is accepted.  The supertypes of a movie end,
  and no production is a movie, since movies are productions.  The
  stage, where persons and performers are each above the other, is
  refused.
-/
theorem checkConsistency_ok_iff_isConsistent_movies :
    movies.HasOwnLabels ∧
      movies.checkConsistency = .ok () ∧
      movies.IsConsistent ∧
      (∃ top, (movies.supertypes "movie").getLast? = some top ∧
        top.sup = none) ∧
      ¬ movies.isSubtype "production" "movie" = true ∧
      stage.HasOwnLabels ∧
      ¬ stage.IsConsistent := by
  have hMovies : movies.HasOwnLabels := hasOwnLabels_ofConcepts _ _
  have hStage : stage.HasOwnLabels := hasOwnLabels_ofConcepts _ _
  have hAccepted : movies.checkConsistency = .ok () := by decide +kernel
  have hRefused : stage.checkConsistency ≠ .ok () := by decide +kernel
  have hIff := checkConsistency_ok_iff_isConsistent movies
  refine ⟨hMovies, hAccepted, (hIff.1 hMovies).mp hAccepted, ?_, ?_, hStage,
    ?_⟩
  · exact (hIff.2 hAccepted).1.ends "movie"
      { SchemaConcept.ofKind "movie" .entityType with
        sup := some "production" } (by decide +kernel)
  · intro h
    have hSame := (hIff.2 hAccepted).2 hMovies "movie" "production"
      (by decide +kernel) h
    exact absurd hSame (by decide)
  · intro h
    exact hRefused
      (((checkConsistency_ok_iff_isConsistent stage).1 hStage).mpr h)

end SchemaGraph

end TraversalPlanner
