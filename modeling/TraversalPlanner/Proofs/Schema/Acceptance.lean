import TraversalPlanner.Proofs.Pattern.CanonicalPattern
import TraversalPlanner.Schema.Validation

/-
  Which patterns a schema accepts.  Acceptance depends on the
  concepts of the schema only, and not on which words stand for
  no number.

  Main statements:
    * `Acceptance.forM_eq_ok_iff`
    * `SchemaGraph.validate_canonical_eq_ok_iff`
    * `SchemaGraph.validate_eq_of_concepts_eq`
-/

namespace TraversalPlanner

------------------------------------------------------------
-- Sequences of Checks
------------------------------------------------------------

namespace Acceptance

variable {E A B : Type}

/- A check after another one passes if both do. -/
theorem bind_eq_ok_iff
    {x : Except E A}
    {f : A → Except E B}
    {b : B} :
    (x >>= f) = .ok b ↔ ∃ a, x = .ok a ∧ f a = .ok b := by
  cases x with
  | error e =>
      constructor
      · intro h
        cases h
      · rintro ⟨a, h, _⟩
        cases h
  | ok a =>
      constructor
      · intro h
        exact ⟨a, rfl, h⟩
      · rintro ⟨a', h, hf⟩
        cases h
        exact hf

/- Two checks in a row pass if both do. -/
theorem seq_eq_ok_iff
    {x : Except E Unit}
    {y : Except E B}
    {b : B} :
    (x >>= fun _ => y) = .ok b ↔ x = .ok () ∧ y = .ok b := by
  rw [bind_eq_ok_iff]
  constructor
  · rintro ⟨_, hx, hy⟩
    exact ⟨hx, hy⟩
  · rintro ⟨hx, hy⟩
    exact ⟨(), hx, hy⟩

/- Checks of all elements of a list pass if each does. -/
theorem forM_eq_ok_iff
    {f : A → Except E Unit}
    {as : List A} :
    as.forM f = .ok () ↔ ∀ a ∈ as, f a = .ok () := by
  induction as with
  | nil =>
      constructor
      · intro _ a ha
        cases ha
      · intro _
        rfl
  | cons a as ih =>
      rw [List.forM_eq_forM, List.forM_cons, seq_eq_ok_iff]
      constructor
      · rintro ⟨ha, has⟩ b hb
        rcases List.mem_cons.mp hb with rfl | hb
        · exact ha
        · exact ih.mp has b hb
      · intro h
        exact ⟨h a List.mem_cons_self,
          ih.mpr fun b hb => h b (List.mem_cons_of_mem a hb)⟩

end Acceptance

------------------------------------------------------------
-- Patterns with Canonical Literals
------------------------------------------------------------

namespace Property

/- The canonical property has the same regular expression. -/
@[simp] theorem regex?_canonical (p : Property) :
    p.canonical.regex? = p.regex? := by
  cases p with
  | value p => exact p.regex?_canonical
  | has type resource predicate =>
      cases predicate with
      | none => rfl
      | some q => exact q.regex?_canonical
  | _ => rfl

/- The canonical property has the same label as a type. -/
@[simp] theorem isaLabel?_canonical (p : Property) :
    p.canonical.isaLabel? = p.isaLabel? := by
  cases p <;> rfl

/- The canonical property has the same role player. -/
@[simp] theorem rolePlayer?_canonical (p : Property) :
    p.canonical.rolePlayer? = p.rolePlayer? := by
  cases p <;> rfl

end Property

namespace Clause

/- The canonical clause has the same labels as types. -/
@[simp] theorem isaLabels_canonical (c : Clause) :
    c.canonical.isaLabels = c.isaLabels := by
  simp [isaLabels, canonical, List.filterMap_map]

/- The canonical clause has the same role players. -/
@[simp] theorem rolePlayers_canonical (c : Clause) :
    c.canonical.rolePlayers = c.rolePlayers := by
  simp [rolePlayers, canonical, List.filterMap_map]

/- The canonical clause has the same regular expressions. -/
@[simp] theorem checkRegexes_canonical
    [RegexGrammar]
    (c : Clause) :
    c.canonical.checkRegexes = c.checkRegexes := by
  simp [checkRegexes, canonical, List.filterMap_map]

end Clause

namespace Pattern

/- The canonical pattern gives variables the same types. -/
@[simp] theorem isaLabelsOf_canonical
    (p : Pattern)
    (x : Var) :
    p.canonical.isaLabelsOf x = p.isaLabelsOf x := by
  have hSubject : ∀ c : Clause, c.canonical.subject = c.subject :=
    fun _ => rfl
  simp [isaLabelsOf, clausesOf, canonical, List.filter_map,
    List.flatMap_map, Function.comp_def, hSubject]

/- The types of canonical patterns agree alike. -/
@[simp] theorem checkTypes_canonical
    (p : Pattern)
    (c : Clause) :
    p.canonical.checkTypes c.canonical = p.checkTypes c := by
  have hSubject : c.canonical.subject = c.subject := rfl
  simp [checkTypes, hSubject]

/- Canonical patterns pass the same checks without a schema. -/
theorem checkStructure_canonical
    [RegexGrammar]
    (p : Pattern) :
    p.canonical.checkStructure = p.checkStructure := by
  have hClauses :
      p.canonical.clauses = p.clauses.map Clause.canonical := rfl
  simp [checkStructure, hClauses, List.forM_map]

end Pattern

------------------------------------------------------------
-- Acceptance
------------------------------------------------------------

namespace SchemaGraph

/- Canonical properties pass the same checks. -/
@[simp] theorem checkProperty_canonical
    (g : SchemaGraph)
    (c : Clause)
    (p : Property) :
    g.checkProperty c p.canonical = g.checkProperty c p := by
  cases p <;> rfl

/- Whether a label is a role does not depend on the clause. -/
theorem requireRole_eq_ok_iff
    (g : SchemaGraph)
    (c d : Clause)
    (label : String) :
    g.requireRole c label = .ok () ↔ g.requireRole d label = .ok () := by
  unfold requireRole
  rw [Acceptance.bind_eq_ok_iff, Acceptance.bind_eq_ok_iff]
  apply exists_congr
  intro concept
  apply and_congr_right
  intro _
  split
  · exact Iff.rfl
  · constructor
    · intro h
      cases h
    · intro h
      cases h

/- Whether a property is accepted does not depend on the clause. -/
theorem checkProperty_eq_ok_iff
    (g : SchemaGraph)
    (c d : Clause)
    (p : Property) :
    g.checkProperty c p = .ok () ↔ g.checkProperty d p = .ok () := by
  cases p with
  | relates t =>
      cases t with
      | label label => exact g.requireRole_eq_ok_iff c d label
      | var x => exact Iff.rfl
  | plays t =>
      cases t with
      | label label => exact g.requireRole_eq_ok_iff c d label
      | var x => exact Iff.rfl
  | rolePlayer p =>
      simp only [checkProperty]
      cases p.roleLabel? with
      | none => exact Iff.rfl
      | some role => exact g.requireRole_eq_ok_iff c d role
  | isa t => cases t <;> exact Iff.rfl
  | sub t => cases t <;> exact Iff.rfl
  | _ => exact Iff.rfl

/- Relations of canonical patterns pass the same checks. -/
theorem checkRelation_canonical
    (g : SchemaGraph)
    (p : Pattern)
    (c : Clause) :
    g.checkRelation p.canonical c.canonical = g.checkRelation p c := by
  have hSubject : c.canonical.subject = c.subject := rfl
  simp [checkRelation, hSubject]

/- A schema accepts a pattern that passes all checks. -/
theorem validate_eq_ok_iff
    [RegexGrammar]
    {g : SchemaGraph}
    {p : Pattern} :
    g.validate p = .ok () ↔
      p.checkStructure = .ok () ∧
        (∀ c ∈ p.clauses, ∀ q ∈ c.properties,
          g.checkProperty c q = .ok ()) ∧
        ∀ c ∈ p.clauses, g.checkRelation p c = .ok () := by
  unfold validate
  simp only [Acceptance.seq_eq_ok_iff, Acceptance.forM_eq_ok_iff]

/- A schema accepts canonical patterns alike. -/
theorem validate_canonical_eq_ok_iff
    [RegexGrammar]
    {g : SchemaGraph}
    {p : Pattern} :
    g.validate p.canonical = .ok () ↔ g.validate p = .ok () := by
  have hClauses :
      p.canonical.clauses = p.clauses.map Clause.canonical := rfl
  have hProperties : ∀ c : Clause,
      c.canonical.properties = c.properties.map Property.canonical :=
    fun _ => rfl
  rw [validate_eq_ok_iff, validate_eq_ok_iff,
    p.checkStructure_canonical, hClauses]
  simp only [List.forall_mem_map, hProperties, checkProperty_canonical,
    checkRelation_canonical]
  apply and_congr_right
  intro _
  apply and_congr_left
  intro _
  constructor
  · intro h c hc q hq
    exact (g.checkProperty_eq_ok_iff _ _ q).mp (h c hc q hq)
  · intro h c hc q hq
    exact (g.checkProperty_eq_ok_iff _ _ q).mp (h c hc q hq)

------------------------------------------------------------
-- Schemas with the Same Concepts
------------------------------------------------------------

section SameConcepts

variable {g h : SchemaGraph}

/- Schemas with the same concepts have the same supertypes. -/
theorem chain_eq_of_concepts_eq
    (hConcepts : g.concepts = h.concepts)
    (bound : Nat) :
    ∀ (seen : List String) (c : Option SchemaConcept),
      g.chain bound seen c = h.chain bound seen c := by
  induction bound with
  | zero =>
      intro seen c
      rfl
  | succ bound ih =>
      intro seen c
      cases c with
      | none => rfl
      | some c =>
          have hParent : g.parent c = h.parent c := by
            unfold parent resolve
            rw [hConcepts]
          rw [chain, chain, hParent, ih]

/- Schemas with the same concepts relate the same roles. -/
theorem relatesRole_eq_of_concepts_eq
    (hConcepts : g.concepts = h.concepts)
    (relation role : String) :
    g.relatesRole relation role = h.relatesRole relation role := by
  have hSupertypes : ∀ label, g.supertypes label = h.supertypes label := by
    intro label
    unfold supertypes resolve
    rw [hConcepts, chain_eq_of_concepts_eq hConcepts]
  unfold relatesRole inherits supertypeLabels
  simp only [hSupertypes]

/- Schemas with the same concepts require the same of a label. -/
theorem require_eq_of_concepts_eq
    (hConcepts : g.concepts = h.concepts)
    (label : String) :
    g.require label = h.require label := by
  unfold require resolve
  rw [hConcepts]

/- Schemas with the same concepts check properties alike. -/
theorem checkProperty_eq_of_concepts_eq
    (hConcepts : g.concepts = h.concepts)
    (c : Clause)
    (p : Property) :
    g.checkProperty c p = h.checkProperty c p := by
  have hRequire := require_eq_of_concepts_eq hConcepts
  have hRole : ∀ label,
      g.requireRole c label = h.requireRole c label := by
    intro label
    unfold requireRole
    rw [hRequire]
  unfold checkProperty
  simp only [hRequire, hRole]

/- Schemas with the same concepts check relations alike. -/
theorem checkRelation_eq_of_concepts_eq
    (hConcepts : g.concepts = h.concepts)
    (p : Pattern)
    (c : Clause) :
    g.checkRelation p c = h.checkRelation p c := by
  have hRelation : g.requireRelation = h.requireRelation := by
    funext label
    unfold requireRelation
    rw [require_eq_of_concepts_eq hConcepts]
  have hPlayer : g.checkRolePlayer = h.checkRolePlayer := by
    funext relations player
    unfold checkRolePlayer
    simp only [relatesRole_eq_of_concepts_eq hConcepts]
  unfold checkRelation
  rw [hRelation, hPlayer]

/- Schemas with the same concepts accept the same patterns. -/
theorem validate_eq_of_concepts_eq
    [RegexGrammar]
    (hConcepts : g.concepts = h.concepts)
    (p : Pattern) :
    g.validate p = h.validate p := by
  have hProperty : g.checkProperty = h.checkProperty := by
    funext c q
    exact checkProperty_eq_of_concepts_eq hConcepts c q
  have hRelation : g.checkRelation = h.checkRelation := by
    funext q c
    exact checkRelation_eq_of_concepts_eq hConcepts q c
  unfold validate
  rw [hProperty, hRelation]

end SameConcepts

end SchemaGraph

end TraversalPlanner
