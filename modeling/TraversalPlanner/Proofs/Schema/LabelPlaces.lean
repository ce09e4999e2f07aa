import TraversalPlanner.Proofs.Schema.Acceptance

/-
  Which labels and regular expressions a property contains, and
  when its labels fit their places: a role is a role type, an
  owned resource has a resource type, and nothing is an instance
  of a role.

  Main declarations:
    * `Property.UsesRegex`, `Property.UsesRole`, `Property.UsesLabel`
    * `SchemaGraph.HasKind`
    * `SchemaGraph.FitsLabels`
    * `SchemaGraph.checkProperty_eq_ok_iff_fitsLabels`
-/

namespace TraversalPlanner

------------------------------------------------------------
-- Texts in Properties
------------------------------------------------------------

namespace Property

/- A property contains a regular expression. -/
inductive UsesRegex : Property → String → Prop where
| regex
    (r : String) :
    UsesRegex (.regex r) r
| value
    (r : String) :
    UsesRegex (.value (.regex r)) r
| has
    (type : String)
    (resource : Option Var)
    (r : String) :
    UsesRegex (.has type resource (some (.regex r))) r

/- A property names a role by its label. -/
inductive UsesRole : Property → String → Prop where
| relates
    (label : String) :
    UsesRole (.relates (.label label)) label
| plays
    (label : String) :
    UsesRole (.plays (.label label)) label
| rolePlayer
    (label : String)
    (player : Var) :
    UsesRole (.rolePlayer ⟨some (.label label), player⟩) label

/- A property names a concept by its label. -/
inductive UsesLabel : Property → String → Prop where
| isa
    (label : String) :
    UsesLabel (.isa (.label label)) label
| sub
    (label : String) :
    UsesLabel (.sub (.label label)) label
| label
    (label : String) :
    UsesLabel (.label label) label
| has
    (type : String)
    (resource : Option Var)
    (predicate : Option ValuePredicate) :
    UsesLabel (.has type resource predicate) type
| role
    {p : Property}
    {label : String} :
    p.UsesRole label →
    UsesLabel p label

/- A property names one role at most. -/
theorem UsesRole.unique
    {p : Property}
    {l m : String}
    (hl : p.UsesRole l)
    (hm : p.UsesRole m) :
    l = m := by
  cases hl <;> cases hm <;> rfl

/- A property names one concept at most. -/
theorem UsesLabel.unique
    {p : Property}
    {l m : String}
    (hl : p.UsesLabel l)
    (hm : p.UsesLabel m) :
    l = m := by
  cases hl with
  | role hRole =>
      cases hm with
      | role hRole' => exact hRole.unique hRole'
      | _ => cases hRole
  | _ =>
      cases hm with
      | role hRole => cases hRole
      | _ => rfl

/- The regular expressions of a property. -/
theorem regex?_eq_some_iff
    {p : Property}
    {r : String} :
    p.regex? = some r ↔ p.UsesRegex r := by
  constructor
  · intro h
    cases p with
    | regex s =>
        cases h
        exact .regex r
    | value q =>
        cases q with
        | regex s =>
            cases h
            exact .value r
        | _ => cases h
    | has type resource predicate =>
        cases predicate with
        | none => cases h
        | some q =>
            cases q with
            | regex s =>
                cases h
                exact .has type resource r
            | _ => cases h
    | _ => cases h
  · intro h
    cases h <;> rfl

/- The `isa` label of a property. -/
theorem isaLabel?_eq_some_iff
    {p : Property}
    {label : String} :
    p.isaLabel? = some label ↔ p = .isa (.label label) := by
  constructor
  · intro h
    cases p with
    | isa t =>
        cases t with
        | label l =>
            cases h
            rfl
        | var x => cases h
    | _ => cases h
  · rintro rfl
    rfl

/- The role player of a property. -/
theorem rolePlayer?_eq_some_iff
    {p : Property}
    {r : RolePlayer} :
    p.rolePlayer? = some r ↔ p = .rolePlayer r := by
  constructor
  · intro h
    cases p with
    | rolePlayer s =>
        cases h
        rfl
    | _ => cases h
  · rintro rfl
    rfl

end Property

/- The label of the role of a role player. -/
theorem RolePlayer.roleLabel?_eq_some_iff
    {r : RolePlayer}
    {label : String} :
    r.roleLabel? = some label ↔ r.role = some (.label label) := by
  unfold roleLabel?
  rw [Option.bind_eq_some_iff]
  constructor
  · rintro ⟨t, hRole, hLabel⟩
    cases t with
    | label l =>
        cases hLabel
        exact hRole
    | var x => cases hLabel
  · intro h
    exact ⟨_, h, rfl⟩

------------------------------------------------------------
-- Labels in Their Places
------------------------------------------------------------

namespace SchemaGraph

/- A label is that of a concept with a kind. -/
def HasKind
    (g : SchemaGraph)
    (kind : ConceptKind)
    (label : String) : Prop :=
  ∃ c, g.resolve label = some c ∧ c.kind = kind

/- A required label is that of a concept. -/
theorem require_eq_ok_iff
    {g : SchemaGraph}
    {label : String}
    {c : SchemaConcept} :
    g.require label = .ok c ↔ g.resolve label = some c := by
  unfold require
  cases g.resolve label <;> simp

/-
  A check that requires a label and then a kind passes if the
  label is that of a concept with the kind.
-/
theorem requireKind_eq_ok_iff
    {g : SchemaGraph}
    {label : String}
    {kind : ConceptKind}
    {fault : SchemaConcept → ValidationError} :
    (g.require label >>= fun c =>
        if c.kind = kind then .ok () else .error (fault c)) =
          .ok () ↔
      g.HasKind kind label := by
  unfold HasKind
  rw [Acceptance.bind_eq_ok_iff]
  apply exists_congr
  intro c
  rw [require_eq_ok_iff]
  apply and_congr_right
  intro _
  by_cases h : c.kind = kind <;> simp [h]

/- A required role is a role type. -/
theorem requireRole_eq_ok_iff_hasKind
    {g : SchemaGraph}
    {clause : Clause}
    {label : String} :
    g.requireRole clause label = .ok () ↔ g.HasKind .roleType label := by
  unfold requireRole SchemaConcept.isRole
  simp only [decide_eq_true_eq]
  exact requireKind_eq_ok_iff

/- A required relation is a relation type. -/
theorem requireRelation_eq_ok_iff
    {g : SchemaGraph}
    {label : String} :
    g.requireRelation label = .ok () ↔
      g.HasKind .relationType label := by
  unfold requireRelation SchemaConcept.isRelation
  simp only [decide_eq_true_eq]
  exact requireKind_eq_ok_iff

/- The labels of a property fit their places. -/
structure FitsLabels
    (g : SchemaGraph)
    (q : Property) : Prop where
  labels : ∀ l, q.UsesLabel l → ∃ concept, g.resolve l = some concept
  instances : ∀ l, q = .isa (.label l) → ¬ g.HasKind .roleType l
  roles : ∀ l, q.UsesRole l → g.HasKind .roleType l
  resources :
    ∀ type resource predicate, q = .has type resource predicate →
      g.HasKind .resourceType type

/- A label of a kind is that of a concept. -/
theorem HasKind.exists_concept
    {g : SchemaGraph}
    {kind : ConceptKind}
    {label : String}
    (h : g.HasKind kind label) :
    ∃ concept, g.resolve label = some concept := by
  rcases h with ⟨c, hc, _⟩
  exact ⟨c, hc⟩

/- A property without labels fits. -/
theorem fitsLabels_of_forall_not_usesLabel
    {g : SchemaGraph}
    {q : Property}
    (h : ∀ l, ¬ q.UsesLabel l) :
    g.FitsLabels q where
  labels := fun l hl => absurd hl (h l)
  instances := by
    rintro l rfl
    exact absurd (.isa l) (h l)
  roles := fun l hl => absurd (.role hl) (h l)
  resources := by
    rintro type resource predicate rfl
    exact absurd (.has type resource predicate) (h type)

/- A property fits if its only label does. -/
theorem fitsLabels_iff_of_usesLabel
    {g : SchemaGraph}
    {q : Property}
    {label : String}
    (hUses : q.UsesLabel label) :
    g.FitsLabels q ↔
      (∃ concept, g.resolve label = some concept) ∧
        (q = .isa (.label label) → ¬ g.HasKind .roleType label) ∧
        (q.UsesRole label → g.HasKind .roleType label) ∧
        ∀ resource predicate, q = .has label resource predicate →
          g.HasKind .resourceType label := by
  constructor
  · intro h
    exact ⟨h.labels label hUses, h.instances label, h.roles label,
      h.resources label⟩
  · rintro ⟨hLabel, hInstance, hRole, hResource⟩
    constructor
    · intro l hl
      rw [hl.unique hUses]
      exact hLabel
    · rintro l rfl
      cases hUses with
      | isa => exact hInstance rfl
      | role h => cases h
    · intro l hl
      have hLabel := (Property.UsesLabel.role hl).unique hUses
      subst hLabel
      exact hRole hl
    · rintro type resource predicate rfl
      cases hUses with
      | has => exact hResource resource predicate rfl
      | role h => cases h

/- A property that names a role fits if that is a role type. -/
theorem fitsLabels_iff_of_usesRole
    {g : SchemaGraph}
    {q : Property}
    {label : String}
    (hRole : q.UsesRole label) :
    g.FitsLabels q ↔ g.HasKind .roleType label := by
  constructor
  · intro h
    exact h.roles label hRole
  · intro h
    refine (fitsLabels_iff_of_usesLabel (.role hRole)).mpr
      ⟨h.exists_concept, ?_, fun _ => h, ?_⟩
    · rintro rfl
      cases hRole
    · rintro resource predicate rfl
      cases hRole

/- A type of a variable fits if it is no role type. -/
theorem fitsLabels_isa_iff
    {g : SchemaGraph}
    {label : String} :
    g.FitsLabels (.isa (.label label)) ↔
      ∃ concept, g.resolve label = some concept ∧
        concept.kind ≠ .roleType := by
  constructor
  · intro h
    rcases h.labels label (.isa label) with ⟨concept, hConcept⟩
    exact ⟨concept, hConcept, fun hKind =>
      h.instances label rfl ⟨concept, hConcept, hKind⟩⟩
  · rintro ⟨concept, hConcept, hKind⟩
    refine (fitsLabels_iff_of_usesLabel (.isa label)).mpr
      ⟨⟨concept, hConcept⟩, ?_, ?_, ?_⟩
    · rintro _ ⟨other, hOther, hRole⟩
      rw [hConcept] at hOther
      cases hOther
      exact hKind hRole
    · intro hRole
      cases hRole
    · intro resource predicate hHas
      cases hHas

/- A supertype fits if it is a concept. -/
theorem fitsLabels_sub_iff
    {g : SchemaGraph}
    {label : String} :
    g.FitsLabels (.sub (.label label)) ↔
      ∃ concept, g.resolve label = some concept := by
  rw [fitsLabels_iff_of_usesLabel (.sub label)]
  refine and_iff_left ⟨?_, ?_, ?_⟩
  · intro h
    cases h
  · intro h
    cases h
  · intro _ _ h
    cases h

/- A label fits if it is that of a concept. -/
theorem fitsLabels_label_iff
    {g : SchemaGraph}
    {label : String} :
    g.FitsLabels (.label label) ↔
      ∃ concept, g.resolve label = some concept := by
  rw [fitsLabels_iff_of_usesLabel (.label label)]
  refine and_iff_left ⟨?_, ?_, ?_⟩
  · intro h
    cases h
  · intro h
    cases h
  · intro _ _ h
    cases h

/- The type of an owned resource fits if it is a resource type. -/
theorem fitsLabels_has_iff
    {g : SchemaGraph}
    {type : String}
    {resource : Option Var}
    {predicate : Option ValuePredicate} :
    g.FitsLabels (.has type resource predicate) ↔
      g.HasKind .resourceType type := by
  constructor
  · intro h
    exact h.resources type resource predicate rfl
  · intro h
    refine (fitsLabels_iff_of_usesLabel (.has type resource predicate)).mpr
      ⟨h.exists_concept, ?_, ?_, fun _ _ _ => h⟩
    · intro hIsa
      cases hIsa
    · intro hRole
      cases hRole

/- A check that only requires a label passes if it is a concept's. -/
theorem requireOnly_eq_ok_iff
    {g : SchemaGraph}
    {label : String} :
    (g.require label >>= fun _ => Except.ok ()) = .ok () ↔
      ∃ concept, g.resolve label = some concept := by
  rw [Acceptance.bind_eq_ok_iff]
  apply exists_congr
  intro c
  rw [require_eq_ok_iff]
  exact and_iff_left rfl

/- The checks of a property pass if its labels fit their places. -/
theorem checkProperty_eq_ok_iff_fitsLabels
    {g : SchemaGraph}
    {c : Clause}
    {q : Property} :
    g.checkProperty c q = .ok () ↔ g.FitsLabels q := by
  -- properties without labels pass and fit
  have hNone : (∀ l, ¬ q.UsesLabel l) → g.checkProperty c q = .ok () →
      (g.checkProperty c q = .ok () ↔ g.FitsLabels q) := by
    intro hLabels hCheck
    exact ⟨fun _ => fitsLabels_of_forall_not_usesLabel hLabels,
      fun _ => hCheck⟩
  cases q with
  | isa t =>
      cases t with
      | label label =>
          rw [fitsLabels_isa_iff, checkProperty, Acceptance.bind_eq_ok_iff]
          apply exists_congr
          intro concept
          rw [require_eq_ok_iff]
          apply and_congr_right
          intro _
          unfold SchemaConcept.isRole
          by_cases h : concept.kind = .roleType <;> simp [h]
      | var x => exact hNone (by rintro _ ⟨⟩; contradiction) rfl
  | sub t =>
      cases t with
      | label label => exact requireOnly_eq_ok_iff.trans fitsLabels_sub_iff.symm
      | var x => exact hNone (by rintro _ ⟨⟩; contradiction) rfl
  | label label => exact requireOnly_eq_ok_iff.trans fitsLabels_label_iff.symm
  | relates t =>
      cases t with
      | label label =>
          rw [fitsLabels_iff_of_usesRole (.relates label)]
          exact requireRole_eq_ok_iff_hasKind
      | var x => exact hNone (by rintro _ ⟨⟩; contradiction) rfl
  | plays t =>
      cases t with
      | label label =>
          rw [fitsLabels_iff_of_usesRole (.plays label)]
          exact requireRole_eq_ok_iff_hasKind
      | var x => exact hNone (by rintro _ ⟨⟩; contradiction) rfl
  | rolePlayer p =>
      cases p with
      | mk role player =>
          cases role with
          | none => exact hNone (by rintro _ ⟨⟩; contradiction) rfl
          | some t =>
              cases t with
              | label label =>
                  rw [fitsLabels_iff_of_usesRole (.rolePlayer label player)]
                  exact requireRole_eq_ok_iff_hasKind
              | var x => exact hNone (by rintro _ ⟨⟩; contradiction) rfl
  | has type resource predicate =>
      rw [fitsLabels_has_iff]
      unfold checkProperty SchemaConcept.isResource
      simp only [decide_eq_true_eq]
      exact requireKind_eq_ok_iff
  | _ => exact hNone (by rintro _ ⟨⟩; contradiction) rfl

end SchemaGraph

end TraversalPlanner
