import TraversalPlanner.Proofs.Schema.DocumentReading

/-
  Concepts that a schema resolves from another label than their
  own.  Definitions never make one; a document may hold some, and
  loading keeps them until a definition replaces them.

  Main declarations:
    * `SchemaGraph.Misplaces`
    * `SchemaGraph.misplaces_iff_of_defineAll`
    * `SchemaGraph.misplaces_withMetaConcepts_iff`
    * `SchemaGraph.isSubtype_self`
    * `SchemaGraph.misplaces_defineAll_loaded_iff`
-/

namespace TraversalPlanner

namespace SchemaGraph

------------------------------------------------------------
-- Misplaced Concepts
------------------------------------------------------------

/- A label resolves to a concept that has another label. -/
def Misplaces
    (g : SchemaGraph)
    (label : String) : Prop :=
  ∃ c, g.resolve label = some c ∧ c.label ≠ label

/-
  A schema that resolves labels by a list, and by another schema
  where the list has none, misplaces what the other one does.
-/
theorem misplaces_iff_of_resolve_eq
    {g h : SchemaGraph}
    {cs : List SchemaConcept}
    {label : String}
    (hResolve : g.resolve label =
      (SchemaConcept.named? label cs).or (h.resolve label)) :
    g.Misplaces label ↔ h.Misplaces label ∧ ∀ c ∈ cs, c.label ≠ label := by
  unfold Misplaces
  rw [hResolve]
  cases hNamed : SchemaConcept.named? label cs with
  | some d =>
      have hd := SchemaConcept.of_named?_eq_some hNamed
      constructor
      · rintro ⟨c, hc, hOther⟩
        cases hc
        exact absurd hd.2 hOther
      · rintro ⟨_, hNone⟩
        exact absurd hd.2 (hNone d hd.1)
  | none =>
      have hNone : ∀ c ∈ cs, c.label ≠ label := by
        intro c hc hLabel
        have hSome := SchemaConcept.isSome_named?_iff.mpr ⟨c, hc, hLabel⟩
        rw [hNamed] at hSome
        cases hSome
      rw [Option.none_or]
      exact ⟨fun h => ⟨h, hNone⟩, fun h => h.1⟩

/- A definition replaces what its label resolved to before. -/
theorem misplaces_iff_of_defineAll
    {g g' : SchemaGraph}
    {cs : List SchemaConcept}
    (h : g.defineAll cs = some g')
    {label : String} :
    g'.Misplaces label ↔
      g.Misplaces label ∧ ∀ c ∈ cs, c.label ≠ label := by
  rw [misplaces_iff_of_resolve_eq (resolve_of_defineAll h label)]
  simp only [List.mem_reverse]

/- The built-in concepts have their labels. -/
theorem not_misplaces_initial (label : String) :
    ¬ initial.Misplaces label := by
  rintro ⟨c, hc, hOther⟩
  rw [resolve_initial] at hc
  exact hOther (SchemaConcept.of_named?_eq_some hc).2

/- Completion replaces nothing, and adds concepts with their labels. -/
theorem misplaces_withMetaConcepts_iff
    (g : SchemaGraph)
    (label : String) :
    g.withMetaConcepts.Misplaces label ↔ g.Misplaces label := by
  unfold Misplaces
  rw [resolve_withMetaConcepts]
  cases hOld : g.resolve label with
  | some c => rw [Option.some_or]
  | none =>
      rw [Option.none_or]
      constructor
      · rintro ⟨c, hc, hOther⟩
        exact absurd (SchemaConcept.of_named?_eq_some hc).2 hOther
      · rintro ⟨c, hc, _⟩
        cases hc

------------------------------------------------------------
-- Subtypes
------------------------------------------------------------

/- A concept comes first among its supertypes. -/
theorem supertypes_of_resolve
    {g : SchemaGraph}
    {label : String}
    {c : SchemaConcept}
    (h : g.resolve label = some c) :
    ∃ cs, g.supertypes label = c :: cs := by
  have hMem := SortedMap.mem_of_get? h
  have hSize : 0 < g.concepts.size := List.length_pos_of_mem hMem
  cases hBound : g.concepts.size with
  | zero => omega
  | succ bound =>
      refine ⟨g.chain bound [c.label] (g.parent c), ?_⟩
      unfold supertypes
      rw [hBound, h]
      simp [chain]

/- A label that is not misplaced is a subtype of itself. -/
theorem isSubtype_self
    {g : SchemaGraph}
    {label : String}
    {c : SchemaConcept}
    (h : g.resolve label = some c)
    (hLabel : c.label = label) :
    g.isSubtype label label = true := by
  rcases supertypes_of_resolve h with ⟨cs, hSupertypes⟩
  unfold isSubtype supertypeLabels
  rw [hSupertypes]
  simp [hLabel]

------------------------------------------------------------
-- Loaded Schemas
------------------------------------------------------------

/- What is not misplaced has its label and is a subtype of itself. -/
theorem label_eq_of_not_misplaces
    {g : SchemaGraph}
    {label : String}
    {c : SchemaConcept}
    (h : g.resolve label = some c)
    (hPlaced : ¬ g.Misplaces label) :
    c.label = label ∧ g.isSubtype label label = true := by
  have hLabel : c.label = label :=
    Decidable.byContradiction fun hOther => hPlaced ⟨c, h, hOther⟩
  exact ⟨hLabel, isSubtype_self h hLabel⟩

/-
  Definitions on top of the built-in concepts keep every concept
  under its own label, and each label is a subtype of itself.  On
  top of a loaded schema, a label is misplaced if its document
  misplaces it and no definition has it, and a label that is not
  misplaced is a subtype of itself.
-/
theorem misplaces_defineAll_loaded_iff (cs : List SchemaConcept) :
    (∀ g : SchemaGraph,
      initial.defineAll cs = some g →
        ∀ (label : String) (c : SchemaConcept),
          g.resolve label = some c →
            c.label = label ∧ g.isSubtype label label = true) ∧
    (∀ (text : String) (start : SchemaGraph),
      load (.text text) = .ok start →
        ∃ doc, (Json.parse? text).bind ofJson? = some doc ∧
          ∀ g : SchemaGraph,
            start.defineAll cs = some g →
              (∀ label, g.Misplaces label ↔
                doc.Misplaces label ∧ ∀ c ∈ cs, c.label ≠ label) ∧
              (∀ (label : String) (c : SchemaConcept),
                g.resolve label = some c →
                ¬ g.Misplaces label →
                  c.label = label ∧ g.isSubtype label label = true)) := by
  constructor
  · intro g hAll label c hc
    refine label_eq_of_not_misplaces hc fun hMisplaced => ?_
    have hInitial := (misplaces_iff_of_defineAll hAll).mp hMisplaced
    exact not_misplaces_initial label hInitial.1
  · intro text start hLoad
    rcases load_text_eq_ok_iff.mp hLoad with ⟨doc, hRead, rfl, _⟩
    refine ⟨doc, hRead, fun g hAll => ⟨fun label => ?_, fun label c => ?_⟩⟩
    · rw [misplaces_iff_of_defineAll hAll, misplaces_withMetaConcepts_iff]
    · exact label_eq_of_not_misplaces

/- A document with a concept under another label than its own. -/
def renamingDocument : String :=
  "\x7b\"concepts\":\x7b\"a\":" ++
    "\x7b\"label\":\"b\",\"kind\":\"entity_type\"\x7d\x7d\x7d"

/- What that document says. -/
def renamingSchema : SchemaGraph where
  version := 0
  concepts :=
    SortedMap.ofList [("a", SchemaConcept.plain "b" .entityType none)]

/- A type that has the label in question. -/
def renamedConcept : SchemaConcept :=
  SchemaConcept.ofKind "a" .entityType

/- The schema that is loaded, after this type is defined. -/
def renamedSchema : SchemaGraph where
  version := 1
  concepts :=
    renamingSchema.withMetaConcepts.concepts.insert "a" renamedConcept

/- That document is read. -/
theorem ofJson?_renamingDocument :
    (Json.parse? renamingDocument).bind ofJson? = some renamingSchema := by
  decide +kernel

/- That document is loaded. -/
theorem load_renamingDocument :
    load (.text renamingDocument) = .ok renamingSchema.withMetaConcepts :=
  load_text_eq_ok_iff.mpr
    ⟨renamingSchema, ofJson?_renamingDocument, rfl, by decide +kernel⟩

/- That document misplaces a label. -/
theorem misplaces_renamingSchema : renamingSchema.Misplaces "a" :=
  ⟨SchemaConcept.plain "b" .entityType none, rfl, by decide⟩

/-
  The label stays misplaced in the loaded schema until a concept
  is defined with it, which is then a subtype of itself.
-/
theorem misplaces_renamingDocument :
    load (.text renamingDocument) = .ok renamingSchema.withMetaConcepts ∧
    renamingSchema.withMetaConcepts.Misplaces "a" ∧
    renamingSchema.withMetaConcepts.define renamedConcept =
      some renamedSchema ∧
    ¬ renamedSchema.Misplaces "a" ∧
    renamedSchema.isSubtype "a" "a" = true := by
  have hDefine : renamingSchema.withMetaConcepts.define renamedConcept =
      some renamedSchema := rfl
  have hBefore := (misplaces_defineAll_loaded_iff []).2 _ _
    load_renamingDocument
  have hAfter := (misplaces_defineAll_loaded_iff [renamedConcept]).2 _ _
    load_renamingDocument
  rcases hBefore with ⟨doc, hRead, hStart⟩
  rw [ofJson?_renamingDocument] at hRead
  cases hRead
  rcases hAfter with ⟨_, _, hNext⟩
  rcases hNext renamedSchema
    (defineAll_cons_eq_some_iff.mpr ⟨_, hDefine, rfl⟩) with ⟨hIff, hSelf⟩
  have hPlaced : ¬ renamedSchema.Misplaces "a" := by
    intro hMisplaced
    exact ((hIff "a").mp hMisplaced).2 _ List.mem_cons_self rfl
  have hResolve : renamedSchema.resolve "a" = some renamedConcept := by
    unfold resolve renamedSchema
    rw [SortedMap.get?_insert]
    rfl
  exact ⟨load_renamingDocument,
    ((hStart _ rfl).1 "a").mpr ⟨misplaces_renamingSchema, nofun⟩, hDefine,
    hPlaced, (hSelf "a" _ hResolve hPlaced).2⟩

/-
  A consistent document makes a label resolve to a concept with
  another label, and the label is then no subtype of itself.
-/
theorem exists_misplaced_label :
    ∃ (g : SchemaGraph) (c : SchemaConcept),
      load (.text renamingDocument) = .ok g ∧
      g.resolve "a" = some c ∧ c.label ≠ "a" ∧
      g.isSubtype "a" "a" = false :=
  ⟨renamingSchema.withMetaConcepts, SchemaConcept.plain "b" .entityType none,
    load_renamingDocument, by decide +kernel, by decide, by decide +kernel⟩

end SchemaGraph

end TraversalPlanner
