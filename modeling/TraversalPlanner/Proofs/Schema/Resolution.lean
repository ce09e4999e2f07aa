import TraversalPlanner.Schema.Document

/-
  What a label resolves to: the last concept defined with it, and
  a built-in concept where a loaded schema has none.

  Main declarations:
    * `SchemaConcept.named?`
    * `SchemaGraph.resolve_of_defineAll`
    * `SchemaGraph.resolve_initial`
    * `SchemaGraph.resolve_withMetaConcepts`
-/

namespace TraversalPlanner

------------------------------------------------------------
-- Concepts with a Label
------------------------------------------------------------

namespace SchemaConcept

/- The first concept with a label. -/
def named?
    (label : String)
    (cs : List SchemaConcept) : Option SchemaConcept :=
  cs.find? fun c => c.label = label

/- A concept that is found is listed and has the label. -/
theorem of_named?_eq_some
    {label : String}
    {cs : List SchemaConcept}
    {c : SchemaConcept}
    (h : named? label cs = some c) :
    c ∈ cs ∧ c.label = label := by
  have hLabel := List.find?_some h
  exact ⟨List.mem_of_find?_eq_some h, of_decide_eq_true hLabel⟩

/- A concept is found if one of the label is listed. -/
theorem isSome_named?_iff
    {label : String}
    {cs : List SchemaConcept} :
    (named? label cs).isSome = true ↔ ∃ c ∈ cs, c.label = label := by
  simp [named?, List.find?_isSome]

end SchemaConcept

------------------------------------------------------------
-- Insertions in Order
------------------------------------------------------------

namespace ConceptMap

/- Of the concepts inserted with a label, the last one is kept. -/
theorem get?_foldl_insert
    (cs : List SchemaConcept)
    (m : ConceptMap)
    (label : String) :
    (cs.foldl (fun m c => m.insert c.label c) m).get? label =
      (SchemaConcept.named? label cs.reverse).or (m.get? label) := by
  induction cs generalizing m with
  | nil => rfl
  | cons c cs ih =>
      have hOne : SchemaConcept.named? label [c] =
          if c.label = label then some c else none := by
        by_cases hc : c.label = label <;>
          simp [SchemaConcept.named?, hc]
      have hSplit : SchemaConcept.named? label (cs.reverse ++ [c]) =
          (SchemaConcept.named? label cs.reverse).or
            (SchemaConcept.named? label [c]) :=
        List.find?_append
      rw [List.foldl_cons, ih, SortedMap.get?_insert, List.reverse_cons,
        hSplit, hOne, Option.or_assoc]
      by_cases hc : c.label = label <;> simp [hc]

/- A concept that is inserted where there is none replaces none. -/
theorem get?_insertIfNew
    (m : ConceptMap)
    (c : SchemaConcept)
    (label : String) :
    (m.insertIfNew c.label c).get? label =
      (m.get? label).or (if c.label = label then some c else none) := by
  unfold SortedMap.insertIfNew SortedMap.contains
  by_cases hc : c.label = label
  · subst hc
    cases hOld : m.get? c.label with
    | none => simp [SortedMap.get?_insert]
    | some d => simp [hOld]
  · rw [if_neg hc, Option.or_none]
    split
    · rfl
    · rw [SortedMap.get?_insert, if_neg hc]

/- Concepts that are inserted where there are none replace none. -/
theorem get?_foldl_insertIfNew
    (cs : List SchemaConcept)
    (m : ConceptMap)
    (label : String) :
    (cs.foldl (fun m c => m.insertIfNew c.label c) m).get? label =
      (m.get? label).or (SchemaConcept.named? label cs) := by
  induction cs generalizing m with
  | nil => simp [SchemaConcept.named?]
  | cons c cs ih =>
      rw [List.foldl_cons, ih, get?_insertIfNew, Option.or_assoc]
      by_cases hc : c.label = label <;>
        simp [SchemaConcept.named?, hc]

end ConceptMap

------------------------------------------------------------
-- Schemas
------------------------------------------------------------

namespace SchemaGraph

/- Definitions insert concepts in order. -/
theorem concepts_of_defineAll
    {cs : List SchemaConcept} :
    ∀ {g g' : SchemaGraph},
      g.defineAll cs = some g' →
        g'.concepts =
          cs.foldl (fun m c => m.insert c.label c) g.concepts := by
  induction cs with
  | nil =>
      rintro g _ ⟨⟩
      rfl
  | cons c cs ih =>
      intro g g' h
      rcases defineAll_cons_eq_some_iff.mp h with ⟨next, hNext, hRest⟩
      rcases define_eq_some_iff.mp hNext with ⟨_, rfl⟩
      exact ih hRest

/- A label resolves to the concept that was last defined with it. -/
theorem resolve_of_defineAll
    {g g' : SchemaGraph}
    {cs : List SchemaConcept}
    (h : g.defineAll cs = some g')
    (label : String) :
    g'.resolve label =
      (SchemaConcept.named? label cs.reverse).or (g.resolve label) := by
  unfold resolve
  rw [concepts_of_defineAll h, ConceptMap.get?_foldl_insert]

/- At first only the built-in concepts resolve. -/
theorem resolve_initial (label : String) :
    initial.resolve label =
      SchemaConcept.named? label SchemaConcept.metaConcepts.reverse := by
  unfold resolve initial SortedMap.ofList
  rw [List.foldl_map, ConceptMap.get?_foldl_insert]
  exact Option.or_none

/- A completed schema resolves what it resolved before. -/
theorem resolve_withMetaConcepts
    (g : SchemaGraph)
    (label : String) :
    g.withMetaConcepts.resolve label =
      (g.resolve label).or
        (SchemaConcept.named? label SchemaConcept.metaConcepts) :=
  ConceptMap.get?_foldl_insertIfNew _ _ _

end SchemaGraph

end TraversalPlanner
