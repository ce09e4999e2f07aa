import Mathlib.Data.List.Perm.Subperm
import Mathlib.Logic.Relation
import TraversalPlanner.Proofs.Schema.OwnLabels

/-
  Which concepts the walk from a concept to its supertypes meets.
  The walk stops at the first label that repeats.  If concepts
  have the labels that they are stored under, it has met all
  supertypes by then, also where they form a cycle.

  Main declarations:
    * `SchemaGraph.Extends`
    * `SchemaGraph.HasOwnLabels`
    * `SchemaGraph.Suffices`
    * `SchemaGraph.mem_supertypes_iff`
    * `SchemaGraph.isSubtype_iff`
-/

namespace TraversalPlanner

namespace SchemaGraph

------------------------------------------------------------
-- Direct Supertypes
------------------------------------------------------------

/- The second concept is the direct supertype of the first one. -/
def Extends
    (g : SchemaGraph)
    (c d : SchemaConcept) : Prop :=
  ∃ label, c.sup = some label ∧ g.resolve label = some d

/- The parent of a concept is its direct supertype. -/
theorem parent_eq_some_iff
    {g : SchemaGraph}
    {c d : SchemaConcept} :
    g.parent c = some d ↔ g.Extends c d :=
  Option.bind_eq_some_iff

/- Every concept has the label that it is stored under. -/
def HasOwnLabels (g : SchemaGraph) : Prop :=
  ∀ label, ¬ g.Misplaces label

/- Definitions on top of the built-in concepts keep their labels. -/
theorem hasOwnLabels_of_defineAll
    {g : SchemaGraph}
    {cs : List SchemaConcept}
    (h : initial.defineAll cs = some g) :
    g.HasOwnLabels := by
  intro label hMisplaced
  exact not_misplaces_initial label
    ((misplaces_iff_of_defineAll h).mp hMisplaced).1

/- Concepts besides the built-in ones have their labels. -/
theorem hasOwnLabels_ofConcepts
    (cs : List SchemaConcept)
    (h : cs.length < UInt64.size) :
    (ofConcepts cs h).HasOwnLabels :=
  hasOwnLabels_of_defineAll (defineAll_initial cs h)

/- A resolved concept has the label that it resolves from. -/
theorem HasOwnLabels.label_eq
    {g : SchemaGraph}
    (h : g.HasOwnLabels)
    {label : String}
    {c : SchemaConcept}
    (hc : g.resolve label = some c) :
    c.label = label :=
  Decidable.byContradiction fun hOther => h label ⟨c, hc, hOther⟩

/- A resolved concept resolves from its own label. -/
theorem HasOwnLabels.resolve_label
    {g : SchemaGraph}
    (h : g.HasOwnLabels)
    {label : String}
    {c : SchemaConcept}
    (hc : g.resolve label = some c) :
    g.resolve c.label = some c := by
  rw [h.label_eq hc]
  exact hc

/- Every concept of the schema resolves from its own label. -/
theorem HasOwnLabels.resolve_of_mem
    {g : SchemaGraph}
    (h : g.HasOwnLabels)
    {c : SchemaConcept}
    (hc : c ∈ g.concepts.values) :
    g.resolve c.label = some c := by
  rcases List.mem_map.mp hc with ⟨⟨label, _⟩, hMem, rfl⟩
  exact h.resolve_label (SortedMap.get?_of_mem hMem)

/- A direct supertype resolves from its own label. -/
theorem HasOwnLabels.resolve_of_extends
    {g : SchemaGraph}
    (h : g.HasOwnLabels)
    {c d : SchemaConcept}
    (hExtends : g.Extends c d) :
    g.resolve d.label = some d := by
  rcases hExtends with ⟨label, _, hd⟩
  exact h.resolve_label hd

/- The supertypes of a resolved concept resolve from their labels. -/
theorem HasOwnLabels.resolve_of_reaches
    {g : SchemaGraph}
    (h : g.HasOwnLabels)
    {c d : SchemaConcept}
    (hc : g.resolve c.label = some c)
    (hReaches : Relation.ReflTransGen g.Extends c d) :
    g.resolve d.label = some d := by
  cases hReaches with
  | refl => exact hc
  | tail _ hStep => exact h.resolve_of_extends hStep

/- A direct supertype is a concept of the schema. -/
theorem mem_values_of_extends
    {g : SchemaGraph}
    {c d : SchemaConcept}
    (h : g.Extends c d) :
    d ∈ g.concepts.values := by
  rcases h with ⟨_, _, hd⟩
  exact mem_values_of_resolve hd

/- The labels of resolved concepts are labels of the schema. -/
theorem mem_labels_of_resolve
    {g : SchemaGraph}
    {label : String}
    {c : SchemaConcept}
    (h : g.resolve label = some c) :
    c.label ∈ g.labels :=
  List.mem_map_of_mem (mem_values_of_resolve h)

/- The labels of direct supertypes are labels of the schema. -/
theorem mem_labels_of_extends
    {g : SchemaGraph}
    {c d : SchemaConcept}
    (h : g.Extends c d) :
    d.label ∈ g.labels :=
  List.mem_map_of_mem (mem_values_of_extends h)

/- A schema has as many labels as concepts. -/
theorem length_labels (g : SchemaGraph) :
    g.labels.length = g.concepts.size := by
  simp [labels, SortedMap.values, SortedMap.size]

------------------------------------------------------------
-- Bounds of Walks
------------------------------------------------------------

/-
  A walk that has seen some labels may be limited to a number of
  steps: a schema does not have more labels that were not seen.
-/
structure Suffices
    (g : SchemaGraph)
    (bound : Nat)
    (seen : List String) : Prop where
  nodup : seen.Nodup
  subset : seen ⊆ g.labels
  size_le : g.concepts.size ≤ bound + seen.length

namespace Suffices

variable
  {g : SchemaGraph}
  {bound : Nat}
  {seen : List String}
  {label : String}

/- A walk may be limited to the number of concepts. -/
theorem start (g : SchemaGraph) : g.Suffices g.concepts.size [] where
  nodup := List.nodup_nil
  subset := List.nil_subset _
  size_le := Nat.le_refl _

/- A step to a label that was not seen takes one of the steps. -/
theorem step
    (h : g.Suffices (bound + 1) seen)
    (hLabel : label ∈ g.labels)
    (hNew : label ∉ seen) :
    g.Suffices bound (label :: seen) where
  nodup := List.nodup_cons.mpr ⟨hNew, h.nodup⟩
  subset := List.cons_subset.mpr ⟨hLabel, h.subset⟩
  size_le := by
    have hSize := h.size_le
    rw [List.length_cons]
    omega

/- If no step is left, all labels were seen. -/
theorem mem_of_zero
    (h : g.Suffices 0 seen)
    (hLabel : label ∈ g.labels) :
    label ∈ seen := by
  have hLength : g.labels.length ≤ seen.length := by
    have hSize := h.size_le
    rw [length_labels]
    omega
  have hPerm : seen.Perm g.labels :=
    (h.nodup.subperm h.subset).perm_of_length_le hLength
  exact hPerm.mem_iff.mpr hLabel

end Suffices

------------------------------------------------------------
-- Chains of Supertypes
------------------------------------------------------------

section Chains

variable
  {g : SchemaGraph}

/- Without a concept there is no chain. -/
@[simp] theorem chain_none
    (g : SchemaGraph)
    (bound : Nat)
    (seen : List String) :
    g.chain bound seen none = [] := by
  cases bound <;> rfl

/- A concept whose label was not seen is in its chain. -/
theorem mem_chain_self
    {bound : Nat}
    {seen : List String}
    {c : SchemaConcept}
    (h : g.Suffices bound seen)
    (hLabel : c.label ∈ g.labels)
    (hNew : c.label ∉ seen) :
    c ∈ g.chain bound seen (some c) := by
  cases bound with
  | zero => exact absurd (h.mem_of_zero hLabel) hNew
  | succ bound =>
      rw [chain, if_neg hNew]
      exact List.mem_cons_self

/- A chain has supertypes of the concept only. -/
theorem reaches_of_mem_chain
    {bound : Nat}
    {seen : List String}
    {c d : SchemaConcept}
    (h : d ∈ g.chain bound seen (some c)) :
    Relation.ReflTransGen g.Extends c d := by
  induction bound generalizing seen c with
  | zero => cases h
  | succ bound ih =>
      rw [chain] at h
      split at h
      · cases h
      · rcases List.mem_cons.mp h with rfl | h
        · exact .refl
        · cases hParent : g.parent c with
          | none =>
              rw [hParent, chain_none] at h
              cases h
          | some e =>
              rw [hParent] at h
              exact .head (parent_eq_some_iff.mp hParent) (ih h)

/-
  A chain is closed under direct supertypes, but for those whose
  labels were seen before.
-/
theorem mem_chain_of_extends
    (hOwn : g.HasOwnLabels)
    {bound : Nat}
    {seen : List String}
    {c d e : SchemaConcept}
    (hBound : g.Suffices bound seen)
    (hc : g.resolve c.label = some c)
    (hd : d ∈ g.chain bound seen (some c))
    (hExtends : g.Extends d e) :
    e.label ∈ seen ∨ e ∈ g.chain bound seen (some c) := by
  induction bound generalizing seen c with
  | zero => cases hd
  | succ bound ih =>
      by_cases hSeen : c.label ∈ seen
      · rw [chain, if_pos hSeen] at hd
        cases hd
      have hRest := hBound.step (mem_labels_of_resolve hc) hSeen
      have hFirst : e.label = c.label → e = c := by
        intro hLabel
        have he := hOwn.resolve_of_extends hExtends
        rw [hLabel, hc] at he
        exact (Option.some.inj he).symm
      rw [chain, if_neg hSeen] at hd ⊢
      -- a direct supertype of any concept of the chain is the first
      -- concept, or was seen before it, or is in the rest
      have hCases : e.label ∈ c.label :: seen ∨
          e ∈ g.chain bound (c.label :: seen) (g.parent c) := by
        rcases List.mem_cons.mp hd with rfl | hd
        · rw [parent_eq_some_iff.mpr hExtends]
          by_cases hNew : e.label ∈ d.label :: seen
          · exact Or.inl hNew
          · have he := mem_labels_of_extends hExtends
            exact Or.inr (mem_chain_self hRest he hNew)
        · cases hParent : g.parent c with
          | none =>
              rw [hParent, chain_none] at hd
              cases hd
          | some p =>
              rw [hParent] at hd
              have hp := hOwn.resolve_of_extends
                (parent_eq_some_iff.mp hParent)
              exact ih hRest hp hd
      rcases hCases with hLabel | hMem
      · rcases List.mem_cons.mp hLabel with hLabel | hLabel
        · exact Or.inr (List.mem_cons.mpr (Or.inl (hFirst hLabel)))
        · exact Or.inl hLabel
      · exact Or.inr (List.mem_cons_of_mem c hMem)

end Chains

------------------------------------------------------------
-- Supertypes
------------------------------------------------------------

section Supertypes

variable
  {g : SchemaGraph}
  {label ancestor : String}

/- A concept comes first among its supertypes. -/
theorem mem_supertypes_self
    {c : SchemaConcept}
    (h : g.resolve label = some c) :
    c ∈ g.supertypes label := by
  rcases supertypes_of_resolve h with ⟨cs, hSupertypes⟩
  rw [hSupertypes]
  exact List.mem_cons_self

/- Only labels that resolve have supertypes. -/
theorem resolve_of_mem_supertypes
    {d : SchemaConcept}
    (h : d ∈ g.supertypes label) :
    ∃ c, g.resolve label = some c ∧
      Relation.ReflTransGen g.Extends c d := by
  unfold supertypes at h
  cases hc : g.resolve label with
  | none =>
      rw [hc, chain_none] at h
      cases h
  | some c =>
      rw [hc] at h
      exact ⟨c, rfl, reaches_of_mem_chain h⟩

/- The supertypes of a label are those that its concept reaches. -/
theorem mem_supertypes_iff
    (hOwn : g.HasOwnLabels)
    {d : SchemaConcept} :
    d ∈ g.supertypes label ↔
      ∃ c, g.resolve label = some c ∧
        Relation.ReflTransGen g.Extends c d := by
  refine ⟨resolve_of_mem_supertypes, ?_⟩
  rintro ⟨c, hc, hReaches⟩
  induction hReaches with
  | refl => exact mem_supertypes_self hc
  | tail _ hExtends ih =>
      unfold supertypes at ih ⊢
      rw [hc] at ih ⊢
      have hClosed := mem_chain_of_extends hOwn (.start g)
        (hOwn.resolve_label hc) ih hExtends
      exact hClosed.resolve_left List.not_mem_nil

/- A label is a subtype of the labels of its supertypes. -/
theorem isSubtype_iff_mem :
    g.isSubtype label ancestor = true ↔
      ancestor ∈ g.supertypeLabels label :=
  decide_eq_true_iff

/- A label is a subtype of those that its concept reaches. -/
theorem isSubtype_iff
    (hOwn : g.HasOwnLabels) :
    g.isSubtype label ancestor = true ↔
      ∃ c d, g.resolve label = some c ∧ g.resolve ancestor = some d ∧
        Relation.ReflTransGen g.Extends c d := by
  rw [isSubtype_iff_mem]
  unfold supertypeLabels
  rw [List.mem_map]
  constructor
  · rintro ⟨d, hd, rfl⟩
    rcases resolve_of_mem_supertypes hd with ⟨c, hc, hReaches⟩
    have hResolve := hOwn.resolve_of_reaches (hOwn.resolve_label hc) hReaches
    exact ⟨c, d, hc, hResolve, hReaches⟩
  · rintro ⟨c, d, hc, hd, hReaches⟩
    exact ⟨d, (mem_supertypes_iff hOwn).mpr ⟨c, hc, hReaches⟩,
      hOwn.label_eq hd⟩

/- A label has all supertypes of a label that it is a subtype of. -/
theorem supertypes_subset_of_isSubtype
    (hOwn : g.HasOwnLabels)
    (h : g.isSubtype label ancestor = true) :
    g.supertypes ancestor ⊆ g.supertypes label := by
  rcases (isSubtype_iff hOwn).mp h with ⟨c, d, hc, hd, hReaches⟩
  intro e he
  rcases (mem_supertypes_iff hOwn).mp he with ⟨d', hd', hAbove⟩
  rw [hd] at hd'
  cases hd'
  exact (mem_supertypes_iff hOwn).mpr ⟨c, hc, hReaches.trans hAbove⟩

end Supertypes

end SchemaGraph

end TraversalPlanner
