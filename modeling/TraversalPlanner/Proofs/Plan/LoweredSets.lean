import TraversalPlanner.Plan.Lowering

/-
  The sets that patterns are lowered to have one of four forms,
  and all fragments of such a set have the same variables.

  Main declarations:
    * `Lowering.IsLowered`
    * `Lowering.exists_property_of_mem_lower`
    * `Lowering.isLowered_of_mem_lower`
    * `Lowering.IsLowered.vars_eq`
-/

namespace TraversalPlanner

------------------------------------------------------------
-- Variables of Fragments
------------------------------------------------------------

namespace Fragment

/- The variables are the start, the end and the others. -/
theorem mem_vars_iff
    {f : Fragment}
    {x : Var} :
    x ∈ f.vars ↔
      x = f.start ∨ f.finish? = some x ∨ x ∈ f.others := by
  unfold vars
  rw [SortedSet.mem_ofList, List.mem_cons, List.mem_append,
    Option.mem_toList]

/- A fragment and its mirror image have the same variables. -/
theorem vars_eq_of_mirror
    {f g : Fragment}
    (hStart : g.finish? = some f.start)
    (hFinish : f.finish? = some g.start)
    (hOthers : g.others = f.others) :
    g.vars = f.vars := by
  apply SortedSet.ext
  intro x
  rw [mem_vars_iff, mem_vars_iff, hStart, hFinish, hOthers]
  constructor
  · rintro (rfl | h | h)
    · exact Or.inr (Or.inl rfl)
    · exact Or.inl (Option.some.inj h).symm
    · exact Or.inr (Or.inr h)
  · rintro (rfl | h | h)
    · exact Or.inr (Or.inl rfl)
    · exact Or.inl (Option.some.inj h).symm
    · exact Or.inr (Or.inr h)

end Fragment

------------------------------------------------------------
-- Forms of Lowered Sets
------------------------------------------------------------

namespace Lowering

/-
  The forms of lowered sets.  The role variable of a casting with
  a labelled role is the one that stands for the label.
-/
inductive IsLowered : FragmentSet → Prop where
| filtered
    (f : Filter)
    (x : Var) :
    IsLowered (Lowering.filtered f x)
| connected
    (e : Edge)
    (x y : Var) :
    IsLowered (Lowering.connected e x y)
| cast
    (role : Option String)
    (roleVar : Option Var)
    (relation player : Var) :
    (∀ label, role = some label → roleVar = some (labelVar label)) →
    IsLowered (Lowering.cast role roleVar relation player)
| distinct
    (x y : Var) :
    IsLowered (Lowering.distinct x y)

/- A pinned label is a filter. -/
theorem isLowered_of_mem_pin
    {t : TypeRef}
    {s : FragmentSet}
    (hs : s ∈ pin t) :
    IsLowered s := by
  cases t with
  | label l =>
      have hEq : s = filtered (.label l) (labelVar l) := by
        simpa [pin, Lowering.filtered] using hs
      rw [hEq]
      exact .filtered _ _
  | var x => cases hs

/- An edge to a type, and the label of the type. -/
theorem isLowered_of_mem_pin_append
    {t : TypeRef}
    {e : Edge}
    {x y : Var}
    {s : FragmentSet}
    (hs : s ∈ pin t ++ [connected e x y]) :
    IsLowered s := by
  rcases List.mem_append.mp hs with hs | hs
  · exact isLowered_of_mem_pin hs
  · rw [List.mem_singleton.mp hs]
    exact .connected e x y

/- The role variable of a labelled role stands for its label. -/
theorem typeVar_of_roleLabel?
    {p : RolePlayer}
    {label : String}
    (h : p.roleLabel? = some label) :
    p.role.map typeVar = some (labelVar label) := by
  unfold RolePlayer.roleLabel? at h
  rcases Option.bind_eq_some_iff.mp h with ⟨t, ht, hLabel⟩
  rw [ht]
  cases t with
  | label l =>
      cases hLabel
      rfl
  | var x => cases hLabel

/- Every set of a property has one of the four forms. -/
theorem isLowered_of_mem_ofProperty
    {n : Nat}
    {x : Var}
    {p : Property}
    {s : FragmentSet}
    (hs : s ∈ ofProperty n x p) :
    IsLowered s := by
  cases p with
  | isa t => exact isLowered_of_mem_pin_append hs
  | sub t => exact isLowered_of_mem_pin_append hs
  | relates t => exact isLowered_of_mem_pin_append hs
  | plays t => exact isLowered_of_mem_pin_append hs
  | label l =>
      rw [List.mem_singleton.mp hs]
      exact .filtered _ _
  | id i =>
      rw [List.mem_singleton.mp hs]
      exact .filtered _ _
  | value p =>
      rw [List.mem_singleton.mp hs]
      exact .filtered _ _
  | dataType t =>
      rw [List.mem_singleton.mp hs]
      exact .filtered _ _
  | isAbstract =>
      rw [List.mem_singleton.mp hs]
      exact .filtered _ _
  | regex r =>
      rw [List.mem_singleton.mp hs]
      exact .filtered _ _
  | has type resource predicate =>
      rcases List.mem_cons.mp hs with rfl | hs
      · exact .connected _ _ _
      · have hFiltered : ∃ q, predicate = some q ∧
            filtered (.value q) (resource.getD (resourceVar n)) = s := by
          simpa using hs
        rcases hFiltered with ⟨q, _, rfl⟩
        exact .filtered _ _
  | rolePlayer p =>
      rcases List.mem_append.mp hs with hs | hs
      · cases hRole : p.role with
        | none =>
            rw [hRole] at hs
            cases hs
        | some t =>
            rw [hRole] at hs
            exact isLowered_of_mem_pin hs
      · rw [List.mem_singleton.mp hs]
        exact .cast _ _ _ _ fun _ h => typeVar_of_roleLabel? h
  | neq y =>
      rw [List.mem_singleton.mp hs]
      exact .distinct x y

/- The sets of a list of properties are those of its members. -/
theorem exists_property_of_mem_ofProperties
    {x : Var}
    {s : FragmentSet}
    {ps : List Property} :
    ∀ {n : Nat}, s ∈ ofProperties n x ps →
      ∃ q ∈ ps, ∃ m, s ∈ ofProperty m x q := by
  induction ps with
  | nil =>
      intro n hs
      cases hs
  | cons p ps ih =>
      intro n hs
      rcases List.mem_append.mp hs with hs | hs
      · exact ⟨p, List.mem_cons_self, n, hs⟩
      · rcases ih hs with ⟨q, hq, hSet⟩
        exact ⟨q, List.mem_cons_of_mem p hq, hSet⟩

/- The sets of a list of clauses are those of their properties. -/
theorem exists_property_of_mem_ofClauses
    {s : FragmentSet}
    {cs : List Clause} :
    ∀ {n : Nat}, s ∈ ofClauses n cs →
      ∃ c ∈ cs, ∃ q ∈ c.properties, ∃ m,
        s ∈ ofProperty m c.subject q := by
  induction cs with
  | nil =>
      intro n hs
      cases hs
  | cons c cs ih =>
      intro n hs
      rcases List.mem_append.mp hs with hs | hs
      · exact ⟨c, List.mem_cons_self, exists_property_of_mem_ofProperties hs⟩
      · rcases ih hs with ⟨d, hd, hSet⟩
        exact ⟨d, List.mem_cons_of_mem c hd, hSet⟩

/- The sets of a lowered pattern are those of its properties. -/
theorem exists_property_of_mem_lower
    {p : Pattern}
    {s : FragmentSet}
    (hs : s ∈ p.lower) :
    ∃ c ∈ p.clauses, ∃ q ∈ c.properties, ∃ n,
      s ∈ ofProperty n c.subject q :=
  exists_property_of_mem_ofClauses hs

/- Every set of a lowered pattern has one of the four forms. -/
theorem isLowered_of_mem_lower
    {p : Pattern}
    {s : FragmentSet}
    (hs : s ∈ p.lower) :
    IsLowered s := by
  rcases exists_property_of_mem_lower hs with ⟨_, _, _, _, _, hSet⟩
  exact isLowered_of_mem_ofProperty hSet

/- All fragments of a lowered set have the same variables. -/
theorem IsLowered.vars_eq
    {s : FragmentSet}
    {f : Fragment}
    (h : IsLowered s)
    (hf : f ∈ s.fragments) :
    f.vars = s.first.vars := by
  cases h with
  | filtered g x =>
      rw [List.mem_singleton.mp hf]
  | connected e x y =>
      rcases List.mem_cons.mp hf with rfl | hf
      · rfl
      · rw [List.mem_singleton.mp hf]
        exact Fragment.vars_eq_of_mirror rfl rfl rfl
  | cast role roleVar relation player _ =>
      rcases List.mem_cons.mp hf with rfl | hf
      · rfl
      · rw [List.mem_singleton.mp hf]
        exact Fragment.vars_eq_of_mirror rfl rfl rfl
  | distinct x y =>
      rcases List.mem_cons.mp hf with rfl | hf
      · rfl
      · rw [List.mem_singleton.mp hf]
        exact Fragment.vars_eq_of_mirror rfl rfl rfl

end Lowering

end TraversalPlanner
