import TraversalPlanner.Proofs.Plan.GreedyRun
import TraversalPlanner.Proofs.Plan.LoweredSets
import TraversalPlanner.Proofs.Plan.Registration

/-
  Which constraints of a pattern its plan represents.  Every set
  of the lowered pattern has a step that matches it up to role
  variables.  The role variable is lost exactly for a role player
  without a labelled role, if an earlier one of the same relation
  and player has another role variable.

  Main declarations:
    * `Fragment.Matches`, `Fragment.Restates`
    * `Lowering.roleVarOf?`
    * `Optimizer.exists_step_restates_iff`
    * `Optimizer.exists_roleVar_lost`
-/

namespace TraversalPlanner

------------------------------------------------------------
-- Fragments That State the Same
------------------------------------------------------------

namespace Fragment

/-
  Two fragments are of the same kind, up to literals for the same
  value, and have the same start and end.
-/
def Matches (f g : Fragment) : Prop :=
  (f.kind = g.kind ∨ f.kind.Agree g.kind) ∧
    f.start = g.start ∧
    f.finish? = g.finish?

instance (f g : Fragment) : Decidable (f.Matches g) := by
  unfold Matches
  infer_instance

/- Two fragments match and have the same other variables. -/
def Restates (f g : Fragment) : Prop :=
  f.Matches g ∧ f.others = g.others

instance (f g : Fragment) : Decidable (f.Restates g) := by
  unfold Restates
  infer_instance

/- A fragment restates itself, whatever its literals are. -/
theorem restates_self (f : Fragment) : f.Restates f :=
  ⟨⟨Or.inl rfl, rfl, rfl⟩, rfl⟩

/- Duplicates match. -/
theorem Duplicates.matches
    {f g : Fragment}
    (h : f.Duplicates g) :
    f.Matches g :=
  ⟨Or.inr h.2, h.1.2.1, h.1.2.2⟩

/- Only a casting matches a casting, whatever the role variables. -/
theorem Matches.exists_casting
    {f : Fragment}
    {role : Option String}
    {w : Option Var}
    {d : Direction}
    {x y : Var}
    (h : f.Matches (.casting role w d x y)) :
    ∃ v, f = .casting role v d x y := by
  rcases h with ⟨hKind, hStart, hFinish⟩
  cases f with
  | filter φ z => rcases hKind with h | h <;> cases h
  | neq z u => rcases hKind with h | h <;> cases h
  | step e d' z u => rcases hKind with h | h <;> cases h
  | casting role' v d' z u =>
      have hEq :
          FragmentKind.casting role' d' =
            FragmentKind.casting role d :=
        hKind.elim id id
      cases hEq
      cases hStart
      cases hFinish
      exact ⟨v, rfl⟩

end Fragment

------------------------------------------------------------
-- Variables of Predicates
------------------------------------------------------------

namespace ValuePredicate

/- Predicates that ask for the same compare with the same variable. -/
theorem Agree.var?_eq
    {p q : ValuePredicate}
    (h : p.Agree q) :
    p.var? = q.var? := by
  cases p with
  | compare c o =>
      cases q with
      | compare d r =>
          cases o with
          | value v =>
              cases r with
              | value w => rfl
              | var y => exact h.2.elim
          | var x =>
              cases r with
              | value w => exact h.2.elim
              | var y => exact congrArg some h.2
      | contains t => exact h.elim
      | regex t => exact h.elim
  | contains s =>
      cases q with
      | compare d r => exact h.elim
      | contains t => rfl
      | regex t => rfl
  | regex s =>
      cases q with
      | compare d r => exact h.elim
      | contains t => rfl
      | regex t => rfl

end ValuePredicate

namespace Filter

/- Filters that ask for the same need the same variable. -/
theorem Agree.var?_eq
    {f g : Filter}
    (h : f.Agree g) :
    f.var? = g.var? := by
  unfold Agree at h
  split at h
  · exact ValuePredicate.Agree.var?_eq h
  · rw [h]

end Filter

------------------------------------------------------------
-- Castings Among Lowered Sets
------------------------------------------------------------

namespace Lowering

/-
  A casting of a lowered set shows which casting set it is, and
  that a labelled role has the variable of its label.
-/
theorem IsLowered.exists_cast
    {s : FragmentSet}
    {role : Option String}
    {roleVar : Option Var}
    {d : Direction}
    {x y : Var}
    (hs : IsLowered s)
    (hMem : Fragment.casting role roleVar d x y ∈ s.fragments) :
    (∀ label, role = some label → roleVar = some (labelVar label)) ∧
      s =
        match d with
        | .outward => Lowering.cast role roleVar x y
        | .inward => Lowering.cast role roleVar y x := by
  cases hs with
  | filtered f z =>
      simp [Lowering.filtered, FragmentSet.fragments,
        FragmentSet.single] at hMem
  | connected e z w =>
      simp [Lowering.connected, FragmentSet.fragments] at hMem
  | distinct z w =>
      simp [Lowering.distinct, FragmentSet.fragments] at hMem
  | cast role' roleVar' relation player hLabel =>
      rcases List.mem_cons.mp hMem with hEq | hMem
      · cases hEq
        exact ⟨hLabel, rfl⟩
      · cases List.mem_singleton.mp hMem
        exact ⟨hLabel, rfl⟩

/-
  Matching fragments of lowered sets have the same other
  variables, unless both sets are castings without a labelled
  role.
-/
theorem IsLowered.others_eq_or_cast
    {s t : FragmentSet}
    {f g : Fragment}
    (hs : IsLowered s)
    (ht : IsLowered t)
    (hf : f ∈ s.fragments)
    (hg : g ∈ t.fragments)
    (h : f.Matches g) :
    f.others = g.others ∨
      ∃ v w relation player,
        s = Lowering.cast none v relation player ∧
          t = Lowering.cast none w relation player ∧
          f.others = v.toList ∧ g.others = w.toList := by
  cases g with
  | filter ψ y =>
      apply Or.inl
      cases f with
      | filter φ x =>
          have hVar : φ.var? = ψ.var? := by
            rcases h.1 with hKind | hAgree
            · cases hKind
              rfl
            · exact Filter.Agree.var?_eq hAgree
          simp only [Fragment.others, hVar]
      | neq x z => rcases h.1 with h | h <;> cases h
      | step e d x z => rcases h.1 with h | h <;> cases h
      | casting role v d x z => rcases h.1 with h | h <;> cases h
  | neq y z =>
      apply Or.inl
      cases f with
      | filter φ x => rcases h.1 with h | h <;> cases h
      | neq x u => rfl
      | step e d x u => rfl
      | casting role v d x u => rcases h.1 with h | h <;> cases h
  | step e d y z =>
      apply Or.inl
      cases f with
      | filter φ x => rcases h.1 with h | h <;> cases h
      | neq x u => rfl
      | step e' d' x u => rfl
      | casting role v d' x u => rcases h.1 with h | h <;> cases h
  | casting role w d x y =>
      rcases h.exists_casting with ⟨v, rfl⟩
      rcases hs.exists_cast hf with ⟨hLabelF, hCastF⟩
      rcases ht.exists_cast hg with ⟨hLabelG, hCastG⟩
      cases role with
      | none =>
          apply Or.inr
          cases d with
          | outward => exact ⟨v, w, x, y, hCastF, hCastG, rfl, rfl⟩
          | inward => exact ⟨v, w, y, x, hCastF, hCastG, rfl, rfl⟩
      | some label =>
          apply Or.inl
          rw [hLabelF label rfl, hLabelG label rfl]

------------------------------------------------------------
-- Role Players Without Labelled Roles
------------------------------------------------------------

/-
  The role variable, if there is one, of the casting set between
  a relation and a player whose role is not given by a label.
-/
def roleVarOf?
    (relation player : Var) : FragmentSet → Option (Option Var)
| ⟨.casting none v .outward x y, _⟩ =>
    if x = relation ∧ y = player then some v else none
| _ => none

/- A casting set without labelled role shows its role variable. -/
theorem roleVarOf?_cast
    (v : Option Var)
    (relation player : Var) :
    roleVarOf? relation player (cast none v relation player) =
      some v := by
  simp [roleVarOf?, cast]

/- Only casting sets show a role variable. -/
theorem IsLowered.eq_cast_of_roleVarOf?
    {s : FragmentSet}
    {v : Option Var}
    {relation player : Var}
    (hs : IsLowered s)
    (h : roleVarOf? relation player s = some v) :
    s = Lowering.cast none v relation player := by
  unfold roleVarOf? at h
  split at h
  · split at h
    · rename_i hVars
      cases h
      rw [(hs.exists_cast (FragmentSet.first_mem_fragments _)).2, hVars.1, hVars.2]
    · cases h
  · cases h

/- Casting sets that differ in the role variable are duplicates. -/
theorem cast_duplicates
    (role : Option String)
    (v w : Option Var)
    (relation player : Var) :
    (cast role v relation player).Duplicates
      (cast role w relation player) := by
  have hEach : ∀ v w, ∀ f ∈ (cast role v relation player).fragments,
      ∃ g ∈ (cast role w relation player).fragments,
        f.Duplicates g := by
    intro v w f hf
    rcases List.mem_cons.mp hf with rfl | hf
    · exact ⟨_, List.mem_cons_self, ⟨rfl, rfl, rfl⟩, rfl⟩
    · rw [List.mem_singleton.mp hf]
      exact ⟨_, List.mem_cons_of_mem _ List.mem_cons_self,
        ⟨rfl, rfl, rfl⟩, rfl⟩
  exact ⟨hEach v w, hEach w v⟩

/-
  A lowered set with a fragment that matches one of a casting set
  is such a casting set, up to the role variable.
-/
theorem IsLowered.exists_cast_of_matches
    {s : FragmentSet}
    {f g : Fragment}
    {role : Option String}
    {w : Option Var}
    {relation player : Var}
    (hs : IsLowered s)
    (hf : f ∈ s.fragments)
    (hg : g ∈ (Lowering.cast role w relation player).fragments)
    (h : f.Matches g) :
    ∃ v, s = Lowering.cast role v relation player ∧
      f.others = v.toList ∧ g.others = w.toList := by
  rcases List.mem_cons.mp hg with rfl | hg
  · rcases h.exists_casting with ⟨v, rfl⟩
    exact ⟨v, (hs.exists_cast hf).2, rfl, rfl⟩
  · rw [List.mem_singleton.mp hg] at h ⊢
    rcases h.exists_casting with ⟨v, rfl⟩
    exact ⟨v, (hs.exists_cast hf).2, rfl, rfl⟩

/- A lowered duplicate of a casting set is such a casting set. -/
theorem IsLowered.exists_cast_of_duplicates
    {s : FragmentSet}
    {role : Option String}
    {w : Option Var}
    {relation player : Var}
    (hs : IsLowered s)
    (h : s.Duplicates (Lowering.cast role w relation player)) :
    ∃ v, s = Lowering.cast role v relation player := by
  rcases h.1 s.first s.first_mem_fragments with ⟨g, hg, hDup⟩
  rcases hs.exists_cast_of_matches s.first_mem_fragments hg hDup.matches
    with ⟨v, hCast, _⟩
  exact ⟨v, hCast⟩

/-
  A lowered set with a fragment that restates one of a casting
  set is that casting set.
-/
theorem IsLowered.eq_cast_of_restates
    {s : FragmentSet}
    {f g : Fragment}
    {role : Option String}
    {w : Option Var}
    {relation player : Var}
    (hs : IsLowered s)
    (hf : f ∈ s.fragments)
    (hg : g ∈ (Lowering.cast role w relation player).fragments)
    (h : f.Restates g) :
    s = Lowering.cast role w relation player := by
  rcases hs.exists_cast_of_matches hf hg h.1 with ⟨v, hCast, hv, hw⟩
  have hList : v.toList = w.toList := by
    rw [← hv, ← hw, h.2]
  have hEq : v = w := by
    cases v <;> cases w <;> simp_all
  rw [hCast, hEq]

end Lowering

------------------------------------------------------------
-- Steps for Sets
------------------------------------------------------------

namespace Optimizer

/- A step of a plan runs a fragment of a set that was lowered. -/
theorem exists_set_of_mem_steps
    {o : Optimizer}
    {sets : List FragmentSet}
    {startVars : VarSet}
    {plan : Plan}
    (h : o.optimize sets startVars = .ok plan)
    {s : PlanStep}
    (hs : s ∈ plan.steps) :
    ∃ k ∈ (Arena.build sets).sets, s.fragment ∈ k.fragments := by
  rcases (greedyRun_of_optimize h).1.exists_candidate s hs
    with ⟨c, hc, _, hFragment⟩
  rcases Arena.mem_candidates_iff.mp hc with ⟨k, hk, hMem⟩
  rw [← hFragment]
  exact ⟨k, List.mem_of_getElem? hk, List.mem_of_getElem? hMem⟩

/- Every set of the arena has a step that runs one of its fragments. -/
theorem exists_step_of_mem_sets
    {o : Optimizer}
    {sets : List FragmentSet}
    {startVars : VarSet}
    {plan : Plan}
    (h : o.optimize sets startVars = .ok plan)
    {k : FragmentSet}
    (hk : k ∈ (Arena.build sets).sets) :
    ∃ s ∈ plan.steps, s.fragment ∈ k.fragments := by
  rcases greedyRun_of_optimize h with ⟨hRun, hLength, _⟩
  rcases List.getElem_of_mem hk with ⟨id, hId, rfl⟩
  have hTaken : id ∈ plan.steps.map PlanStep.set :=
    (hRun.sets_perm_range hLength).mem_iff.mpr (List.mem_range.mpr hId)
  rcases List.mem_map.mp hTaken with ⟨s, hs, hSet⟩
  rcases hRun.exists_candidate s hs with ⟨c, hc, hcSet, hFragment⟩
  rcases Arena.mem_candidates_iff.mp hc with ⟨t, ht, hMem⟩
  rw [hcSet, hSet, List.getElem?_eq_getElem hId] at ht
  cases ht
  refine ⟨s, hs, ?_⟩
  rw [← hFragment]
  exact List.mem_of_getElem? hMem

/- Every lowered set is matched by a step of the plan. -/
theorem exists_step_matches
    {o : Optimizer}
    {sets : List FragmentSet}
    {startVars : VarSet}
    {plan : Plan}
    (h : o.optimize sets startVars = .ok plan)
    {s : FragmentSet}
    (hs : s ∈ sets) :
    ∃ k ∈ (Arena.build sets).sets, ∃ step ∈ plan.steps,
      step.fragment ∈ k.fragments ∧
        (k = s ∨ k.Duplicates s) ∧
        ∃ g ∈ s.fragments, step.fragment.Matches g := by
  rcases Arena.mem_build_or_duplicate hs with hk | ⟨k, hk, hDup⟩
  · rcases exists_step_of_mem_sets h hk with ⟨step, hStep, hMem⟩
    exact ⟨s, hk, step, hStep, hMem, Or.inl rfl, step.fragment, hMem,
      (Fragment.restates_self step.fragment).1⟩
  · rcases exists_step_of_mem_sets h hk with ⟨step, hStep, hMem⟩
    rcases hDup.1 step.fragment hMem with ⟨g, hg, hDuplicates⟩
    exact ⟨k, hk, step, hStep, hMem, Or.inr hDup, g, hg,
      hDuplicates.matches⟩

open Lowering

/-
  Of the castings without a labelled role between a relation and
  a player, an arena has only those with the role variable of the
  first.
-/
theorem findSome?_roleVarOf?_of_mem_build
    {sets : List FragmentSet}
    (hLowered : ∀ s ∈ sets, IsLowered s)
    {v : Option Var}
    {relation player : Var}
    (hMem :
      Lowering.cast none v relation player ∈ (Arena.build sets).sets) :
    sets.findSome? (roleVarOf? relation player) = some v := by
  have hKind :
      ∀ k s, IsLowered k → IsLowered s → k.Duplicates s →
        (roleVarOf? relation player s).isSome = true →
          (roleVarOf? relation player k).isSome = true := by
    intro k s hk hs hDup hSome
    rcases Option.isSome_iff_exists.mp hSome with ⟨w, hw⟩
    rw [hs.eq_cast_of_roleVarOf? hw] at hDup
    rcases hk.exists_cast_of_duplicates hDup with ⟨u, rfl⟩
    simp [roleVarOf?_cast]
  have hDup :
      ∀ k s, IsLowered k → IsLowered s →
        (roleVarOf? relation player k).isSome = true →
          (roleVarOf? relation player s).isSome = true →
            k.Duplicates s := by
    intro k s hk hs hSomeK hSomeS
    rcases Option.isSome_iff_exists.mp hSomeK with ⟨u, hu⟩
    rcases Option.isSome_iff_exists.mp hSomeS with ⟨w, hw⟩
    rw [hk.eq_cast_of_roleVarOf? hu, hs.eq_cast_of_roleVarOf? hw]
    exact cast_duplicates none u w relation player
  have hFirst :=
    Arena.findSome?_eq_of_mem_foldl_register IsLowered hDup
      (by simp) hLowered (by simp) _ hMem
      (by simp [roleVarOf?_cast])
  rw [Arena.findSome?_foldl_register IsLowered hKind (by simp) hLowered,
    List.nil_append, roleVarOf?_cast] at hFirst
  exact hFirst

/-
  Every set of a lowered pattern has a step that matches it.
  Some step also has its role variable, unless an earlier casting
  without labelled role between the same relation and player has
  another one.
-/
theorem exists_step_restates_iff
    {o : Optimizer}
    {p : Pattern}
    {startVars : VarSet}
    {plan : Plan}
    (h : o.optimize p.lower startVars = .ok plan)
    {s : FragmentSet}
    (hs : s ∈ p.lower) :
    (∃ step ∈ plan.steps, ∃ g ∈ s.fragments,
        step.fragment.Matches g) ∧
      ((∃ step ∈ plan.steps, ∃ g ∈ s.fragments,
          step.fragment.Restates g) ↔
        ∀ v relation player,
          s = Lowering.cast none v relation player →
            p.lower.findSome? (roleVarOf? relation player) =
              some v) := by
  have hLowered : ∀ t ∈ p.lower, IsLowered t :=
    fun t ht => isLowered_of_mem_lower ht
  rcases exists_step_matches h hs
    with ⟨k, hk, step, hStep, hMem, hSame, g, hg, hMatches⟩
  refine ⟨⟨step, hStep, g, hg, hMatches⟩, ?_, ?_⟩
  · rintro ⟨step, hStep, g, hg, hRestates⟩ v relation player rfl
    rcases exists_set_of_mem_steps h hStep with ⟨k, hk, hMem⟩
    have hkLowered := hLowered k (Arena.mem_of_mem_build hk)
    rw [hkLowered.eq_cast_of_restates hMem hg hRestates] at hk
    exact findSome?_roleVarOf?_of_mem_build hLowered hk
  · intro hFirst
    refine ⟨step, hStep, g, hg, hMatches, ?_⟩
    have hkLowered := hLowered k (Arena.mem_of_mem_build hk)
    rcases hkLowered.others_eq_or_cast (hLowered s hs) hMem hg hMatches
      with hOthers | ⟨v, w, relation, player, rfl, rfl, hv, hw⟩
    · exact hOthers
    · -- both are castings, with the role variable of the first one
      have hFirstK := findSome?_roleVarOf?_of_mem_build hLowered hk
      rw [hFirst w relation player rfl] at hFirstK
      rw [hv, hw, Option.some.inj hFirstK]

/- A movie that one person takes part in, in two ways. -/
def twoRolesPattern : Pattern where
  clauses :=
    [⟨⟨"r"⟩,
      [.rolePlayer ⟨some (.var ⟨"a"⟩), ⟨"x"⟩⟩,
       .rolePlayer ⟨some (.var ⟨"b"⟩), ⟨"x"⟩⟩]⟩]

/- The plan of this pattern. -/
def twoRolesPlan : Plan where
  steps :=
    [⟨.casting none (some ⟨"a"⟩) .outward ⟨"r"⟩ ⟨"x"⟩, 300, 0⟩]
  startVars := .empty
  trace := none

/- The first of the two castings keeps its role variable. -/
theorem exists_step_restates_twoRolesPattern :
    optimize ⟨.standard, false⟩ twoRolesPattern.lower .empty =
        .ok twoRolesPlan ∧
      ∃ step ∈ twoRolesPlan.steps,
        ∃ g ∈ (cast none (some ⟨"a"⟩) ⟨"r"⟩ ⟨"x"⟩).fragments,
          step.fragment.Restates g := by
  have hPlan :
      optimize ⟨.standard, false⟩ twoRolesPattern.lower .empty =
        .ok twoRolesPlan := by
    decide +kernel
  have hMem :
      cast none (some ⟨"a"⟩) ⟨"r"⟩ ⟨"x"⟩ ∈ twoRolesPattern.lower := by
    decide
  refine ⟨hPlan, (exists_step_restates_iff hPlan hMem).2.mpr ?_⟩
  intro v relation player hCast
  cases hCast
  decide

/- The role variable of the second casting is lost. -/
theorem exists_roleVar_lost :
    optimize ⟨.standard, false⟩ twoRolesPattern.lower .empty =
        .ok twoRolesPlan ∧
      cast none (some ⟨"b"⟩) ⟨"r"⟩ ⟨"x"⟩ ∈ twoRolesPattern.lower ∧
      ¬ ∃ step ∈ twoRolesPlan.steps,
        ∃ g ∈ (cast none (some ⟨"b"⟩) ⟨"r"⟩ ⟨"x"⟩).fragments,
          step.fragment.Restates g := by
  refine ⟨?_, ?_, ?_⟩
  · decide +kernel
  · decide
  · decide

end Optimizer

end TraversalPlanner
