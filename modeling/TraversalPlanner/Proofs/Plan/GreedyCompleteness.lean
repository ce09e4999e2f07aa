import TraversalPlanner.Proofs.Plan.GreedyRun
import TraversalPlanner.Proofs.Plan.LoweredSets
import TraversalPlanner.Proofs.Plan.Registration

/-
  Greedy planning of a lowered pattern never runs into a dead end
  that another order or other directions would have avoided: all
  fragments of a lowered set bind the same variables, so whatever
  was chosen, the first open set of a possible order can run.

  Main declarations:
    * `Arena.IsUniform`
    * `Arena.IsOrdering`
    * `Arena.IsOrdering.exists_mayRun`
    * `Greedy.rounds_ok_of_isOrdering`
    * `Optimizer.optimize_lower_ok_iff`
-/

namespace TraversalPlanner

------------------------------------------------------------
-- Uniform Arenas
------------------------------------------------------------

namespace Arena

/- All fragments of a set have the same variables. -/
def IsUniform (a : Arena) : Prop :=
  ∀ c ∈ a.candidates, ∀ d ∈ a.candidates,
    c.set = d.set → c.fragment.vars = d.fragment.vars

/- The arena of a lowered pattern is uniform. -/
theorem isUniform_build_lower (p : Pattern) :
    (build p.lower).IsUniform := by
  intro c hc d hd hSet
  rcases mem_candidates_iff.mp hc with ⟨s, hs, hcs⟩
  rcases mem_candidates_iff.mp hd with ⟨t, ht, hdt⟩
  rw [hSet, ht] at hs
  cases hs
  have hLowered :=
    Lowering.isLowered_of_mem_lower
      (mem_of_mem_build (List.mem_of_getElem? ht))
  rw [hLowered.vars_eq (List.mem_of_getElem? hcs),
    hLowered.vars_eq (List.mem_of_getElem? hdt)]

------------------------------------------------------------
-- Possible Orders
------------------------------------------------------------

/-
  Candidates, one from every set, in an order in which each has
  its dependencies bound by the start variables and the
  candidates before it.
-/
structure IsOrdering
    (a : Arena)
    (startVars : VarSet)
    (cs : List Candidate) : Prop where
  mem_candidates : ∀ c ∈ cs, c ∈ a.candidates
  sets_perm : (cs.map Candidate.set).Perm (List.range a.size)
  soundFrom :
    Plan.SoundFrom startVars (cs.map Candidate.fragment)

/- The start variables and the variables of resolved sets are bound. -/
def BindsResolved
    (a : Arena)
    (startVars : VarSet)
    (resolved : List Nat)
    (bound : VarSet) : Prop :=
  (∀ x ∈ startVars, x ∈ bound) ∧
    ∀ c ∈ a.candidates, c.set ∈ resolved →
      ∀ x ∈ c.fragment.vars, x ∈ bound

/- At first no set is resolved. -/
theorem bindsResolved_nil
    (a : Arena)
    (startVars : VarSet) :
    a.BindsResolved startVars [] startVars := by
  refine ⟨fun _ hx => hx, ?_⟩
  intro c _ hMem
  cases hMem

/- Whichever fragment of a set is chosen binds the set's variables. -/
theorem BindsResolved.append_singleton
    {a : Arena}
    {startVars bound : VarSet}
    {resolved : List Nat}
    {c : Candidate}
    (hUniform : a.IsUniform)
    (h : a.BindsResolved startVars resolved bound)
    (hc : c ∈ a.candidates) :
    a.BindsResolved startVars (resolved ++ [c.set])
      (bound.insertMany c.fragment.vars.toList) := by
  refine ⟨?_, ?_⟩
  · intro x hx
    exact SortedSet.mem_insertMany.mpr (Or.inr (h.1 x hx))
  · intro d hd hMem x hx
    apply SortedSet.mem_insertMany.mpr
    rcases List.mem_append.mp hMem with hMem | hMem
    · exact Or.inr (h.2 d hd hMem x hx)
    · rw [hUniform d hd c hc (List.mem_singleton.mp hMem)] at hx
      exact Or.inl hx

/-
  Of an order that is possible, the first candidate whose set is
  not resolved may run.
-/
theorem IsOrdering.exists_mayRun
    {a : Arena}
    {startVars bound : VarSet}
    {resolved : List Nat}
    {cs : List Candidate}
    (hOrdering : a.IsOrdering startVars cs)
    (hBinds : a.BindsResolved startVars resolved bound)
    (hOpen : ∃ id < a.size, id ∉ resolved) :
    ∃ c, a.MayRun resolved bound c := by
  rcases hOpen with ⟨id, hid, hNew⟩
  have hTaken : id ∈ cs.map Candidate.set :=
    hOrdering.sets_perm.mem_iff.mpr (List.mem_range.mpr hid)
  rcases List.mem_map.mp hTaken with ⟨d, hd, rfl⟩
  have hSome :
      (cs.find? fun c => decide (c.set ∉ resolved)).isSome = true :=
    List.find?_isSome.mpr ⟨d, hd, by simpa using hNew⟩
  rcases Option.isSome_iff_exists.mp hSome with ⟨c, hFind⟩
  rcases List.find?_eq_some_iff_append.mp hFind
    with ⟨hc, before, later, rfl, hBefore⟩
  have hMem : c ∈ a.candidates :=
    hOrdering.mem_candidates c (by simp)
  refine ⟨c, hMem, by simpa using hc, ?_⟩
  have hSound := hOrdering.soundFrom
  rw [List.map_append, List.map_cons] at hSound
  intro x hx
  rcases Plan.mem_boundAfter.mp (hSound.append_cons x hx) with
    hStart | ⟨f, hf, hxf⟩
  · exact hBinds.1 x hStart
  · rcases List.mem_map.mp hf with ⟨e, he, rfl⟩
    have hResolved : e.set ∈ resolved := by
      simpa using hBefore e he
    exact hBinds.2 e
      (hOrdering.mem_candidates e (List.mem_append_left _ he))
      hResolved x hxf

/- While fewer sets are resolved than there are, one is open. -/
theorem exists_not_mem_of_length_lt
    {resolved : List Nat}
    {n : Nat}
    (h : resolved.length < n) :
    ∃ id < n, id ∉ resolved := by
  by_contra hAll
  push Not at hAll
  have hSubset : List.range n ⊆ resolved := by
    intro id hid
    exact hAll id (List.mem_range.mp hid)
  have hLe :=
    (List.subperm_of_subset List.nodup_range hSubset).length_le
  rw [List.length_range] at hLe
  omega

end Arena

------------------------------------------------------------
-- Rounds
------------------------------------------------------------

namespace Greedy

open Arena

/-
  Over a uniform arena for which some order is possible, the
  rounds succeed from every state that they can reach.
-/
theorem rounds_ok_of_isOrdering
    {m : CostModel Binary64}
    {a : Arena}
    {startVars : VarSet}
    {cs : List Candidate}
    (hUniform : a.IsUniform)
    (hOrdering : a.IsOrdering startVars cs) :
    ∀ (n : Nat) (resolved : List Nat) (bound : VarSet),
      resolved.length + n = a.size →
      a.BindsResolved startVars resolved bound →
        ∃ rs, rounds m n (a.unresolved resolved) bound = .ok rs := by
  intro n
  induction n with
  | zero =>
      intro resolved bound _ _
      exact ⟨[], rfl⟩
  | succ n ih =>
      intro resolved bound hLength hBinds
      have hMay :=
        hOrdering.exists_mayRun hBinds
          (exists_not_mem_of_length_lt (by omega))
      cases hCheapest :
          cheapest?
            ((eligible bound (a.unresolved resolved)).map
              (price m bound)) with
      | none =>
          rcases hMay with ⟨c, hc⟩
          exact absurd hc
            (cheapest?_eligible_eq_none_iff.mp hCheapest c)
      | some p =>
          have hLeast := (isLeast_of_cheapest? hCheapest).1
          rcases ih (resolved ++ [p.candidate.set])
              (bound.insertMany p.candidate.fragment.vars.toList)
              (by
                rw [List.length_append, List.length_singleton]
                omega)
              (hBinds.append_singleton hUniform hLeast.mayRun.1)
            with ⟨later, hLater⟩
          rw [unresolved_append_singleton] at hLater
          exact ⟨_, rounds_succ_eq_ok_iff.mpr
            ⟨p, later, hCheapest, hLater, rfl⟩⟩

end Greedy

------------------------------------------------------------
-- Plans of Lowered Patterns
------------------------------------------------------------

namespace Arena

/- The steps of a run come from a list of candidates. -/
theorem GreedyRun.exists_candidates
    {m : CostModel Binary64}
    {a : Arena}
    {resolved : List Nat}
    {bound : VarSet}
    {steps : List PlanStep}
    (h : GreedyRun m a resolved bound steps) :
    ∃ cs : List Candidate,
      (∀ c ∈ cs, c ∈ a.candidates) ∧
        cs.map Candidate.set = steps.map PlanStep.set ∧
        cs.map Candidate.fragment = steps.map PlanStep.fragment := by
  induction h with
  | done => exact ⟨[], by simp, rfl, rfl⟩
  | step hLeast _ ih =>
      rename_i resolved bound c later _
      rcases ih with ⟨cs, hMem, hSets, hFragments⟩
      refine ⟨c :: cs, ?_, ?_, ?_⟩
      · intro d hd
        rcases List.mem_cons.mp hd with rfl | hd
        · exact hLeast.mayRun.1
        · exact hMem d hd
      · rw [List.map_cons, List.map_cons, hSets]
        rfl
      · rw [List.map_cons, List.map_cons, hFragments]
        rfl

/- A run that takes every set shows an order that is possible. -/
theorem GreedyRun.exists_isOrdering
    {m : CostModel Binary64}
    {a : Arena}
    {startVars : VarSet}
    {steps : List PlanStep}
    (h : GreedyRun m a [] startVars steps)
    (hLength : steps.length = a.size) :
    ∃ cs, a.IsOrdering startVars cs := by
  rcases h.exists_candidates with ⟨cs, hMem, hSets, hFragments⟩
  refine ⟨cs, hMem, ?_, ?_⟩
  · rw [hSets]
    exact h.sets_perm_range hLength
  · rw [hFragments]
    exact h.soundFrom

end Arena

namespace Optimizer

/-
  A pattern with constraints has a plan exactly if its sets can be
  ordered, with a fragment of each, so that every fragment has its
  dependencies bound.
-/
theorem optimize_lower_ok_iff
    (o : Optimizer)
    (p : Pattern)
    (startVars : VarSet)
    (hNonempty : p.lower ≠ []) :
    (∃ plan, o.optimize p.lower startVars = .ok plan) ↔
      ∃ cs, (Arena.build p.lower).IsOrdering startVars cs := by
  constructor
  · rintro ⟨plan, hPlan⟩
    rcases greedyRun_of_optimize hPlan with ⟨hRun, hLength, _⟩
    exact hRun.exists_isOrdering hLength
  · rintro ⟨cs, hOrdering⟩
    have hRounds :
        ∃ rs,
          Greedy.rounds o.model (Arena.build p.lower).size
              ((Arena.build p.lower).unresolved []) startVars =
            .ok rs :=
      Greedy.rounds_ok_of_isOrdering
        (Arena.isUniform_build_lower p) hOrdering
        (Arena.build p.lower).size [] startVars (by simp)
        (Arena.bindsResolved_nil _ _)
    rw [Arena.unresolved_nil] at hRounds
    rcases hRounds with ⟨rs, hRounds⟩
    exact ⟨_, optimize_eq_ok_iff.mpr ⟨hNonempty, rs, hRounds, rfl⟩⟩

/- Two variables whose values are compared with each other. -/
def circularPattern : Pattern where
  clauses :=
    [⟨⟨"a"⟩, [.value (.compare .gt (.var ⟨"b"⟩))]⟩,
     ⟨⟨"b"⟩, [.value (.compare .lt (.var ⟨"a"⟩))]⟩]

/-
  If one of the two is bound from the start, the comparisons can
  be ordered; otherwise they cannot.
-/
theorem optimize_lower_ok_iff_circularPattern :
    circularPattern.lower ≠ [] ∧
      (∃ cs,
        (Arena.build circularPattern.lower).IsOrdering
          (SortedSet.ofList [⟨"b"⟩]) cs) ∧
      ¬ ∃ cs,
        (Arena.build circularPattern.lower).IsOrdering .empty cs := by
  have hNonempty : circularPattern.lower ≠ [] := by decide
  refine ⟨hNonempty, ?_, ?_⟩
  · apply (optimize_lower_ok_iff ⟨.standard, false⟩
      circularPattern (SortedSet.ofList [⟨"b"⟩]) hNonempty).mp
    exact ⟨⟨[⟨.filter (.value (.compare .gt (.var ⟨"b"⟩))) ⟨"a"⟩, 200, 0⟩,
        ⟨.filter (.value (.compare .lt (.var ⟨"a"⟩))) ⟨"b"⟩, 1, 1⟩],
        SortedSet.ofList [⟨"b"⟩], none⟩,
      by decide +kernel⟩
  · intro hOrdering
    rcases (optimize_lower_ok_iff ⟨.standard, false⟩
        circularPattern .empty hNonempty).mpr hOrdering
      with ⟨plan, hPlan⟩
    have hError :
        optimize ⟨.standard, false⟩ circularPattern.lower .empty =
          .error (.cyclic (SortedSet.ofList [⟨"a"⟩, ⟨"b"⟩])) := by
      decide +kernel
    rw [hError] at hPlan
    cases hPlan

end Optimizer

end TraversalPlanner
