import Mathlib.Data.List.Perm.Subperm
import TraversalPlanner.Proofs.Plan.ArenaCandidates
import TraversalPlanner.Proofs.Plan.CandidateOrder

/-
  Greedy planning as a run over an arena.  In every round it
  takes the least candidate of all that may run, and a plan is a
  run that has taken one candidate from every set.

  Main declarations:
    * `Arena.MayRun`
    * `Arena.IsLeast`
    * `Arena.GreedyRun`
    * `Greedy.greedyRun_of_rounds`
    * `Optimizer.greedy_of_optimize`
-/

namespace TraversalPlanner

------------------------------------------------------------
-- Bound Variables
------------------------------------------------------------

namespace Plan

/- Fragments bind their variables and keep those bound before. -/
theorem mem_boundAfter
    {fs : List Fragment} :
    ∀ {bound : VarSet} {x : Var},
      x ∈ boundAfter bound fs ↔
        x ∈ bound ∨ ∃ f ∈ fs, x ∈ f.vars := by
  induction fs with
  | nil =>
      intro bound x
      simp [boundAfter]
  | cons f fs ih =>
      intro bound x
      have hStep :
          boundAfter bound (f :: fs) =
            boundAfter (bound.insertMany f.vars.toList) fs := rfl
      rw [hStep, ih, SortedSet.mem_insertMany, ← SortedSet.mem_def]
      simp only [List.mem_cons, exists_eq_or_imp]
      tauto

/- Sound fragments have their dependencies bound when they run. -/
theorem SoundFrom.append_cons
    {before later : List Fragment}
    {f : Fragment} :
    ∀ {bound : VarSet},
      SoundFrom bound (before ++ f :: later) →
        (boundAfter bound before).ContainsAll f.dependencies := by
  induction before with
  | nil =>
      intro bound h
      exact h.1
  | cons g before ih =>
      intro bound h
      exact ih h.2

end Plan

------------------------------------------------------------
-- Least Candidates
------------------------------------------------------------

namespace Arena

/-
  A candidate may run: its set is not resolved, and its
  dependencies are bound.
-/
def MayRun
    (a : Arena)
    (resolved : List Nat)
    (bound : VarSet)
    (c : Candidate) : Prop :=
  c ∈ a.candidates ∧ c.set ∉ resolved ∧
    bound.ContainsAll c.fragment.dependencies

/-
  A candidate that may run and is ordered before every other one
  that may run.
-/
structure IsLeast
    (m : CostModel Binary64)
    (a : Arena)
    (resolved : List Nat)
    (bound : VarSet)
    (c : Candidate) : Prop where
  mayRun : a.MayRun resolved bound c
  order_lt :
    ∀ d, a.MayRun resolved bound d → d ≠ c →
      (Greedy.price m bound c).order (Greedy.price m bound d) = .lt

/- The candidates of sets that are not resolved. -/
def unresolved
    (a : Arena)
    (resolved : List Nat) : List Candidate :=
  a.candidates.filter fun c => decide (c.set ∉ resolved)

/- At first all candidates are unresolved. -/
theorem unresolved_nil (a : Arena) :
    a.unresolved [] = a.candidates := by
  simp [unresolved]

/- Resolving one more set removes its candidates. -/
theorem unresolved_append_singleton
    (a : Arena)
    (resolved : List Nat)
    (id : Nat) :
    a.unresolved (resolved ++ [id]) =
      (a.unresolved resolved).filter fun c => decide (c.set ≠ id) := by
  unfold unresolved
  rw [List.filter_filter]
  apply List.filter_congr
  intro c _
  simp [and_comm]

/- The eligible unresolved candidates are those that may run. -/
theorem mem_eligible_unresolved_iff
    {a : Arena}
    {resolved : List Nat}
    {bound : VarSet}
    {c : Candidate} :
    c ∈ Greedy.eligible bound (a.unresolved resolved) ↔
      a.MayRun resolved bound c := by
  simp only [Greedy.eligible, unresolved, MayRun, List.mem_filter,
    decide_eq_true_eq]
  tauto

/- The cheapest candidate of a round is the least that may run. -/
theorem isLeast_of_cheapest?
    {m : CostModel Binary64}
    {a : Arena}
    {resolved : List Nat}
    {bound : VarSet}
    {p : PricedCandidate}
    (h :
      Greedy.cheapest?
          ((Greedy.eligible bound (a.unresolved resolved)).map
            (Greedy.price m bound)) =
        some p) :
    a.IsLeast m resolved bound p.candidate ∧
      p = Greedy.price m bound p.candidate := by
  rcases List.mem_map.mp (Greedy.mem_of_cheapest? h) with ⟨c, hc, rfl⟩
  have hMay := mem_eligible_unresolved_iff.mp hc
  refine ⟨⟨hMay, ?_⟩, rfl⟩
  intro d hd hne
  have hLe :=
    Greedy.order_isLE_of_cheapest? h
      (List.mem_map_of_mem (mem_eligible_unresolved_iff.mpr hd))
  rcases Ordering.isLE_iff_eq_lt_or_eq_eq.mp hLe with hLt | hEq
  · exact hLt
  · -- a tie would mean the same numbers, so the same candidate
    rcases PricedCandidate.numbers_eq_of_order_eq hEq
      with ⟨hSet, hIndex⟩
    exact absurd
      (candidate_eq_of_numbers_eq hd.1 hMay.1 hSet.symm hIndex.symm)
      hne

/- Nothing is cheapest exactly if nothing may run. -/
theorem cheapest?_eligible_eq_none_iff
    {m : CostModel Binary64}
    {a : Arena}
    {resolved : List Nat}
    {bound : VarSet} :
    Greedy.cheapest?
          ((Greedy.eligible bound (a.unresolved resolved)).map
            (Greedy.price m bound)) =
        none ↔
      ∀ c, ¬ a.MayRun resolved bound c := by
  rw [Greedy.cheapest?_eq_none_iff, List.map_eq_nil_iff,
    List.eq_nil_iff_forall_not_mem]
  simp only [mem_eligible_unresolved_iff]

------------------------------------------------------------
-- Runs
------------------------------------------------------------

/- The step that a candidate becomes when it is chosen. -/
def stepOf
    (m : CostModel Binary64)
    (bound : VarSet)
    (c : Candidate) : PlanStep :=
  ⟨c.fragment, m.cost bound c.fragment, c.set⟩

/-
  Steps that take the least candidate in every round, when some
  sets are resolved and some variables bound beforehand.
-/
inductive GreedyRun
    (m : CostModel Binary64)
    (a : Arena) :
    (resolved : List Nat) →
    (bound : VarSet) →
    List PlanStep →
    Prop where
| done
    {resolved : List Nat}
    {bound : VarSet} :
    GreedyRun m a resolved bound []
| step
    {resolved : List Nat}
    {bound : VarSet}
    {c : Candidate}
    {later : List PlanStep} :
    a.IsLeast m resolved bound c →
    GreedyRun m a (resolved ++ [c.set])
      (bound.insertMany c.fragment.vars.toList) later →
    GreedyRun m a resolved bound (stepOf m bound c :: later)

namespace GreedyRun

variable {m : CostModel Binary64} {a : Arena}

/- The fragments of a run have their dependencies bound. -/
theorem soundFrom
    {resolved : List Nat}
    {bound : VarSet}
    {steps : List PlanStep}
    (h : GreedyRun m a resolved bound steps) :
    Plan.SoundFrom bound (steps.map PlanStep.fragment) := by
  induction h with
  | done => exact trivial
  | step hLeast _ ih => exact ⟨hLeast.mayRun.2.2, ih⟩

/-
  Each step is the least candidate that may run after the steps
  before it.
-/
theorem isLeast_getElem
    {resolved : List Nat}
    {bound : VarSet}
    {steps : List PlanStep}
    (h : GreedyRun m a resolved bound steps) :
    ∀ (i : Nat) (hi : i < steps.length),
      ∃ c,
        a.IsLeast m
            (resolved ++ (steps.take i).map PlanStep.set)
            (Plan.boundAfter bound
              ((steps.take i).map PlanStep.fragment))
            c ∧
          steps[i] =
            stepOf m
              (Plan.boundAfter bound
                ((steps.take i).map PlanStep.fragment))
              c := by
  induction h with
  | done =>
      intro i hi
      cases hi
  | step hLeast _ ih =>
      rename_i resolved bound c later _
      intro i hi
      cases i with
      | zero =>
          refine ⟨c, ?_, rfl⟩
          simpa [Plan.boundAfter] using hLeast
      | succ i =>
          rcases ih i (by simpa using hi) with ⟨d, hd, hStep⟩
          refine ⟨d, ?_, hStep⟩
          simpa [stepOf, Plan.boundAfter] using hd

/- A run takes sets that were not resolved, each of them once. -/
theorem sets_nodup
    {resolved : List Nat}
    {bound : VarSet}
    {steps : List PlanStep}
    (h : GreedyRun m a resolved bound steps) :
    (steps.map PlanStep.set).Nodup ∧
      ∀ s ∈ steps, s.set ∉ resolved := by
  induction h with
  | done => simp
  | step hLeast _ ih =>
      rename_i resolved bound c later _
      rcases ih with ⟨hNodup, hNew⟩
      constructor
      · refine List.nodup_cons.mpr ⟨?_, hNodup⟩
        intro hMem
        rcases List.mem_map.mp hMem with ⟨s, hs, hSet⟩
        apply hNew s hs
        rw [hSet]
        simp [stepOf]
      · intro s hs
        rcases List.mem_cons.mp hs with rfl | hs
        · exact hLeast.mayRun.2.1
        · intro hMem
          exact hNew s hs (List.mem_append_left _ hMem)

/- Every step of a run comes from a candidate. -/
theorem exists_candidate
    {resolved : List Nat}
    {bound : VarSet}
    {steps : List PlanStep}
    (h : GreedyRun m a resolved bound steps) :
    ∀ s ∈ steps,
      ∃ c ∈ a.candidates, c.set = s.set ∧ c.fragment = s.fragment := by
  induction h with
  | done => simp
  | step hLeast _ ih =>
      rename_i resolved bound c later _
      intro s hs
      rcases List.mem_cons.mp hs with rfl | hs
      · exact ⟨c, hLeast.mayRun.1, rfl, rfl⟩
      · exact ih s hs

/- A run with as many steps as there are sets takes every set. -/
theorem sets_perm_range
    {bound : VarSet}
    {steps : List PlanStep}
    (h : GreedyRun m a [] bound steps)
    (hLength : steps.length = a.size) :
    (steps.map PlanStep.set).Perm (List.range a.size) := by
  have hSubset : steps.map PlanStep.set ⊆ List.range a.size := by
    intro id hid
    rcases List.mem_map.mp hid with ⟨s, hs, rfl⟩
    rcases h.exists_candidate s hs with ⟨c, hc, hSet, _⟩
    rw [← hSet]
    exact List.mem_range.mpr (set_lt_size hc)
  apply (List.subperm_of_subset h.sets_nodup.1 hSubset).perm_of_length_le
  simp [hLength]

end GreedyRun

end Arena

------------------------------------------------------------
-- Rounds
------------------------------------------------------------

namespace Greedy

open Arena

/- What a round that succeeds does. -/
theorem rounds_succ_eq_ok_iff
    {m : CostModel Binary64}
    {n : Nat}
    {remaining : List Candidate}
    {bound : VarSet}
    {rs : List Round} :
    rounds m (n + 1) remaining bound = .ok rs ↔
      ∃ p later,
        cheapest? ((eligible bound remaining).map (price m bound)) =
            some p ∧
          rounds m n
              (remaining.filter fun d =>
                decide (d.set ≠ p.candidate.set))
              (bound.insertMany p.candidate.fragment.vars.toList) =
            .ok later ∧
          rs =
            ⟨⟨p.candidate.fragment, p.cost, p.candidate.set⟩,
              (eligible bound remaining).length,
              bound.insertMany p.candidate.fragment.vars.toList⟩ ::
              later := by
  rw [rounds]
  cases hCheapest :
      cheapest? ((eligible bound remaining).map (price m bound)) with
  | none => simp
  | some p =>
      constructor
      · intro h
        simp only [List.length_map] at h
        split at h
        · cases h
        · rename_i later hLater
          cases h
          exact ⟨p, later, rfl, hLater, rfl⟩
      · rintro ⟨q, later, hq, hLater, rfl⟩
        cases hq
        simp only [hLater, List.length_map]

/- Rounds that succeed are a greedy run with one step a round. -/
theorem greedyRun_of_rounds
    {m : CostModel Binary64}
    {a : Arena} :
    ∀ {n : Nat} {resolved : List Nat} {bound : VarSet}
      {rs : List Round},
      rounds m n (a.unresolved resolved) bound = .ok rs →
        GreedyRun m a resolved bound (rs.map Round.step) ∧
          rs.length = n := by
  intro n
  induction n with
  | zero =>
      intro resolved bound rs h
      cases h
      exact ⟨.done, rfl⟩
  | succ n ih =>
      intro resolved bound rs h
      rcases rounds_succ_eq_ok_iff.mp h
        with ⟨p, later, hCheapest, hLater, rfl⟩
      rcases isLeast_of_cheapest? hCheapest with ⟨hLeast, hPrice⟩
      rw [← unresolved_append_singleton] at hLater
      rcases ih hLater with ⟨hRun, hLength⟩
      refine ⟨?_, by simp [hLength]⟩
      have hCost :
          p.cost = m.cost bound p.candidate.fragment :=
        congrArg PricedCandidate.cost hPrice
      simp only [List.map_cons, hCost]
      exact .step hLeast hRun

end Greedy

------------------------------------------------------------
-- Plans
------------------------------------------------------------

namespace Optimizer

/- A plan records the rounds over the arena of its sets. -/
theorem optimize_eq_ok_iff
    {o : Optimizer}
    {sets : List FragmentSet}
    {startVars : VarSet}
    {plan : Plan} :
    o.optimize sets startVars = .ok plan ↔
      sets ≠ [] ∧
        ∃ rs,
          Greedy.rounds o.model (Arena.build sets).size
                (Arena.build sets).candidates startVars =
              .ok rs ∧
            plan =
              { steps := rs.map Greedy.Round.step
                startVars := startVars
                trace :=
                  if o.traced then some (Greedy.trace rs) else none } := by
  unfold optimize
  cases sets with
  | nil => simp
  | cons s sets =>
      simp only [List.isEmpty_cons, Bool.false_eq_true, if_false]
      constructor
      · intro h
        split at h
        · cases h
        · rename_i rs hRounds
          cases h
          exact ⟨by simp, rs, hRounds, rfl⟩
      · rintro ⟨_, rs, hRounds, rfl⟩
        simp only [hRounds]

/- The steps of a plan are a greedy run that takes every set. -/
theorem greedyRun_of_optimize
    {o : Optimizer}
    {sets : List FragmentSet}
    {startVars : VarSet}
    {plan : Plan}
    (h : o.optimize sets startVars = .ok plan) :
    (Arena.build sets).GreedyRun o.model [] startVars plan.steps ∧
      plan.steps.length = (Arena.build sets).size ∧
        plan.startVars = startVars := by
  rcases optimize_eq_ok_iff.mp h with ⟨_, rs, hRounds, rfl⟩
  rw [← Arena.unresolved_nil] at hRounds
  rcases Greedy.greedyRun_of_rounds hRounds with ⟨hRun, hLength⟩
  exact ⟨hRun, by simp [hLength], rfl⟩

/-
  A plan takes every set of its arena once, by a fragment of that
  set.  Each step runs when its dependencies are bound by the
  start variables and the steps before it, records its cost at
  that time, and is the least of all candidates that may run
  then.
-/
theorem greedy_of_optimize
    {o : Optimizer}
    {sets : List FragmentSet}
    {startVars : VarSet}
    {plan : Plan}
    (h : o.optimize sets startVars = .ok plan) :
    (plan.steps.map PlanStep.set).Perm
        (List.range (Arena.build sets).size) ∧
      (∀ s ∈ plan.steps,
        ∃ t, (Arena.build sets).set s.set = .ok t ∧
          s.fragment ∈ t.fragments) ∧
      (∀ (i : Nat) (hi : i < plan.steps.length) (bound : VarSet),
        bound = Plan.boundAfter startVars (plan.fragments.take i) →
          bound.ContainsAll plan.steps[i].fragment.dependencies ∧
            plan.steps[i].cost =
              o.model.cost bound plan.steps[i].fragment ∧
            ∃ c : Candidate,
              c.fragment = plan.steps[i].fragment ∧
                c.set = plan.steps[i].set ∧
                (Arena.build sets).IsLeast o.model
                  ((plan.steps.take i).map PlanStep.set) bound c) ∧
      plan.IsSound ∧
      plan.startVars = startVars := by
  rcases greedyRun_of_optimize h with ⟨hRun, hLength, hStart⟩
  refine ⟨hRun.sets_perm_range hLength, ?_, ?_, ?_, hStart⟩
  · intro s hs
    rcases hRun.exists_candidate s hs with ⟨c, hc, hSet, hFragment⟩
    rw [← hSet, ← hFragment]
    exact Arena.exists_set_of_mem_candidates hc
  · rintro i hi bound rfl
    rcases hRun.isLeast_getElem i hi with ⟨c, hLeast, hStep⟩
    rw [List.nil_append] at hLeast
    have hTake :
        (plan.steps.take i).map PlanStep.fragment =
          plan.fragments.take i := by
      simp [Plan.fragments, List.map_take]
    rw [hTake] at hLeast hStep
    rw [hStep]
    exact ⟨hLeast.mayRun.2.2, rfl, c, rfl, rfl, hLeast⟩
  · unfold Plan.IsSound
    rw [hStart]
    exact hRun.soundFrom

/-
  A comparison that waits for a variable, an edge that is stated
  twice, and the variable that the comparison waits for.
-/
def waitingSets : List FragmentSet :=
  [⟨.filter (.value (.compare .gt (.var ⟨"b"⟩))) ⟨"a"⟩, []⟩,
   ⟨.step (.has "title") .outward ⟨"x"⟩ ⟨"a"⟩,
    [.step (.has "title") .inward ⟨"a"⟩ ⟨"x"⟩]⟩,
   ⟨.filter (.id "V1") ⟨"b"⟩, []⟩,
   ⟨.step (.has "title") .inward ⟨"a"⟩ ⟨"x"⟩,
    [.step (.has "title") .outward ⟨"x"⟩ ⟨"a"⟩]⟩]

/- The plan of these sets. -/
def waitingPlan : Plan where
  steps :=
    [⟨.filter (.id "V1") ⟨"b"⟩, 1, 2⟩,
     ⟨.filter (.value (.compare .gt (.var ⟨"b"⟩))) ⟨"a"⟩, 200, 0⟩,
     ⟨.step (.has "title") .inward ⟨"a"⟩ ⟨"x"⟩, 10, 1⟩]
  startVars := .empty
  trace := none

/- The comparison runs after the variable that it waits for. -/
theorem greedy_of_optimize_waitingSets :
    optimize ⟨.standard, false⟩ waitingSets .empty =
        .ok waitingPlan ∧
      (waitingPlan.steps.map PlanStep.set).Perm
        (List.range (Arena.build waitingSets).size) ∧
      waitingPlan.IsSound := by
  have hPlan :
      optimize ⟨.standard, false⟩ waitingSets .empty =
        .ok waitingPlan := by
    decide +kernel
  have hGreedy := greedy_of_optimize hPlan
  exact ⟨hPlan, hGreedy.1, hGreedy.2.2.2.1⟩

end Optimizer

end TraversalPlanner
