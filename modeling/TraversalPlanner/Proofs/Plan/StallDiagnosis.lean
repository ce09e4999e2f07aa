import TraversalPlanner.Proofs.Plan.GreedyCompleteness
import TraversalPlanner.Proofs.Plan.WaitingCycles

/-
  Why planning fails.  It fails where a greedy run can take none
  of the candidates that are left, and the error tells what the
  fragments that are left wait for: a cycle of variables if there
  is one, and otherwise all unbound variables they depend on.

  Main declarations:
    * `Stall.Awaits`
    * `Stall.Explains`
    * `Arena.StallsAfter`
    * `Stall.explains_diagnose`
    * `Optimizer.explains_of_optimize`
-/

namespace TraversalPlanner

------------------------------------------------------------
-- Diagnosis
------------------------------------------------------------

namespace Stall

/-
  A residual fragment depends on the first variable, which is not
  bound, and mentions the second one, another unbound variable.
-/
def Awaits
    (bound : VarSet)
    (residual : List Fragment)
    (x y : Var) : Prop :=
  ∃ f ∈ residual,
    x ∈ f.dependencies ∧ x ∉ bound ∧ y ∈ f.vars ∧ y ∉ bound ∧ y ≠ x

/-
  What an error says about residual fragments, none of which can
  run.
-/
structure Explains
    (bound : VarSet)
    (residual : List Fragment)
    (e : PlanningError) : Prop where
  /- every fragment waits for something -/
  blocked : ∀ f ∈ residual, ∃ x ∈ f.dependencies, x ∉ bound
  /- a cycle is reported exactly if there is one -/
  cyclic_iff :
    (∃ xs, e = .cyclic xs) ↔
      ∃ x y, x ≠ y ∧ Var.Mutual (Awaits bound residual) x y
  /- its variables are a whole class, the first one as written -/
  cyclic :
    ∀ xs, e = .cyclic xs →
      xs.IsCycle (Awaits bound residual) ∧
        (∀ ys : VarSet, ys.IsCycle (Awaits bound residual) →
          xs.NotAfter ys) ∧
        xs.render.Pairwise (· < ·)
  /- otherwise all that is waited for is reported, and who waits -/
  unbound :
    (¬ ∃ x y, x ≠ y ∧ Var.Mutual (Awaits bound residual) x y) →
      ∃ xs, e = .unbound xs residual ∧
        (∀ x, x ∈ xs ↔ ∃ f ∈ residual, x ∈ f.dependencies ∧ x ∉ bound) ∧
        xs.render ≠ [] ∧
        xs.render.Pairwise (· < ·)

variable
  {bound : VarSet}
  {residual : List Fragment}

/- The unbound dependencies of a fragment. -/
theorem mem_unboundDependencies_iff
    {f : Fragment}
    {x : Var} :
    x ∈ unboundDependencies bound f ↔ x ∈ f.dependencies ∧ x ∉ bound := by
  simp [unboundDependencies]

/- The missing variables are the unbound dependencies. -/
theorem mem_missing_iff
    {x : Var} :
    x ∈ missing bound residual ↔
      ∃ f ∈ residual, x ∈ f.dependencies ∧ x ∉ bound := by
  unfold missing
  rw [SortedSet.mem_ofList, List.mem_flatMap]
  simp only [mem_unboundDependencies_iff]

/- The edges of the graph of a stall show who awaits whom. -/
theorem edge_waits :
    (waits bound residual).Edge = Awaits bound residual := by
  funext x y
  apply propext
  unfold WaitGraph.Edge waits Awaits
  simp only [List.mem_flatMap, List.mem_map, List.mem_filter,
    mem_unboundDependencies_iff, decide_eq_true_eq, Prod.mk.injEq,
    ← SortedSet.mem_def]
  constructor
  · rintro ⟨f, hf, d, hd, v, hv, rfl, rfl⟩
    exact ⟨f, hf, hd.1, hd.2, hv.1, hv.2.2, hv.2.1⟩
  · rintro ⟨f, hf, hx, hxBound, hy, hyBound, hNe⟩
    exact ⟨f, hf, x, ⟨hx, hxBound⟩, y, ⟨hy, hNe, hyBound⟩, rfl, rfl⟩

/- The diagnosis reports a cycle exactly if two variables are mutual. -/
theorem exists_diagnose_eq_cyclic_iff :
    (∃ xs, diagnose bound residual = .cyclic xs) ↔
      ∃ x y, x ≠ y ∧ Var.Mutual (Awaits bound residual) x y := by
  rw [← edge_waits, ← WaitGraph.exists_isCycle_iff]
  unfold diagnose
  cases hLeast : (waits bound residual).leastCycle? with
  | none =>
      have hNone := WaitGraph.leastCycle?_eq_none_iff.mp hLeast
      simp [hNone]
  | some xs =>
      have hCycle := (WaitGraph.isCycle_of_leastCycle? hLeast).1
      simp only [PlanningError.cyclic.injEq, exists_eq']
      exact iff_of_true trivial ⟨xs, hCycle⟩

/-
  The diagnosis explains a stall, if there are residual fragments
  and all of them wait for something.
-/
theorem explains_diagnose
    (hResidual : residual ≠ [])
    (hBlocked : ∀ f ∈ residual, ∃ x ∈ f.dependencies, x ∉ bound) :
    Explains bound residual (diagnose bound residual) where
  blocked := hBlocked
  cyclic_iff := exists_diagnose_eq_cyclic_iff
  cyclic := by
    intro xs h
    unfold diagnose at h
    split at h
    · rename_i ys hLeast
      rcases WaitGraph.isCycle_of_leastCycle? hLeast with ⟨hCycle, hFirst⟩
      rw [edge_waits] at hCycle hFirst
      rw [← PlanningError.cyclic.inj h]
      exact ⟨hCycle, hFirst, VarSet.pairwise_render ys⟩
    · cases h
  unbound := by
    intro hNone
    rw [← exists_diagnose_eq_cyclic_iff] at hNone
    have hError :
        diagnose bound residual =
          .unbound (missing bound residual) residual := by
      unfold diagnose at hNone ⊢
      split
      · rename_i xs hLeast
        rw [hLeast] at hNone
        exact absurd ⟨xs, rfl⟩ hNone
      · rfl
    refine ⟨missing bound residual, hError, fun x => mem_missing_iff, ?_,
      VarSet.pairwise_render _⟩
    -- the first residual fragment has an unbound dependency
    rcases List.exists_mem_of_ne_nil residual hResidual with ⟨f, hf⟩
    rcases hBlocked f hf with ⟨x, hx, hxBound⟩
    have hMissing : x ∈ missing bound residual :=
      mem_missing_iff.mpr ⟨f, hf, hx, hxBound⟩
    exact List.ne_nil_of_mem (List.mem_map_of_mem hMissing)

end Stall

------------------------------------------------------------
-- Runs that Stall
------------------------------------------------------------

namespace Arena

variable
  {m : CostModel Binary64}
  {a : Arena}

/- The fragments of the sets that steps have not taken, in order. -/
def residual
    (a : Arena)
    (steps : List PlanStep) : List Fragment :=
  (a.unresolved (steps.map PlanStep.set)).map Candidate.fragment

/-
  A greedy run stalls after some steps: there are more sets than
  steps, and no candidate may run.
-/
structure StallsAfter
    (m : CostModel Binary64)
    (a : Arena)
    (startVars : VarSet)
    (steps : List PlanStep) : Prop where
  run : GreedyRun m a [] startVars steps
  incomplete : steps.length < a.size
  stuck :
    ∀ c,
      ¬ a.MayRun (steps.map PlanStep.set)
        (Plan.boundAfter startVars (steps.map PlanStep.fragment)) c

/- There is only one least candidate. -/
theorem IsLeast.unique
    {resolved : List Nat}
    {bound : VarSet}
    {c d : Candidate}
    (hc : a.IsLeast m resolved bound c)
    (hd : a.IsLeast m resolved bound d) :
    c = d := by
  by_contra hNe
  have hcd := hc.order_lt d hd.mayRun (Ne.symm hNe)
  have hdc := hd.order_lt c hc.mayRun hNe
  have hSwap :
      (Greedy.price m bound c).order (Greedy.price m bound d) =
        ((Greedy.price m bound d).order (Greedy.price m bound c)).swap :=
    Std.OrientedCmp.eq_swap
  rw [hSwap, hdc] at hcd
  cases hcd

/-
  Two greedy runs from the same state that get stuck take the same
  steps.
-/
theorem GreedyRun.eq_of_stuck
    {resolved : List Nat}
    {bound : VarSet}
    {steps others : List PlanStep}
    (h : GreedyRun m a resolved bound steps)
    (hStuck :
      ∀ c,
        ¬ a.MayRun (resolved ++ steps.map PlanStep.set)
          (Plan.boundAfter bound (steps.map PlanStep.fragment)) c)
    (hOther : GreedyRun m a resolved bound others)
    (hOtherStuck :
      ∀ c,
        ¬ a.MayRun (resolved ++ others.map PlanStep.set)
          (Plan.boundAfter bound (others.map PlanStep.fragment)) c) :
    others = steps := by
  induction h generalizing others with
  | done =>
      rename_i resolved bound
      cases hOther with
      | done => rfl
      | step hLeast _ =>
          exact absurd hLeast.mayRun (by simpa [Plan.boundAfter] using hStuck _)
  | step hLeast _ ih =>
      rename_i resolved bound c later _
      cases hOther with
      | done =>
          exact absurd hLeast.mayRun
            (by simpa [Plan.boundAfter] using hOtherStuck _)
      | step hOtherLeast hLater =>
          obtain rfl := hLeast.unique hOtherLeast
          rw [ih (by simpa [stepOf, Plan.boundAfter] using hStuck) hLater
            (by simpa [stepOf, Plan.boundAfter] using hOtherStuck)]

/- A greedy run stalls in one place only. -/
theorem StallsAfter.unique
    {startVars : VarSet}
    {steps others : List PlanStep}
    (h : a.StallsAfter m startVars steps)
    (hOther : a.StallsAfter m startVars others) :
    others = steps :=
  h.run.eq_of_stuck h.stuck hOther.run hOther.stuck

/- The residual fragments of a stall all wait for something. -/
theorem StallsAfter.exists_unbound
    {startVars : VarSet}
    {steps : List PlanStep}
    (h : a.StallsAfter m startVars steps) :
    ∀ f ∈ a.residual steps,
      ∃ x ∈ f.dependencies,
        x ∉ Plan.boundAfter startVars (steps.map PlanStep.fragment) := by
  intro f hf
  rcases List.mem_map.mp hf with ⟨c, hc, rfl⟩
  rcases List.mem_filter.mp hc with ⟨hMem, hOpen⟩
  by_contra hAll
  push Not at hAll
  exact h.stuck c ⟨hMem, by simpa using hOpen, hAll⟩

/- A stall leaves fragments. -/
theorem StallsAfter.residual_ne_nil
    {startVars : VarSet}
    {steps : List PlanStep}
    (h : a.StallsAfter m startVars steps) :
    a.residual steps ≠ [] := by
  have hLength : (steps.map PlanStep.set).length < a.size := by
    rw [List.length_map]
    exact h.incomplete
  rcases exists_not_mem_of_length_lt hLength with ⟨id, hid, hOpen⟩
  have hSome : a.sets[id]?.isSome = true := by
    simpa [Arena.size] using hid
  rcases Option.isSome_iff_exists.mp hSome with ⟨s, hSet⟩
  have hMem : Candidate.mk id 0 s.first ∈ a.candidates :=
    mem_candidates_iff.mpr ⟨s, hSet, rfl⟩
  have hUnresolved :
      Candidate.mk id 0 s.first ∈
        a.unresolved (steps.map PlanStep.set) :=
    List.mem_filter.mpr ⟨hMem, by simpa using hOpen⟩
  exact List.ne_nil_of_mem (List.mem_map_of_mem hUnresolved)

end Arena

------------------------------------------------------------
-- Rounds that Fail
------------------------------------------------------------

namespace Greedy

open Arena

/- What a round that fails does. -/
theorem rounds_succ_eq_error_iff
    {m : CostModel Binary64}
    {n : Nat}
    {remaining : List Candidate}
    {bound : VarSet}
    {e : PlanningError} :
    rounds m (n + 1) remaining bound = .error e ↔
      (cheapest? ((eligible bound remaining).map (price m bound)) = none ∧
        e = Stall.diagnose bound (remaining.map Candidate.fragment)) ∨
      ∃ p,
        cheapest? ((eligible bound remaining).map (price m bound)) =
            some p ∧
          rounds m n
              (remaining.filter fun d =>
                decide (d.set ≠ p.candidate.set))
              (bound.insertMany p.candidate.fragment.vars.toList) =
            .error e := by
  rw [rounds]
  cases hCheapest :
      cheapest? ((eligible bound remaining).map (price m bound)) with
  | none => simp [eq_comm]
  | some p =>
      simp only [reduceCtorEq, false_and, false_or, Option.some.injEq,
        exists_eq_left']
      split
      · rename_i hLater
        rw [hLater]
      · rename_i hLater
        rw [hLater]
        simp

/-
  Rounds that fail are a greedy run up to a state in which no
  candidate may run, and the error is the diagnosis there.
-/
theorem exists_stall_of_rounds
    {m : CostModel Binary64}
    {a : Arena}
    {e : PlanningError} :
    ∀ {n : Nat} {resolved : List Nat} {bound : VarSet},
      rounds m n (a.unresolved resolved) bound = .error e →
        ∃ steps : List PlanStep,
          GreedyRun m a resolved bound steps ∧
            steps.length < n ∧
            (∀ c,
              ¬ a.MayRun (resolved ++ steps.map PlanStep.set)
                (Plan.boundAfter bound (steps.map PlanStep.fragment)) c) ∧
            e =
              Stall.diagnose
                (Plan.boundAfter bound (steps.map PlanStep.fragment))
                ((a.unresolved
                  (resolved ++ steps.map PlanStep.set)).map
                    Candidate.fragment) := by
  intro n
  induction n with
  | zero =>
      intro resolved bound h
      cases h
  | succ n ih =>
      intro resolved bound h
      rcases rounds_succ_eq_error_iff.mp h
        with ⟨hNone, hError⟩ | ⟨p, hCheapest, hLater⟩
      · rw [cheapest?_eligible_eq_none_iff] at hNone
        refine ⟨[], .done, Nat.succ_pos n, ?_, ?_⟩
        · simpa [Plan.boundAfter] using hNone
        · simpa [Plan.boundAfter] using hError
      · rcases isLeast_of_cheapest? hCheapest with ⟨hLeast, _⟩
        rw [← unresolved_append_singleton] at hLater
        rcases ih hLater with ⟨steps, hRun, hLength, hStuck, hError⟩
        refine ⟨stepOf m bound p.candidate :: steps, .step hLeast hRun,
          Nat.succ_lt_succ hLength, ?_, ?_⟩
        · simpa [stepOf, Plan.boundAfter] using hStuck
        · simpa [stepOf, Plan.boundAfter] using hError

end Greedy

------------------------------------------------------------
-- Planning Errors
------------------------------------------------------------

namespace Optimizer

/- Planning that fails is over with the diagnosis of a stall. -/
theorem exists_stallsAfter_of_optimize
    {o : Optimizer}
    {sets : List FragmentSet}
    {startVars : VarSet}
    {e : PlanningError}
    (hSets : sets ≠ [])
    (h : o.optimize sets startVars = .error e) :
    ∃ steps,
      (Arena.build sets).StallsAfter o.model startVars steps ∧
        e =
          Stall.diagnose
            (Plan.boundAfter startVars (steps.map PlanStep.fragment))
            ((Arena.build sets).residual steps) := by
  have hRounds :
      Greedy.rounds o.model (Arena.build sets).size
          ((Arena.build sets).unresolved []) startVars =
        .error e := by
    rw [Arena.unresolved_nil]
    unfold optimize at h
    rw [if_neg (by simpa using hSets)] at h
    cases hRounds :
        Greedy.rounds o.model (Arena.build sets).size
          (Arena.build sets).candidates startVars with
    | error f =>
        simp only [hRounds] at h
        rw [Except.error.inj h]
    | ok rs =>
        simp only [hRounds] at h
        cases h
  rcases Greedy.exists_stall_of_rounds hRounds
    with ⟨steps, hRun, hLength, hStuck, hError⟩
  rw [List.nil_append] at hStuck hError
  exact ⟨steps, ⟨hRun, hLength, hStuck⟩, hError⟩

/-
  If planning of some sets fails, greedy planning stalls after
  certain steps, and the error explains why: each residual fragment
  waits for an unbound variable; a cycle is reported exactly if two
  different variables await each other, and then it is a whole
  class of such variables, the first one by its written names; and
  otherwise all unbound dependencies are reported, with all
  residual fragments.
-/
theorem explains_of_optimize
    {o : Optimizer}
    {sets : List FragmentSet}
    {startVars : VarSet}
    {e : PlanningError}
    (hSets : sets ≠ [])
    (h : o.optimize sets startVars = .error e) :
    ∃ steps,
      (Arena.build sets).StallsAfter o.model startVars steps ∧
        (∀ others,
          (Arena.build sets).StallsAfter o.model startVars others →
            others = steps) ∧
        Stall.Explains
          (Plan.boundAfter startVars (steps.map PlanStep.fragment))
          ((Arena.build sets).residual steps)
          e := by
  rcases exists_stallsAfter_of_optimize hSets h with ⟨steps, hStall, hError⟩
  refine ⟨steps, hStall, fun others => hStall.unique, ?_⟩
  rw [hError]
  exact Stall.explains_diagnose hStall.residual_ne_nil hStall.exists_unbound

/-
  A variable that an index looks up, two pairs of comparisons that
  wait for each other, and a comparison that waits for one of them.
-/
def deadlockedSets : List FragmentSet :=
  [⟨.filter (.value (.compare .gt (.var ⟨"y"⟩))) ⟨"x"⟩, []⟩,
   ⟨.filter (.value (.compare .lt (.var ⟨"x"⟩))) ⟨"y"⟩, []⟩,
   ⟨.filter (.value (.compare .gt (.var ⟨"b"⟩))) ⟨"a"⟩, []⟩,
   ⟨.filter (.id "V1") ⟨"c"⟩, []⟩,
   ⟨.filter (.value (.compare .lt (.var ⟨"a"⟩))) ⟨"b"⟩, []⟩,
   ⟨.filter (.value (.compare .eq (.var ⟨"x"⟩))) ⟨"a"⟩, []⟩]

/- The pair that comes first is reported. -/
theorem explains_of_optimize_deadlockedSets :
    deadlockedSets ≠ [] ∧
      optimize ⟨.standard, false⟩ deadlockedSets .empty =
        .error (.cyclic (.ofList [⟨"a"⟩, ⟨"b"⟩])) ∧
      ∃ steps,
        (Arena.build deadlockedSets).StallsAfter .standard .empty steps ∧
          (∀ others,
            (Arena.build deadlockedSets).StallsAfter .standard .empty
                others →
              others = steps) ∧
          Stall.Explains
            (Plan.boundAfter .empty (steps.map PlanStep.fragment))
            ((Arena.build deadlockedSets).residual steps)
            (.cyclic (.ofList [⟨"a"⟩, ⟨"b"⟩])) := by
  have hSets : deadlockedSets ≠ [] := List.cons_ne_nil _ _
  have hError :
      optimize ⟨.standard, false⟩ deadlockedSets .empty =
        .error (.cyclic (.ofList [⟨"a"⟩, ⟨"b"⟩])) := by
    decide +kernel
  have hExplains := explains_of_optimize hSets hError
  exact ⟨hSets, hError, hExplains⟩

end Optimizer

end TraversalPlanner
