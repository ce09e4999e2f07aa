import Mathlib.Data.Set.Card
import TraversalPlanner.Proofs.Plan.GreedyRun
import TraversalPlanner.Proofs.Plan.WaitingCycles

/-
  What a trace tells about the rounds of a planning run.  Tracing
  does not change the steps of a plan, nor whether there is one.
  An entry counts the candidates before its step is taken, and
  lists the variables that are bound after it.

  Main declarations:
    * `Plan.untraced`
    * `Arena.Records`
    * `Greedy.records_getElem`
    * `Plan.Explains`
    * `Optimizer.explains_of_traced`
-/

namespace TraversalPlanner

------------------------------------------------------------
-- Recorded Rounds
------------------------------------------------------------

namespace Arena

/-
  What a round records when some sets are resolved and some
  variables bound before it.
-/
structure Records
    (a : Arena)
    (resolved : List Nat)
    (bound : VarSet)
    (r : Greedy.Round) : Prop where
  candidates_eq : r.candidates = {c | a.MayRun resolved bound c}.ncard
  candidates_pos : 0 < r.candidates
  bound_eq : r.bound = bound.insertMany r.step.fragment.vars.toList

/- As many candidates may run as are eligible and unresolved. -/
theorem length_eligible_unresolved
    (a : Arena)
    (resolved : List Nat)
    (bound : VarSet) :
    (Greedy.eligible bound (a.unresolved resolved)).length =
      {c | a.MayRun resolved bound c}.ncard := by
  have hNodup :
      (Greedy.eligible bound (a.unresolved resolved)).Nodup := by
    unfold Greedy.eligible unresolved
    exact (a.nodup_candidates.filter _).filter _
  have hSet :
      {c | a.MayRun resolved bound c} =
        ((Greedy.eligible bound (a.unresolved resolved)).toFinset :
          Set Candidate) := by
    ext c
    rw [Set.mem_ofPred_eq, Finset.mem_coe, List.mem_toFinset,
      mem_eligible_unresolved_iff]
  rw [hSet, Set.ncard_coe_finset, List.toFinset_card_of_nodup hNodup]

end Arena

namespace Greedy

open Arena

/-
  A round whose cheapest candidate is chosen records how many
  may run, and the variables bound with the chosen one.
-/
theorem records_of_cheapest?
    {m : CostModel Binary64}
    {a : Arena}
    {resolved : List Nat}
    {bound : VarSet}
    {p : PricedCandidate}
    (h :
      cheapest?
          ((eligible bound (a.unresolved resolved)).map (price m bound)) =
        some p) :
    a.Records resolved bound
      ⟨⟨p.candidate.fragment, p.cost, p.candidate.set⟩,
        (eligible bound (a.unresolved resolved)).length,
        bound.insertMany p.candidate.fragment.vars.toList⟩ := by
  have hSome : eligible bound (a.unresolved resolved) ≠ [] := by
    intro hNil
    rw [hNil] at h
    cases h
  exact
    { candidates_eq := length_eligible_unresolved a resolved bound
      candidates_pos := List.length_pos_iff.mpr hSome
      bound_eq := rfl }

/- Each round records what holds after the rounds before it. -/
theorem records_getElem
    {m : CostModel Binary64}
    {a : Arena} :
    ∀ {n : Nat} {resolved : List Nat} {bound : VarSet}
      {rs : List Round},
      rounds m n (a.unresolved resolved) bound = .ok rs →
        ∀ (i : Nat) (hi : i < rs.length),
          a.Records
            (resolved ++ ((rs.map Round.step).take i).map PlanStep.set)
            (Plan.boundAfter bound
              (((rs.map Round.step).take i).map PlanStep.fragment))
            rs[i] := by
  intro n
  induction n with
  | zero =>
      intro resolved bound rs h i hi
      cases h
      cases hi
  | succ n ih =>
      intro resolved bound rs h i hi
      rcases rounds_succ_eq_ok_iff.mp h
        with ⟨p, later, hCheapest, hLater, rfl⟩
      rw [← unresolved_append_singleton] at hLater
      cases i with
      | zero =>
          simpa [Plan.boundAfter] using records_of_cheapest? hCheapest
      | succ i =>
          have hRecords := ih hLater i (by simpa using hi)
          simpa [Plan.boundAfter] using hRecords

end Greedy

------------------------------------------------------------
-- Explained Steps
------------------------------------------------------------

namespace Plan

/- A plan without its trace. -/
def untraced (p : Plan) : Plan :=
  { p with trace := none }

/-
  A trace entry explains a step of a plan: it shows the fragment
  and its cost, counts the candidates that could run after the
  steps before it, and lists in order the variables that are
  bound by the start and by the steps up to this one.
-/
structure Explains
    (p : Plan)
    (a : Arena)
    (i : Nat)
    (hi : i < p.steps.length)
    (t : TraceStep) : Prop where
  chosen_eq : t.chosen = p.steps[i].fragment.render
  cost_eq : t.cost = p.steps[i].cost
  candidates_eq :
    t.candidates =
      {c | a.MayRun ((p.steps.take i).map PlanStep.set)
        (boundAfter p.startVars (p.fragments.take i)) c}.ncard
  candidates_pos : 0 < t.candidates
  bound_sorted : t.bound.Pairwise (· < ·)
  bound_eq :
    ∃ bound : VarSet,
      t.bound = bound.render ∧
        ∀ x, x ∈ bound ↔
          x ∈ p.startVars ∨ ∃ f ∈ p.fragments.take (i + 1), x ∈ f.vars

/- One more fragment binds its variables after the others. -/
theorem boundAfter_take_succ
    {fs : List Fragment}
    {i : Nat}
    (hi : i < fs.length)
    (bound : VarSet) :
    boundAfter bound (fs.take (i + 1)) =
      (boundAfter bound (fs.take i)).insertMany fs[i].vars.toList := by
  rw [List.take_succ_eq_append_getElem hi]
  unfold boundAfter
  rw [List.foldl_append]
  rfl

end Plan

namespace Optimizer

/- The entry of a round explains the step of the round. -/
theorem explains_of_rounds
    {m : CostModel Binary64}
    {a : Arena}
    {n : Nat}
    {rs : List Greedy.Round}
    {plan : Plan}
    (hRounds : Greedy.rounds m n a.candidates plan.startVars = .ok rs)
    (hSteps : plan.steps = rs.map Greedy.Round.step)
    (i : Nat)
    (hi : i < plan.steps.length)
    (hRound : i < rs.length) :
    plan.Explains a i hi (Greedy.traceStep rs[i]) := by
  rw [← Arena.unresolved_nil] at hRounds
  have hRecords := Greedy.records_getElem hRounds i hRound
  rw [← hSteps, List.nil_append] at hRecords
  have hFragments :
      (plan.steps.take i).map PlanStep.fragment =
        plan.fragments.take i :=
    List.map_take
  rw [hFragments] at hRecords
  have hStep : plan.steps[i] = rs[i].step := by
    simp [hSteps]
  have hFragment : i < plan.fragments.length := by
    simpa [Plan.fragments] using hi
  have hBound :
      rs[i].bound =
        Plan.boundAfter plan.startVars (plan.fragments.take (i + 1)) := by
    rw [Plan.boundAfter_take_succ hFragment, hRecords.bound_eq, ← hStep]
    simp [Plan.fragments]
  exact
    { chosen_eq := by rw [hStep]; rfl
      cost_eq := by rw [hStep]; rfl
      candidates_eq := hRecords.candidates_eq
      candidates_pos := hRecords.candidates_pos
      bound_sorted := VarSet.pairwise_render rs[i].bound
      bound_eq :=
        ⟨rs[i].bound, rfl, fun x => by
          rw [hBound]
          exact Plan.mem_boundAfter⟩ }

/-
  Tracing does not change the steps of a plan, nor the error if
  there is none.  The trace has an entry for every step, which
  explains it.
-/
theorem explains_of_traced
    (m : CostModel Binary64)
    (sets : List FragmentSet)
    (startVars : VarSet) :
    (optimize ⟨m, true⟩ sets startVars).map Plan.untraced =
        optimize ⟨m, false⟩ sets startVars ∧
      ∀ plan, optimize ⟨m, true⟩ sets startVars = .ok plan →
        ∃ t, plan.trace = some t ∧
          t.steps.length = plan.steps.length ∧
          ∀ (i : Nat) (hi : i < plan.steps.length)
            (hEntry : i < t.steps.length),
            plan.Explains (Arena.build sets) i hi t.steps[i] := by
  constructor
  · -- the rounds are the same, whether they are traced or not
    unfold optimize
    split
    · rfl
    · dsimp only
      split
      · rfl
      · rfl
  · intro plan h
    rcases optimize_eq_ok_iff.mp h with ⟨_, rs, hRounds, rfl⟩
    refine ⟨Greedy.trace rs, rfl, by simp [Greedy.trace], ?_⟩
    intro i hi hEntry
    have hRound : i < rs.length := by simpa using hi
    have hSome :
        (Greedy.trace rs).steps[i] = Greedy.traceStep rs[i] := by
      simp [Greedy.trace]
    rw [hSome]
    exact explains_of_rounds hRounds rfl i hi hRound

/- The trace of the plan of some sets that wait for a variable. -/
def waitingTrace : PlanTrace where
  steps :=
    [⟨3, "$b[id:V1]", 1, ["$b"], .zero⟩,
     ⟨3, "$a[value:> $b]", 200, ["$a", "$b"], .zero⟩,
     ⟨2, "$a<-[has:title]-$x", 10, ["$a", "$b", "$x"], .zero⟩]
  duration := .zero

/- Its entries explain the steps of the plan. -/
theorem explains_waitingTrace :
    optimize ⟨.standard, true⟩ waitingSets .empty =
        .ok { waitingPlan with trace := some waitingTrace } ∧
      ∀ (i : Nat) (hi : i < waitingPlan.steps.length)
        (hEntry : i < waitingTrace.steps.length),
        waitingPlan.Explains (Arena.build waitingSets) i hi
          waitingTrace.steps[i] := by
  have hPlan :
      optimize ⟨.standard, true⟩ waitingSets .empty =
        .ok { waitingPlan with trace := some waitingTrace } := by
    decide +kernel
  refine ⟨hPlan, ?_⟩
  intro i hi hEntry
  rcases (explains_of_traced .standard waitingSets .empty).2 _ hPlan
    with ⟨_, hTrace, _, hExplains⟩
  cases hTrace
  rcases hExplains i hi hEntry with
    ⟨hChosen, hCost, hCandidates, hPos, hSorted, hBound⟩
  exact ⟨hChosen, hCost, hCandidates, hPos, hSorted, hBound⟩

end Optimizer

end TraversalPlanner
