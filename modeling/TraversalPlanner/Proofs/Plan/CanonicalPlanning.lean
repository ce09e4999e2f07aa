import TraversalPlanner.Proofs.Plan.CanonicalFragment
import TraversalPlanner.Proofs.Plan.GreedyRun

/-
  Planning does not depend on which words stand for no number:
  the plan of canonical sets is the canonical plan of the sets.

  Main declarations:
    * `Arena.build_canonical`
    * `Greedy.rounds_canonical_eq_ok_iff`
    * `Plan.canonical`
    * `Optimizer.optimize_canonical_eq_ok_iff`
-/

namespace TraversalPlanner

------------------------------------------------------------
-- Arenas
------------------------------------------------------------

namespace Candidate

/- A candidate with a canonical fragment. -/
def canonical (c : Candidate) : Candidate :=
  { c with fragment := c.fragment.canonical }

end Candidate

namespace Arena

/- Canonical sets are registered at the same places. -/
theorem register_canonical
    (known : List FragmentSet)
    (s : FragmentSet) :
    register (known.map FragmentSet.canonical) s.canonical =
      (register known s).map FragmentSet.canonical := by
  have hDuplicate :
      (∃ k ∈ known.map FragmentSet.canonical,
          k.Duplicates s.canonical) ↔
        ∃ k ∈ known, k.Duplicates s := by
    simp [FragmentSet.duplicates_canonical]
  unfold register
  by_cases h : ∃ k ∈ known, k.Duplicates s
  · rw [if_pos h, if_pos (hDuplicate.mpr h)]
  · rw [if_neg h, if_neg (fun h' => h (hDuplicate.mp h'))]
    simp

/- Registering canonical sets one after the other. -/
theorem foldl_register_canonical
    {sets : List FragmentSet} :
    ∀ known : List FragmentSet,
      (sets.map FragmentSet.canonical).foldl register
          (known.map FragmentSet.canonical) =
        (sets.foldl register known).map FragmentSet.canonical := by
  induction sets with
  | nil =>
      intro known
      rfl
  | cons s sets ih =>
      intro known
      rw [List.map_cons, List.foldl_cons, List.foldl_cons,
        register_canonical, ih]

/- The arena of canonical sets. -/
theorem build_canonical (sets : List FragmentSet) :
    (build (sets.map FragmentSet.canonical)).sets =
      (build sets).sets.map FragmentSet.canonical :=
  foldl_register_canonical []

/- The arena of canonical sets is as large. -/
theorem size_build_canonical (sets : List FragmentSet) :
    (build (sets.map FragmentSet.canonical)).size =
      (build sets).size := by
  unfold size
  rw [build_canonical, List.length_map]

/- The candidates of canonical sets. -/
theorem candidates_canonical (sets : List FragmentSet) :
    (Arena.mk (sets.map FragmentSet.canonical)).candidates =
      (Arena.mk sets).candidates.map Candidate.canonical := by
  simp [candidates, List.zipIdx_map, List.flatMap_map, List.map_flatMap,
    Function.comp_def, Candidate.canonical]

end Arena

------------------------------------------------------------
-- Rounds
------------------------------------------------------------

namespace PricedCandidate

/- A priced candidate with a canonical fragment. -/
def canonical (p : PricedCandidate) : PricedCandidate :=
  { p with candidate := p.candidate.canonical }

/- Canonical candidates are ordered alike. -/
theorem order_canonical
    (p q : PricedCandidate) :
    p.canonical.order q.canonical = p.order q := by
  simp [order, canonical, Candidate.canonical]

/- Canonical candidates precede each other alike. -/
theorem precedes_canonical
    (p q : PricedCandidate) :
    p.canonical.precedes q.canonical = p.precedes q := by
  unfold precedes
  rw [order_canonical]

end PricedCandidate

namespace Greedy

/- Canonical candidates are eligible at the same times. -/
theorem eligible_canonical
    (bound : VarSet)
    (cs : List Candidate) :
    eligible bound (cs.map Candidate.canonical) =
      (eligible bound cs).map Candidate.canonical := by
  unfold eligible
  rw [List.filter_map]
  simp [Function.comp_def, Candidate.canonical]

/- Canonical candidates cost the same. -/
theorem price_canonical
    (m : CostModel Binary64)
    (bound : VarSet)
    (c : Candidate) :
    price m bound c.canonical = (price m bound c).canonical := by
  simp [price, PricedCandidate.canonical, Candidate.canonical]

/- The cheapest of canonical candidates. -/
theorem cheapest?_canonical (ps : List PricedCandidate) :
    cheapest? (ps.map PricedCandidate.canonical) =
      (cheapest? ps).map PricedCandidate.canonical := by
  have hFold : ∀ (ps : List PricedCandidate) (p : PricedCandidate),
      (ps.map PricedCandidate.canonical).foldl
          (fun p q => if q.precedes p then q else p) p.canonical =
        (ps.foldl (fun p q => if q.precedes p then q else p)
          p).canonical := by
    intro ps
    induction ps with
    | nil =>
        intro p
        rfl
    | cons q ps ih =>
        intro p
        rw [List.map_cons, List.foldl_cons, List.foldl_cons,
          PricedCandidate.precedes_canonical, ← ih]
        split <;> rfl
  cases ps with
  | nil => rfl
  | cons p ps =>
      rw [List.map_cons, cheapest?, cheapest?, hFold]
      rfl

end Greedy

/- A step with a canonical fragment. -/
def PlanStep.canonical (s : PlanStep) : PlanStep :=
  { s with fragment := s.fragment.canonical }

/- A round with a canonical fragment. -/
def Greedy.Round.canonical (r : Greedy.Round) : Greedy.Round :=
  { r with step := r.step.canonical }

namespace Greedy

/- Canonical candidates have canonical prices. -/
theorem priced_canonical
    (m : CostModel Binary64)
    (bound : VarSet)
    (cs : List Candidate) :
    (eligible bound (cs.map Candidate.canonical)).map (price m bound) =
      ((eligible bound cs).map (price m bound)).map
        PricedCandidate.canonical := by
  rw [eligible_canonical, List.map_map, List.map_map]
  apply List.map_congr_left
  intro c _
  exact price_canonical m bound c

/- Canonical candidates of other sets. -/
theorem others_canonical
    (id : Nat)
    (cs : List Candidate) :
    (cs.map Candidate.canonical).filter (fun d => decide (d.set ≠ id)) =
      (cs.filter fun d => decide (d.set ≠ id)).map
        Candidate.canonical := by
  rw [List.filter_map]
  rfl

/- The rounds over canonical candidates. -/
theorem rounds_canonical_eq_ok_iff
    {m : CostModel Binary64} :
    ∀ {n : Nat} {remaining : List Candidate} {bound : VarSet}
      {rs : List Round},
      rounds m n (remaining.map Candidate.canonical) bound = .ok rs ↔
        ∃ rs', rounds m n remaining bound = .ok rs' ∧
          rs = rs'.map Round.canonical := by
  intro n
  induction n with
  | zero =>
      intro remaining bound rs
      constructor
      · intro h
        cases h
        exact ⟨[], rfl, rfl⟩
      · rintro ⟨rs', h, rfl⟩
        cases h
        rfl
  | succ n ih =>
      intro remaining bound rs
      have hVars : ∀ p : PricedCandidate,
          p.canonical.candidate.fragment.vars =
            p.candidate.fragment.vars :=
        fun p => p.candidate.fragment.vars_canonical
      have hSet : ∀ p : PricedCandidate,
          p.canonical.candidate.set = p.candidate.set :=
        fun _ => rfl
      rw [rounds_succ_eq_ok_iff, priced_canonical, cheapest?_canonical]
      constructor
      · rintro ⟨p', later', hCheapest, hLater, rfl⟩
        rcases Option.map_eq_some_iff.mp hCheapest with ⟨p, hp, rfl⟩
        rw [others_canonical, hVars, hSet] at hLater
        rcases ih.mp hLater with ⟨later, hRounds, rfl⟩
        refine ⟨_, rounds_succ_eq_ok_iff.mpr
          ⟨p, later, hp, hRounds, rfl⟩, ?_⟩
        rw [eligible_canonical, List.length_map, hVars]
        rfl
      · rintro ⟨rs', h, rfl⟩
        rcases rounds_succ_eq_ok_iff.mp h
          with ⟨p, later, hp, hLater, rfl⟩
        refine ⟨p.canonical, later.map Round.canonical, ?_, ?_, ?_⟩
        · rw [hp]
          rfl
        · rw [others_canonical, hVars, hSet]
          exact ih.mpr ⟨later, hLater, rfl⟩
        · rw [eligible_canonical, List.length_map, hVars]
          rfl

end Greedy

------------------------------------------------------------
-- Plans
------------------------------------------------------------

/- A plan with canonical fragments. -/
def Plan.canonical (p : Plan) : Plan :=
  { p with steps := p.steps.map PlanStep.canonical }

namespace Greedy

/- Rounds with canonical fragments have the same trace. -/
theorem trace_canonical (rs : List Round) :
    trace (rs.map Round.canonical) = trace rs := by
  have hStep : ∀ r : Round, traceStep r.canonical = traceStep r := by
    intro r
    simp [traceStep, Round.canonical, PlanStep.canonical]
  simp [trace, hStep]

end Greedy

namespace Optimizer

/- The plan of canonical sets is the canonical plan of the sets. -/
theorem optimize_canonical_eq_ok_iff
    {o : Optimizer}
    {sets : List FragmentSet}
    {startVars : VarSet}
    {plan : Plan} :
    o.optimize (sets.map FragmentSet.canonical) startVars = .ok plan ↔
      ∃ plan', o.optimize sets startVars = .ok plan' ∧
        plan = plan'.canonical := by
  have hCandidates :
      (Arena.build (sets.map FragmentSet.canonical)).candidates =
        (Arena.build sets).candidates.map Candidate.canonical := by
    rw [← Arena.candidates_canonical, ← Arena.build_canonical]
  have hSteps : ∀ rs : List Greedy.Round,
      (rs.map Greedy.Round.canonical).map Greedy.Round.step =
        (rs.map Greedy.Round.step).map PlanStep.canonical := by
    intro rs
    simp [Greedy.Round.canonical]
  rw [optimize_eq_ok_iff, hCandidates, Arena.size_build_canonical]
  constructor
  · rintro ⟨hNonempty, rs, hRounds, rfl⟩
    rcases Greedy.rounds_canonical_eq_ok_iff.mp hRounds
      with ⟨rs', hRounds', rfl⟩
    refine ⟨_, optimize_eq_ok_iff.mpr ⟨?_, rs', hRounds', rfl⟩, ?_⟩
    · simpa using hNonempty
    · rw [hSteps, Greedy.trace_canonical]
      rfl
  · rintro ⟨plan', h, rfl⟩
    rcases optimize_eq_ok_iff.mp h with ⟨hNonempty, rs, hRounds, rfl⟩
    refine ⟨?_, rs.map Greedy.Round.canonical, ?_, ?_⟩
    · simpa using hNonempty
    · exact Greedy.rounds_canonical_eq_ok_iff.mpr ⟨rs, hRounds, rfl⟩
    · rw [hSteps, Greedy.trace_canonical]
      rfl

end Optimizer

end TraversalPlanner
