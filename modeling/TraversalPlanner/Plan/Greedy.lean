import TraversalPlanner.Plan.CostModel
import TraversalPlanner.Plan.Plan
import TraversalPlanner.Plan.Stall

/-
  This file orders fragments greedily.  Each round considers the
  fragments of the sets without a choice whose dependencies are
  bound, chooses the cheapest one, and binds its variables.

  Key definitions include:
    * `PricedCandidate`
    * `PricedCandidate.precedes`
    * `Greedy.eligible`
    * `Greedy.cheapest?`
    * `Greedy.rounds`
    * `Optimizer`
    * `Optimizer.optimize`
-/

namespace TraversalPlanner

------------------------------------------------------------
-- The Order of Candidates
------------------------------------------------------------

/- A candidate and what it costs now. -/
structure PricedCandidate where
  cost : Binary64
  candidate : Candidate
deriving DecidableEq, Repr

namespace PricedCandidate

/- How two keys are ordered. -/
def compareKeys
    {K : Type}
    [KeyOrder K]
    (a b : K) : Ordering :=
  if KeyOrder.before a b then
    .lt
  else if KeyOrder.before b a then
    .gt
  else
    .eq

/- How two optional variables are ordered; none comes first. -/
def compareOptional : Option Var → Option Var → Ordering
| none, none => .eq
| none, some _ => .lt
| some _, none => .gt
| some x, some y => compareKeys x y

/-
  How two candidates are ordered: by cost, start variable, end
  variable, name, set and position.
-/
def order (p q : PricedCandidate) : Ordering :=
  let f := p.candidate.fragment
  let g := q.candidate.fragment
  (compare p.cost.rank q.cost.rank).then <|
    (compareKeys f.start g.start).then <|
      (compareOptional f.finish? g.finish?).then <|
        (compareKeys f.name g.name).then <|
          (compare p.candidate.set q.candidate.set).then <|
            compare p.candidate.index q.candidate.index

/- The first candidate is ordered before the second one. -/
def precedes (p q : PricedCandidate) : Bool :=
  p.order q = .lt

end PricedCandidate

------------------------------------------------------------
-- Rounds
------------------------------------------------------------

namespace Greedy

/- The candidates whose dependencies are bound, in order. -/
def eligible
    (bound : VarSet)
    (remaining : List Candidate) : List Candidate :=
  remaining.filter fun c => decide (bound.ContainsAll c.fragment.dependencies)

/- What a candidate costs when some variables are bound. -/
def price
    (m : CostModel Binary64)
    (bound : VarSet)
    (c : Candidate) : PricedCandidate :=
  ⟨m.cost bound c.fragment, c⟩

/- The first candidate in order. -/
def cheapest? : List PricedCandidate → Option PricedCandidate
| [] => none
| p :: ps => some (ps.foldl (fun p q => if q.precedes p then q else p) p)

/-
  A round: the chosen step, the number of candidates, and the
  variables bound afterwards.
-/
structure Round where
  step : PlanStep
  candidates : Nat
  bound : VarSet
deriving DecidableEq

/-
  Choose from `n` sets.  `remaining` are the candidates of these
  sets, and a choice removes those of its set.
-/
def rounds
    (m : CostModel Binary64) :
    (n : Nat) →
    (remaining : List Candidate) →
    (bound : VarSet) →
    Except PlanningError (List Round)
| 0, _, _ => .ok []
| n + 1, remaining, bound =>
    let priced := (eligible bound remaining).map (price m bound)
    match cheapest? priced with
    | none =>
        .error (Stall.diagnose bound (remaining.map Candidate.fragment))
    | some p =>
        let c := p.candidate
        let bound := bound.insertMany c.fragment.vars.toList
        let others := remaining.filter fun d => decide (d.set ≠ c.set)
        match rounds m n others bound with
        | .error e => .error e
        | .ok later =>
            .ok (⟨⟨c.fragment, p.cost, c.set⟩, priced.length, bound⟩ :: later)

/- The trace entry of a round. -/
def traceStep (r : Round) : TraceStep where
  candidates := r.candidates
  chosen := r.step.fragment.render
  cost := r.step.cost
  bound := r.bound.render
  duration := .zero

/- The trace of a planning run. -/
def trace (rs : List Round) : PlanTrace where
  steps := rs.map traceStep
  duration := .zero

end Greedy

------------------------------------------------------------
-- Optimizers
------------------------------------------------------------

/- A cost model, and whether plans carry a trace. -/
structure Optimizer where
  model : CostModel Binary64
  traced : Bool
deriving DecidableEq

namespace Optimizer

/- A plan for sets of fragments, when some variables are bound. -/
def optimize
    (o : Optimizer)
    (sets : List FragmentSet)
    (startVars : VarSet) : Except PlanningError Plan :=
  if sets.isEmpty then
    .error .nothingToPlan
  else
    let arena := Arena.build sets
    match Greedy.rounds o.model arena.size arena.candidates startVars with
    | .error e => .error e
    | .ok rs =>
        .ok
          { steps := rs.map Greedy.Round.step
            startVars := startVars
            trace := if o.traced then some (Greedy.trace rs) else none }

end Optimizer

end TraversalPlanner
