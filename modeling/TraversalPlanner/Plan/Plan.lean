import TraversalPlanner.Plan.FragmentSet
import TraversalPlanner.Plan.Trace

/-
  This file defines plans: fragments in the order in which they
  run.

  Key definitions include:
    * `PlanStep`
    * `Plan`
    * `Plan.boundAfter`
    * `Plan.IsSound`
    * `Plan.totalCost`
    * `Plan.render`
-/

namespace TraversalPlanner

------------------------------------------------------------
-- Plans
------------------------------------------------------------

/-
  A fragment of a plan, with its estimated cost at the time it
  was chosen and the number of its set.
-/
structure PlanStep where
  fragment : Fragment
  cost : Binary64
  set : Nat
deriving DecidableEq, Repr

/- Fragments in order, and the variables that are bound before. -/
structure Plan where
  steps : List PlanStep
  startVars : VarSet
  trace : Option PlanTrace
deriving DecidableEq

namespace Plan

/- The fragments of a plan in order. -/
def fragments (p : Plan) : List Fragment :=
  p.steps.map PlanStep.fragment

/- The sum of the costs of all steps. -/
def totalCost (p : Plan) : Binary64 :=
  Binary64.sum (p.steps.map PlanStep.cost)

/- The variables that are bound after some fragments have run. -/
def boundAfter
    (bound : VarSet)
    (fs : List Fragment) : VarSet :=
  fs.foldl (fun bound f => bound.insertMany f.vars.toList) bound

/- Every fragment runs when its dependencies are bound. -/
def SoundFrom : VarSet → List Fragment → Prop
| _, [] => True
| bound, f :: fs =>
    bound.ContainsAll f.dependencies ∧
      SoundFrom (bound.insertMany f.vars.toList) fs

instance decidableSoundFrom :
    (bound : VarSet) → (fs : List Fragment) → Decidable (SoundFrom bound fs)
| _, [] => isTrue trivial
| bound, f :: fs =>
    have := decidableSoundFrom (bound.insertMany f.vars.toList) fs
    inferInstanceAs (Decidable
      (bound.ContainsAll f.dependencies ∧
        SoundFrom (bound.insertMany f.vars.toList) fs))

/- Every step runs when its dependencies are bound. -/
def IsSound (p : Plan) : Prop :=
  SoundFrom p.startVars p.fragments

instance (p : Plan) : Decidable p.IsSound := by
  unfold IsSound
  infer_instance

/- The line of the step with a number. -/
def renderStep
    (n : Nat)
    (s : PlanStep) : String :=
  n.repr ++ ". " ++ s.fragment.render ++
    " (cost " ++ s.cost.renderFixed ++ ")\n"

/- The text of a plan: a line for every step and one for the total. -/
def render (p : Plan) : String :=
  let lines := p.steps.zipIdx.map fun (s, i) => renderStep (i + 1) s
  String.join lines ++ "total cost " ++ p.totalCost.renderFixed

end Plan

end TraversalPlanner
